import Paxosme.Core.LogStorage
import Paxosme.Lib.KeyedLog
import Paxosme.Verif.Crashes

/-!
# The index of the log

The segments hold the record of every `Put` that succeeded, in the order of the calls, and the
database leads from a key to its latest record unless the key has been deleted since (`Kept`).
`Put`, `Get` and `Delete` keep that and do what it says.
-/

namespace Paxosme

open Posix Bytes Framing KeyedLog

/-- A call of a log storage. -/
inductive LogOperation where
  | put (key value : List UInt8)
  | get (key : List UInt8)
  | delete (key : List UInt8)
  deriving DecidableEq, Repr

/-- The key that a call is about. -/
def LogOperation.key : LogOperation → List UInt8
  | .put key _ => key
  | .get key => key
  | .delete key => key

/-- The key and the value that a call puts. -/
def LogOperation.record : LogOperation → Option (List UInt8 × List UInt8)
  | .put key value => some (key, value)
  | _ => none

/-- A log storage with the files under it, and the calls that succeeded so far. -/
structure LogSession (δ : Type) where
  storage : DataBaseLogStorage δ
  files : Files FileName
  done : List LogOperation

variable {δ : Type}

namespace LogSession

variable (level : LevelDb δ) (env : Environment)

/-- One call, all calls of the system going through; no session when the process stops. -/
def perform (session : LogSession δ) (operation : LogOperation) : Option (LogSession δ) :=
  match operation with
  | .put key value =>
    match (session.storage.put level env key value).run session.files with
    | (some (put, storage), files) =>
      some ⟨storage, files, if put then session.done ++ [operation] else session.done⟩
    | (none, _) => none
  | .get key =>
    match (session.storage.get level env key).run session.files with
    | (some value, files) =>
      some { session with
        files, done := if value.isSome then session.done ++ [operation] else session.done }
    | (none, _) => none
  | .delete key =>
    match (session.storage.delete level key).run session.files with
    | (some (deleted, _, storage), files) =>
      some ⟨storage, files, if deleted then session.done ++ [operation] else session.done⟩
    | (none, _) => none

/-- The last call for a key that succeeded deleted it. -/
def Deleted (session : LogSession δ) (key : List UInt8) : Prop :=
  latest LogOperation.key session.done key = some (.delete key)

instance (session : LogSession δ) (key : List UInt8) : Decidable (session.Deleted key) :=
  inferInstanceAs (Decidable (_ = _))

/-- The keys and values that have been put, oldest first. -/
def puts (session : LogSession δ) : List (List UInt8 × List UInt8) :=
  session.done.filterMap LogOperation.record

/-- The segments hold the records of a layout, and a store appends to them or has used up the
numbers. -/
structure Stands (env : Environment) (options : LogStorageOptions) (layout : Layout)
    (store : LogSegmentStore) (files : Files FileName) : Prop where
  filled : ∀ entries ∈ layout.closed, entries ≠ []
  held : Laid env options (fun _ => False) layout (restOf options layout) store files ∨
    Spent env options (fun _ => False) layout store files

/-- The database leads from each key to a record that can be read, or to none. -/
structure Findable (options : LogStorageOptions) (session : LogSession δ) (layout : Layout)
    (leads : List UInt8 → Option Placed) : Prop where
  readable : ∃ tail, Readable options (fun _ => False) layout tail session.storage.segmentStore
    session.files
  index : ∀ key, level.get session.storage.logIndexDb key = (leads key).map (Placed.index env)
  inside : ∀ key placed, leads key = some placed → placed ∈ layout.placed

/-- The database leads from each key to a record that the segments hold, or to none. -/
structure Indexed (options : LogStorageOptions) (session : LogSession δ) (layout : Layout)
    (leads : List UInt8 → Option Placed) : Prop where
  stands : Stands env options layout session.storage.segmentStore session.files
  index : ∀ key, level.get session.storage.logIndexDb key = (leads key).map (Placed.index env)
  inside : ∀ key placed, leads key = some placed → placed ∈ layout.placed

/-- The segments hold the records that have been put, each with its key beside it, and the
database leads to the latest one of each key that is not deleted. -/
structure Kept (options : LogStorageOptions) (session : LogSession δ) (layout : Layout)
    (records : List (List UInt8 × Placed)) : Prop where
  indexed : session.Indexed level env options layout fun key =>
    if session.Deleted key then none else (latest Prod.fst records key).map Prod.snd
  placed : layout.placed = records.map Prod.snd
  copies : ∀ record ∈ records,
    env.copied (record.1 ++ [0]) options.indexKeyLength = record.2.entry.key
  puts : session.puts = records.map fun record => (record.1, record.2.entry.value)

variable {level env} {options : LogStorageOptions} {session : LogSession δ} {layout : Layout}
  {records : List (List UInt8 × Placed)} {leads : List UInt8 → Option Placed}
  {store : LogSegmentStore} {files : Files FileName}

namespace Stands

/-- The records can be read. -/
theorem readable (stands : Stands env options layout store files) :
    ∃ tail, Readable options (fun _ => False) layout tail store files := by
  rcases stands.held with laid | spent
  · exact ⟨_, laid.readable⟩
  · exact ⟨_, spent.readable⟩

/-- The segment in use has a number. -/
theorem number (stands : Stands env options layout store files) :
    layout.closed.length < 2 ^ 32 := by
  rcases stands.held with laid | spent
  · exact laid.archive.number
  · have all := spent.all
    omega

/-- Reading changes nothing. -/
theorem unchanged {after : Files FileName} (stands : Stands env options layout store files)
    (same : files.Unchanged after) : Stands env options layout store after where
  filled := stands.filled
  held := stands.held.imp (fun laid => laid.unchanged same) fun spent => spent.unchanged same

/-- `Append` puts the record behind the others, or none. -/
theorem append (sized : options.Sized) (stands : Stands env options layout store files)
    (key value : List UInt8) :
    ∃ (store' : LogSegmentStore) (layout' : Layout) (spot : Option Placed),
      Completes (store.append env key value) files
        (spot.map (Placed.index env), store') (Stands env options layout' store') ∧
      layout'.placed = layout.placed ++ spot.toList ∧
      ∀ placed ∈ spot, placed.entry = recordOf env options key value := by
  have filled := stands.filled
  have copies : env.copied (key ++ [0]) options.indexKeyLength =
      (recordOf env options key value).key := rfl
  rcases stands.held with laid | spent
  · rcases Nat.lt_or_ge options.segmentMaxSize (recordOf env options key value).size with
      big | small
    · have refused : store.append env key value = pure (none, store) :=
        laid.append_big (length_of_copies copies) big key
      refine ⟨store, layout, none, ?_, by simp, by simp⟩
      rw [refused]
      exact Completes.pure _ stands
    · by_cases wraps : (restOf options layout).length < (recordOf env options key value).size ∧
          layout.closed.length + 1 = 2 ^ 32
      · have fails : Completes (store.append env key value) files _ _ :=
          laid.append_wraps sized copies wraps.1 small wraps.2 not_false
        exact ⟨_, layout, none, fails.imp fun after spent => ⟨filled, .inr spent⟩, by simp,
          by simp⟩
      · have number := laid.archive.number
        have more : (restOf options layout).length < (recordOf env options key value).size →
            layout.closed.length + 1 < 2 ^ 32 := fun full => by omega
        obtain ⟨store', appends⟩ := laid.append_stores sized copies small more not_false
        rw [tailOf_restOf small, Layout.place_eq_append small] at appends
        refine ⟨store', _, some _,
          appends.imp fun after laid => ⟨Layout.filled_append filled small, .inl laid⟩, ?_, ?_⟩
        · rw [← Layout.place_eq_append small, Layout.placed_place]
          rfl
        · intro placed same
          obtain rfl := Option.mem_some.mp same
          exact layout.spot_entry _ _
  · have fails : Completes (store.append env key value) files _ _ :=
      LogSegmentStore.append_closed spent.closed spent.inside key value
    exact ⟨store, layout, none,
      fails.imp fun after same => ⟨filled, .inr (spent.unchanged same)⟩, by simp, by simp⟩

end Stands

/-- The index may be described in another way. -/
theorem Findable.congr (findable : session.Findable level env options layout leads)
    {leads' : List UInt8 → Option Placed} (same : ∀ key, leads' key = leads key) :
    session.Findable level env options layout leads' := by
  rw [show leads' = leads from funext same]
  exact findable

/-- `Get` returns the value of the record that the index leads to, if what the record holds of
the key is the key. -/
theorem Findable.get_value (sized : options.Sized)
    (findable : session.Findable level env options layout leads) (key : List UInt8) :
    Completes (session.storage.get level env key) session.files
      ((leads key).bind fun placed =>
        if placed.entry.key = key then some placed.entry.value else none)
      session.files.Unchanged := by
  have index := findable.index key
  rw [DataBaseLogStorage.get, LogIndexDB.getIndex, DataBaseLogStorage.toIndexKey, index]
  cases found : leads key with
  | none => exact Completes.pure _ (Files.Moved.refl _).unchanged
  | some placed =>
    obtain ⟨tail, readable⟩ := findable.readable
    refine (Performs.touch _ _).andThen ?_
    refine (readable.read_placed sized (findable.inside key placed found) not_false).bind
      fun after same => ?_
    rw [Option.bind_some]
    dsimp only
    by_cases whole : placed.entry.key = key
    · rw [if_neg (not_not.mpr whole), if_pos whole]
      exact Completes.pure _ same
    · rw [if_pos whole, if_neg whole]
      exact Completes.pure _ same

/-- A call that succeeds decides whether its key is deleted. -/
theorem deleted_done (session : LogSession δ) {session' : LogSession δ} {operation : LogOperation}
    (done : session'.done = session.done ++ [operation]) (key : List UInt8) :
    session'.Deleted key ↔
      if operation.key = key then operation = .delete key else session.Deleted key := by
  rw [Deleted, done, latest_concat]
  split
  · exact Option.some_inj
  · rfl

/-- A call that succeeds adds what it puts. -/
theorem puts_done (session : LogSession δ) {session' : LogSession δ} {operation : LogOperation}
    (done : session'.done = session.done ++ [operation]) :
    session'.puts = session.puts ++ operation.record.toList := by
  rw [puts, puts, done, List.filterMap_append]
  cases operation with
  | _ => rfl

namespace Indexed

/-- The index may be described in another way. -/
theorem congr (indexed : session.Indexed level env options layout leads)
    {leads' : List UInt8 → Option Placed} (same : ∀ key, leads' key = leads key) :
    session.Indexed level env options layout leads' := by
  rw [show leads' = leads from funext same]
  exact indexed

/-- Reading keeps the index. -/
theorem unchanged (indexed : session.Indexed level env options layout leads)
    {session' : LogSession δ} (storage : session'.storage = session.storage)
    (same : session.files.Unchanged session'.files) :
    session'.Indexed level env options layout leads where
  stands := by rw [storage]; exact indexed.stands.unchanged same
  index := by rw [storage]; exact indexed.index
  inside := indexed.inside

/-- What the database leads to can be found. -/
theorem findable (indexed : session.Indexed level env options layout leads) :
    session.Findable level env options layout leads :=
  ⟨indexed.stands.readable, indexed.index, indexed.inside⟩

/-- `Put` has the key lead to its record, or changes nothing. -/
theorem put_completes (sized : options.Sized)
    (indexed : session.Indexed level env options layout leads) (key value : List UInt8) :
    ∃ (storage : DataBaseLogStorage δ) (layout' : Layout) (spot : Option Placed),
      Completes (session.storage.put level env key value) session.files (spot.isSome, storage)
        (fun files => ∀ done, (⟨storage, files, done⟩ : LogSession δ).Indexed level env options
          layout' (Function.update leads key (spot.or (leads key)))) ∧
      layout'.placed = layout.placed ++ spot.toList ∧
      ∀ placed ∈ spot, placed.entry = recordOf env options key value := by
  obtain ⟨store, layout', spot, appends, placed, entry⟩ :=
    indexed.stands.append sized key value
  cases spot with
  | none =>
    refine ⟨{ session.storage with segmentStore := store }, layout', none, ?_, placed, entry⟩
    refine appends.bind fun after stands => Completes.pure _ fun done => ?_
    rw [Option.none_or, Function.update_eq_self]
    refine ⟨stands, indexed.index, fun other found leadsTo => ?_⟩
    rw [placed]
    exact List.mem_append_left _ (indexed.inside other found leadsTo)
  | some spot =>
    have ok := level.put_ok session.storage.logIndexDb key (spot.index env)
    refine ⟨⟨(level.put session.storage.logIndexDb key (spot.index env)).2, store⟩, layout',
      some spot, ?_, placed, entry⟩
    refine appends.bind fun after stands => ?_
    simp only [Option.map_some, LogIndexDB.putIndex, DataBaseLogStorage.toIndexKey, ok,
      Bool.not_true, Bool.false_eq_true, if_false]
    refine Completes.pure _ fun done => ?_
    rw [Option.some_or]
    refine ⟨stands, fun other => ?_, fun other found leadsTo => ?_⟩
    · rw [level.get_put]
      by_cases same : other = key
      · rw [same, Function.update_self, Function.update_self]
        rfl
      · rw [Function.update_of_ne same, Function.update_of_ne same, indexed.index]
    · rw [placed]
      by_cases same : other = key
      · rw [same, Function.update_self] at leadsTo
        rw [leadsTo]
        exact List.mem_append_right _ (by simp)
      · rw [Function.update_of_ne same] at leadsTo
        exact List.mem_append_left _ (indexed.inside other found leadsTo)

/-- A call of `Put`. -/
theorem put (sized : options.Sized) (indexed : session.Indexed level env options layout leads)
    (key value : List UInt8) :
    ∃ (session' : LogSession δ) (layout' : Layout) (spot : Option Placed),
      session.perform level env (.put key value) = some session' ∧
      session'.done = session.done ++ (spot.map fun _ => LogOperation.put key value).toList ∧
      layout'.placed = layout.placed ++ spot.toList ∧
      (∀ placed ∈ spot, placed.entry = recordOf env options key value) ∧
      session'.Indexed level env options layout'
        (Function.update leads key (spot.or (leads key))) := by
  obtain ⟨storage, layout', spot, puts, placed, entry⟩ := indexed.put_completes sized key value
  obtain ⟨files, run, indexed'⟩ := puts.run
  refine ⟨_, layout', spot, by rw [perform, run], ?_, placed, entry, indexed' _⟩
  cases spot with
  | none => exact (List.append_nil _).symm
  | some spot => rfl

/-- `Get` changes nothing. -/
theorem get (sized : options.Sized) (indexed : session.Indexed level env options layout leads)
    (key : List UInt8) :
    ∃ (session' : LogSession δ) (value : Option (List UInt8)),
      session.perform level env (.get key) = some session' ∧
      session'.done = session.done ++ (value.map fun _ => LogOperation.get key).toList ∧
      (value.isSome → (leads key).isSome) ∧
      session'.Indexed level env options layout leads := by
  obtain ⟨files, run, same⟩ := (indexed.findable.get_value sized key).run
  let value := (leads key).bind fun placed =>
    if placed.entry.key = key then some placed.entry.value else none
  refine ⟨{ session with
    files, done := if value.isSome then session.done ++ [.get key] else session.done }, value,
    by rw [perform, run], ?_, fun found => ?_, indexed.unchanged rfl same⟩
  · dsimp only
    split
    · rename_i found
      rw [Option.isSome_iff_exists] at found
      obtain ⟨value, found⟩ := found
      rw [found]
      rfl
    · rename_i missing
      rw [Option.not_isSome_iff_eq_none] at missing
      rw [missing]
      exact (List.append_nil _).symm
  · exact Option.isSome_of_isSome_bind found

/-- `Delete` takes the index of a key away, if it has one. -/
theorem delete (sized : options.Sized) (indexed : session.Indexed level env options layout leads)
    (key : List UInt8) :
    ∃ session' : LogSession δ, session.perform level env (.delete key) = some session' ∧
      session'.done = session.done ++ ((leads key).map fun _ => LogOperation.delete key).toList ∧
      session'.Indexed level env options layout (Function.update leads key none) := by
  have index := indexed.index key
  cases found : leads key with
  | none =>
    rw [found] at index
    have fails : session.storage.delete level key = pure (false, [], session.storage) := by
      rw [DataBaseLogStorage.delete, LogIndexDB.getIndex, DataBaseLogStorage.toIndexKey, index]
      rfl
    refine ⟨session, by rw [perform, fails]; rfl, by simp, ?_⟩
    rw [← found, Function.update_eq_self]
    exact indexed
  | some placed =>
    rw [found] at index
    obtain ⟨tail, readable⟩ := indexed.stands.readable
    obtain ⟨before, after, inside, offset⟩ :=
      Layout.of_mem_placed (indexed.inside key placed found)
    obtain ⟨events, removes⟩ : ∃ events, Completes
        (LogSegmentStore.removeAsync (placed.index env)) session.files (true, events)
        session.files.Unchanged := by
      have removes : Completes (LogSegmentStore.removeAsync (Placed.index env _)) _ _ _ :=
        readable.removeAsync_placed sized inside not_false
      rw [← offset] at removes
      exact ⟨_, removes⟩
    have ok := level.delete_ok session.storage.logIndexDb key
    have deletes : Completes (session.storage.delete level key) session.files
        (true, events, { session.storage with
          logIndexDb := (level.delete session.storage.logIndexDb key).2 })
        session.files.Unchanged := by
      rw [DataBaseLogStorage.delete, LogIndexDB.getIndex, DataBaseLogStorage.toIndexKey, index]
      refine removes.bind fun files same => ?_
      simp only [LogIndexDB.delIndex, ok, Bool.not_true, Bool.false_eq_true, if_false]
      exact Completes.pure _ same
    obtain ⟨files, run, same⟩ := deletes.run
    refine ⟨⟨{ session.storage with
      logIndexDb := (level.delete session.storage.logIndexDb key).2 }, files,
      session.done ++ [.delete key]⟩, by rw [perform, run]; rfl, rfl,
      indexed.stands.unchanged same, fun other => ?_, fun other placed leadsTo => ?_⟩
    · rw [level.get_delete]
      by_cases same' : other = key
      · rw [same', Function.update_self, Function.update_self]
        rfl
      · rw [Function.update_of_ne same', Function.update_of_ne same', indexed.index]
    · by_cases same' : other = key
      · rw [same', Function.update_self] at leadsTo
        cases leadsTo
      · rw [Function.update_of_ne same'] at leadsTo
        exact indexed.inside other placed leadsTo

end Indexed

namespace Kept

/-- Sessions with the same calls keep the same records. -/
theorem same (kept : session.Kept level env options layout records) {session' : LogSession δ}
    {layout' : Layout} (done : session'.done = session.done)
    (placed : layout'.placed = layout.placed)
    (indexed : session'.Indexed level env options layout' fun key =>
      if session.Deleted key then none else (latest Prod.fst records key).map Prod.snd) :
    session'.Kept level env options layout' records where
  indexed := indexed.congr fun key => by
    have deleted : session'.Deleted key ↔ session.Deleted key := by
      rw [Deleted, done]
      rfl
    rw [if_congr deleted rfl rfl]
  placed := placed.trans kept.placed
  copies := kept.copies
  puts := by rw [LogSession.puts, done]; exact kept.puts

/-- `Put` adds its record, or changes nothing. -/
theorem put (sized : options.Sized) (kept : session.Kept level env options layout records)
    (key value : List UInt8) :
    ∃ (session' : LogSession δ) (layout' : Layout) (spot : Option Placed),
      session.perform level env (.put key value) = some session' ∧
      session'.done = session.done ++ (spot.map fun _ => LogOperation.put key value).toList ∧
      session'.Kept level env options layout'
        (records ++ (spot.map fun placed => (key, placed)).toList) := by
  obtain ⟨session', layout', spot, performed, done, placed, entry, indexed⟩ :=
    kept.indexed.put sized key value
  refine ⟨session', layout', spot, performed, done, ?_⟩
  cases spot with
  | none =>
    rw [Option.none_or, Function.update_eq_self] at indexed
    have kept' := kept.same (done.trans (by simp)) (placed.trans (by simp)) indexed
    simpa using kept'
  | some spot =>
    have added : session'.done = session.done ++ [.put key value] := done
    have entry' : spot.entry = recordOf env options key value := entry spot rfl
    rw [Option.map_some, Option.toList_some]
    constructor
    · refine indexed.congr fun other => ?_
      rw [if_congr (deleted_done session added other) rfl rfl, latest_concat]
      by_cases same : key = other
      · subst same
        simp [LogOperation.key]
      · rw [Function.update_of_ne (Ne.symm same)]
        simp only [LogOperation.key, same, if_false]
    · rw [placed, kept.placed, List.map_append]
      rfl
    · intro record member
      rcases List.mem_append.mp member with old | new
      · exact kept.copies record old
      · obtain rfl := List.mem_singleton.mp new
        rw [entry']
        rfl
    · rw [puts_done session added, kept.puts, List.map_append, List.map_singleton, entry']
      rfl

/-- `Get` changes nothing. -/
theorem get (sized : options.Sized) (kept : session.Kept level env options layout records)
    (key : List UInt8) :
    ∃ session', session.perform level env (.get key) = some session' ∧
      session'.Kept level env options layout records := by
  obtain ⟨session', value, performed, done, found, indexed⟩ := kept.indexed.get sized key
  refine ⟨session', performed, ?_⟩
  cases value with
  | none => exact kept.same (done.trans (by simp)) rfl indexed
  | some value =>
    have added : session'.done = session.done ++ [.get key] := done
    have present : ¬ session.Deleted key := fun deleted => by
      have none := found rfl
      rw [if_pos deleted] at none
      cases none
    refine ⟨indexed.congr fun other => ?_, kept.placed, kept.copies, ?_⟩
    · rw [if_congr (deleted_done session added other) rfl rfl]
      by_cases same : key = other
      · subst same
        simp [LogOperation.key, present]
      · simp only [LogOperation.key, same, if_false]
    · rw [puts_done session added]
      exact (List.append_nil _).trans kept.puts

/-- `Delete` deletes a key that has an index. -/
theorem delete (sized : options.Sized) (kept : session.Kept level env options layout records)
    (key : List UInt8) :
    ∃ session', session.perform level env (.delete key) = some session' ∧
      session'.Kept level env options layout records := by
  obtain ⟨session', performed, done, indexed⟩ := kept.indexed.delete sized key
  refine ⟨session', performed, ?_⟩
  cases found : if session.Deleted key then none else (latest Prod.fst records key).map Prod.snd with
  | none =>
    rw [found] at done
    refine kept.same (done.trans (by simp)) rfl (indexed.congr fun other => ?_)
    by_cases same : other = key
    · rw [same, found, Function.update_self]
    · rw [Function.update_of_ne same]
  | some placed =>
    rw [found] at done
    have added : session'.done = session.done ++ [.delete key] := done
    refine ⟨indexed.congr fun other => ?_, kept.placed, kept.copies, ?_⟩
    · rw [if_congr (deleted_done session added other) rfl rfl]
      by_cases same : key = other
      · subst same
        simp [LogOperation.key]
      · rw [Function.update_of_ne (Ne.symm same)]
        simp only [LogOperation.key, same, if_false]
    · rw [puts_done session added]
      exact (List.append_nil _).trans kept.puts

/-- Every call keeps what is put. -/
theorem perform (sized : options.Sized) (kept : session.Kept level env options layout records)
    (operation : LogOperation) :
    ∃ session' layout' records', session.perform level env operation = some session' ∧
      session'.Kept level env options layout' records' := by
  cases operation with
  | put key value =>
    obtain ⟨session', layout', spot, performed, -, kept'⟩ := kept.put sized key value
    exact ⟨session', layout', _, performed, kept'⟩
  | get key =>
    obtain ⟨session', performed, kept'⟩ := kept.get sized key
    exact ⟨session', layout, records, performed, kept'⟩
  | delete key =>
    obtain ⟨session', performed, kept'⟩ := kept.delete sized key
    exact ⟨session', layout, records, performed, kept'⟩

end Kept

end LogSession

end Paxosme

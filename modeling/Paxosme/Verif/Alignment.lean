import Paxosme.Verif.LogIndex
import Paxosme.Verif.LogScan
import Paxosme.Verif.PartialWrites

/-!
# The index is aligned with the segments

`Init` scans the log from the record of the last key on and enters what it finds. So the index
leads to the latest record of each key of which the scan finds one, and the other keys keep the
index they had.
-/

namespace Paxosme

open Posix Bytes Framing KeyedLog

variable {δ : Type} (level : LevelDb δ)

/-- A database after some indexes have been entered. -/
def entered (db : δ) (found : List (List UInt8 × SegmentIndex)) : δ :=
  found.foldl (fun db next => (LogIndexDB.putIndex level db next.1 next.2).2) db

variable {level} {env : Environment} {options : LogStorageOptions} {gone : Nat → Prop}
  {layout : Layout} {tail : List UInt8} {store : LogSegmentStore} {files : Files FileName}

/-- The loop enters what a scan of the log finds. -/
theorem replayLoop_eq_scan (calls : Nat) (db : δ) (segmentId : SegmentId) (offset : Int) :
    DataBaseLogStorage.replayLoop level env store calls db segmentId offset =
      scan env store calls segmentId offset >>= fun found => pure (entered level db found) := by
  induction calls generalizing db segmentId offset with
  | zero => rfl
  | succ calls ih =>
    funext world
    simp only [DataBaseLogStorage.replayLoop, scan, bind_apply, ih]
    cases store.replayLog env segmentId offset world with
    | mk result world =>
      cases result with
      | none => rfl
      | some result =>
        obtain ⟨next, found⟩ := result
        dsimp only
        by_cases zero : next = 0
        · rw [zero]
          rfl
        · rw [if_neg zero]
          by_cases negative : next < 0
          · rw [if_pos negative, if_pos negative]
            rfl
          · rw [if_neg negative, if_neg negative, if_neg zero]
            simp only [bind_apply]
            cases scan env store calls segmentId next world with
            | mk later world =>
              cases later with
              | none => rfl
              | some later =>
                cases found with
                | none => rfl
                | some first => rfl

/-- What has been entered is found, and the rest as before. -/
theorem get_entered (db : δ) (found : List Placed) (key : List UInt8) :
    level.get (entered level db (found.map (Placed.found env))) key =
      ((latest (fun placed => placed.entry.key) found key).map (Placed.index env)).or
        (level.get db key) := by
  induction found generalizing db with
  | nil => rfl
  | cons placed found ih =>
    have step : entered level db ((placed :: found).map (Placed.found env)) =
        entered level (level.put db placed.entry.key (placed.index env)).2
          (found.map (Placed.found env)) := rfl
    rw [step, ih, level.get_put, latest]
    cases latest (fun placed => placed.entry.key) found key with
    | some later => rfl
    | none =>
      by_cases same : placed.entry.key = key
      · rw [if_pos same, ← same, Function.update_self]
        rfl
      · rw [if_neg same, Function.update_of_ne (Ne.symm same)]
        rfl

namespace DataBaseLogStorage

/-- The segment that the last key leads to is not numbered above the one in use. -/
def Reaches (level : LevelDb δ) (storage : DataBaseLogStorage δ) : Prop :=
  ∀ key index, LogIndexDB.getLastIndex level storage.logIndexDb = some (key, index) →
    ¬ storage.segmentStore.getLastSegmentId < (LogSegmentStore.parseSegmentIndex index).1

instance (level : LevelDb δ) (storage : DataBaseLogStorage δ) :
    Decidable (storage.Reaches level) :=
  decidable_of_iff (∀ last ∈ LogIndexDB.getLastIndex level storage.logIndexDb,
    ¬ storage.segmentStore.getLastSegmentId < (LogSegmentStore.parseSegmentIndex last.2).1)
    ⟨fun below key index found => below (key, index) found,
      fun reaches last found => reaches last.1 last.2 found⟩

end DataBaseLogStorage

variable {db : δ}

/-- Without an index nothing is aligned. -/
theorem align_empty (calls : Nat) (empty : level.seekToLast db = none) :
    DataBaseLogStorage.alignIndexWithSegmentStore level env calls ⟨db, store⟩ =
      pure (true, ⟨db, store⟩) := by
  have none : LogIndexDB.getLastIndex level db = none := by
    rw [LogIndexDB.getLastIndex, empty]
    rfl
  rw [DataBaseLogStorage.alignIndexWithSegmentStore, none]

/-- An index that leads above the segment in use is not aligned. -/
theorem align_refused (calls : Nat) (above : ¬ DataBaseLogStorage.Reaches level ⟨db, store⟩) :
    DataBaseLogStorage.alignIndexWithSegmentStore level env calls ⟨db, store⟩ =
      pure (false, ⟨db, store⟩) := by
  simp only [DataBaseLogStorage.Reaches, not_forall, not_not] at above
  obtain ⟨key, index, last, above⟩ := above
  rw [DataBaseLogStorage.alignIndexWithSegmentStore, last]
  exact if_pos above

/-- The index under the last key. -/
theorem getLastIndex_some {last : List UInt8} {index : SegmentIndex}
    (seeks : level.seekToLast db = some last) (found : level.get db last = some index) :
    LogIndexDB.getLastIndex level db = some (last, index) := by
  simp [LogIndexDB.getLastIndex, seeks, LogIndexDB.getIndex, found]

/-- From the record of the last key on each record is entered. -/
theorem Laid.align_since (usable : options.Usable) (ends : Ends 8 tail)
    (laid : Laid env options gone layout tail store files)
    (more : layout.closed.length + 1 < 2 ^ 32) {early later : List Placed} {placed : Placed}
    (split : layout.placed = early ++ placed :: later)
    (present : ∀ number, placed.number ≤ number → ¬ gone number)
    {last : List UInt8} (seeks : level.seekToLast db = some last)
    (found : level.get db last = some (placed.index env))
    (reaches : DataBaseLogStorage.Reaches level ⟨db, store⟩) {calls : Nat}
    (enough : layout.placed.length + layout.closed.length + 1 < calls) :
    Completes (DataBaseLogStorage.alignIndexWithSegmentStore level env calls ⟨db, store⟩) files
      (true, ⟨entered level db ((placed :: later).map (Placed.found env)), store⟩)
      files.Unchanged := by
  have lastIndex := getLastIndex_some seeks found
  have member : placed ∈ layout.placed := by simp [split]
  have parsed := laid.readable.parse_placed env usable.sized member
  have below := reaches _ _ lastIndex
  rw [parsed] at below
  have enters : Completes (DataBaseLogStorage.replayLoop level env store calls db
      (segmentId placed.number) placed.offset) files
      (entered level db ((placed :: later).map (Placed.found env))) files.Unchanged := by
    rw [replayLoop_eq_scan]
    refine (laid.scan_since usable ends more split present enough).bind fun after same => ?_
    exact Completes.pure _ same
  rw [DataBaseLogStorage.alignIndexWithSegmentStore, lastIndex]
  simp only [parsed]
  rw [if_neg below]
  exact enters.bind fun after same => Completes.pure _ same

/-- When each number has its segment the loop goes round for ever. -/
theorem Readable.align_stuck (usable : options.Usable) (ends : Ends 8 tail)
    (readable : Readable options gone layout tail store files)
    (all : layout.closed.length + 1 = 2 ^ 32) (present : ∀ number, ¬ gone number)
    {placed : Placed} (member : placed ∈ layout.placed) {last : List UInt8}
    (seeks : level.seekToLast db = some last)
    (found : level.get db last = some (placed.index env))
    (reaches : DataBaseLogStorage.Reaches level ⟨db, store⟩) (calls : Nat) :
    Stuck (DataBaseLogStorage.alignIndexWithSegmentStore level env calls ⟨db, store⟩) files := by
  have lastIndex := getLastIndex_some seeks found
  have parsed := readable.parse_placed env usable.sized member
  have below := reaches _ _ lastIndex
  rw [parsed] at below
  obtain ⟨before, after, inside, position⟩ := Layout.of_mem_placed member
  have round : Stuck (scan env store calls (segmentId placed.number) placed.offset) files := by
    rw [position]
    exact readable.scan_goes_round usable ends all present inside
  rw [DataBaseLogStorage.alignIndexWithSegmentStore, lastIndex]
  simp only [parsed]
  rw [if_neg below, replayLoop_eq_scan]
  exact round.bind.bind

/-- Whether the last key leads into the segments depends on which segment is in use. -/
theorem reaches_congr {store' : LogSegmentStore} (same : store'.curSegmentId = store.curSegmentId) :
    DataBaseLogStorage.Reaches level ⟨db, store'⟩ ↔
      DataBaseLogStorage.Reaches level ⟨db, store⟩ := by
  unfold DataBaseLogStorage.Reaches LogSegmentStore.getLastSegmentId
  rw [same]

/-- `Init` of a storage is `Init` of its segments and then their alignment. -/
theorem init_completes {fuel calls : Nat} {held post : Files FileName → Prop}
    (opens : Completes (LogSegmentStore.init env fuel {} options) files (true, store) held)
    {result : Bool × DataBaseLogStorage δ}
    (aligns : ∀ middle, held middle → Completes
      (DataBaseLogStorage.alignIndexWithSegmentStore level env calls ⟨db, store⟩) middle result
      post) :
    Completes (DataBaseLogStorage.init level env fuel calls db options) files result post := by
  refine opens.bind fun middle holds => ?_
  refine (aligns middle holds).bind fun after holds => ?_
  obtain ⟨aligned, storage⟩ := result
  cases aligned with
  | false => exact Completes.pure _ holds
  | true => exact Completes.pure _ holds

/-- `Init` does not come to an end when the alignment does not. -/
theorem init_stuck {fuel calls : Nat} {held : Files FileName → Prop}
    (opens : Completes (LogSegmentStore.init env fuel {} options) files (true, store) held)
    (round : ∀ middle, held middle →
      Stuck (DataBaseLogStorage.alignIndexWithSegmentStore level env calls ⟨db, store⟩) middle) :
    Stuck (DataBaseLogStorage.init level env fuel calls db options) files :=
  opens.stuck fun middle holds => (round middle holds).bind

namespace LogSession

variable (level env options) (fuel calls : Nat)

/-- A new object is initialised in a new process, with what `Init` returns. -/
def open_ (disk : Disk FileName) (db : δ) (done : List LogOperation) :
    Option (Bool × LogSession δ) :=
  match (DataBaseLogStorage.init level env fuel calls db options).run disk.boot with
  | (some (ready, storage), files) => some (ready, ⟨storage, files, done⟩)
  | (none, _) => none

/-- The process ends and the next one initialises a new object. -/
def restart (session : LogSession δ) : Option (Bool × LogSession δ) :=
  open_ level env options fuel calls session.files.toDisk session.storage.logIndexDb session.done

/-- A storage on a disk without one after some calls. -/
def after (disk : Disk FileName) (operations : List LogOperation) : Option (LogSession δ) :=
  match open_ level env options fuel calls disk level.created [] with
  | some (true, session) => operations.foldlM (perform level env) session
  | _ => none

/-- The segment behind the one in use has no file. -/
def NextFree (session : LogSession δ) : Prop :=
  session.files.names (.segment (session.storage.segmentStore.curSegmentId + 1)) = none

instance (session : LogSession δ) : Decidable session.NextFree :=
  inferInstanceAs (Decidable (_ = none))

variable {level env options fuel calls} {session : LogSession δ}
  {leads : List UInt8 → Option Placed}

/-- What the next process finds once its segment store is initialised. -/
structure Reopened (env : Environment) (options : LogStorageOptions) (session : LogSession δ)
    (layout : Layout) (store : LogSegmentStore) (files : Files FileName) : Prop where
  id : store.curSegmentId = session.storage.segmentStore.curSegmentId
  held : Laid env options (fun _ => False) layout (restOf options layout) store files ∨
    layout.closed.length + 1 = 2 ^ 32 ∧ Readable options (fun _ => False) layout [] store files

namespace Reopened

/-- The records can be read, and told from what is behind them. -/
theorem readable (reopened : session.Reopened env options layout store files) :
    ∃ tail, Ends 8 tail ∧ Readable options (fun _ => False) layout tail store files := by
  rcases reopened.held with laid | ⟨-, readable⟩
  · exact ⟨_, ends_zeros (by decide) _, laid.readable⟩
  · exact ⟨[], ends_of_short (by decide), readable⟩

end Reopened

namespace Indexed

/-- There is a number for the next segment while its file is missing. -/
theorem nextFree_iff (indexed : session.Indexed level env options layout leads) :
    session.NextFree ↔ layout.closed.length + 1 < 2 ^ 32 := by
  rcases indexed.stands.held with laid | spent
  · constructor
    · exact laid.more_of_missing not_false
    · intro more
      rw [NextFree, laid.id, ← segmentId_succ]
      exact Disk.view_eq_none.mp (laid.archive.next_free more)
  · have all := spent.all
    refine iff_of_false (fun free => ?_) (by omega)
    obtain ⟨entries, second⟩ : ∃ entries, (layout.closed ++ [layout.current])[1]? = some entries :=
      ⟨_, List.getElem?_eq_getElem (by rw [List.length_append, List.length_singleton]; omega)⟩
    obtain ⟨inode, named, -⟩ := spent.readable.file 1 entries second not_false
    rw [NextFree, spent.id, ← segmentId_succ, named] at free
    cases free

/-- `Init` opens the segments with their records. -/
theorem initialized (usable : options.Usable) (enough : options.segmentMaxSize < fuel)
    (indexed : session.Indexed level env options layout leads) :
    ∃ store, Completes (LogSegmentStore.init env fuel {} options) session.files.toDisk.boot
      (true, store) (session.Reopened env options layout store) := by
  rcases indexed.stands.held with laid | spent
  · have stored : Stored env options (fun _ => False) layout (restOf options layout)
        session.files.toDisk.boot.toDisk := laid.stored not_false
    obtain ⟨store, opens⟩ := stored.init usable stored.sound.boot (ends_zeros (by decide) _) enough
    rw [openedTail_restOf] at opens
    exact ⟨store, opens.imp fun after laid' => ⟨laid'.id.trans laid.id.symm, .inl laid'⟩⟩
  · obtain ⟨store, opens⟩ := spent.init usable not_false indexed.stands.filled enough
    exact ⟨store, opens.imp fun after found =>
      ⟨found.1.trans spent.id.symm, .inr ⟨spent.all, found.2⟩⟩⟩

/-- What a restart comes to. -/
theorem restart_completes {store : LogSegmentStore}
    (opens : Completes (LogSegmentStore.init env fuel {} options) session.files.toDisk.boot
      (true, store) (session.Reopened env options layout store))
    {result : Bool × DataBaseLogStorage δ} {post : Files FileName → Prop}
    (aligns : ∀ middle, session.Reopened env options layout store middle →
      Completes (DataBaseLogStorage.alignIndexWithSegmentStore level env calls
        ⟨session.storage.logIndexDb, store⟩) middle result post) :
    ∃ files, session.restart level env options fuel calls =
      some (result.1, ⟨result.2, files, session.done⟩) ∧ post files := by
  obtain ⟨files, run, holds⟩ := (init_completes opens aligns).run
  exact ⟨files, by rw [restart, open_, run], holds⟩

/-- The last key leads to a record. -/
theorem leads_last (indexed : session.Indexed level env options layout leads) {last : List UInt8}
    (seeks : level.seekToLast session.storage.logIndexDb = some last) :
    ∃ placed, leads last = some placed := by
  have present := (level.seekToLast_some _ _ seeks).1
  rw [indexed.index, Option.isSome_map] at present
  exact Option.isSome_iff_exists.mp present

/-- Without an index `Init` finds the records of the segments and enters none. -/
theorem restart_empty (usable : options.Usable) (enough : options.segmentMaxSize < fuel) (calls : Nat)
    (indexed : session.Indexed level env options layout leads)
    (empty : level.seekToLast session.storage.logIndexDb = none) :
    ∃ session', session.restart level env options fuel calls = some (true, session') ∧
      session'.Findable level env options layout leads := by
  obtain ⟨store, opens⟩ := indexed.initialized usable enough
  have aligned : DataBaseLogStorage.alignIndexWithSegmentStore level env calls
      ⟨session.storage.logIndexDb, store⟩ = pure (true, ⟨session.storage.logIndexDb, store⟩) :=
    align_empty calls empty
  obtain ⟨files, started, reopened⟩ := restart_completes opens fun middle reopened => by
    rw [aligned]
    exact Completes.pure _ reopened
  obtain ⟨tail, -, readable⟩ := reopened.readable
  exact ⟨_, started, ⟨tail, readable⟩, indexed.index, indexed.inside⟩

/-- `Init` refuses an index that leads to a segment numbered above the one in use. -/
theorem restart_refused (usable : options.Usable) (enough : options.segmentMaxSize < fuel) (calls : Nat)
    (indexed : session.Indexed level env options layout leads)
    (above : ¬ session.storage.Reaches level) :
    ∃ session', session.restart level env options fuel calls = some (false, session') ∧
      session'.Findable level env options layout leads := by
  obtain ⟨store, opens⟩ := indexed.initialized usable enough
  obtain ⟨files, started, reopened⟩ := restart_completes opens fun middle reopened => by
    have above' : ¬ DataBaseLogStorage.Reaches level ⟨session.storage.logIndexDb, store⟩ :=
      fun reaches => above ((reaches_congr reopened.id).mp reaches)
    have refused : DataBaseLogStorage.alignIndexWithSegmentStore level env calls
        ⟨session.storage.logIndexDb, store⟩ = pure (false, ⟨session.storage.logIndexDb, store⟩) :=
      align_refused calls above'
    rw [refused]
    exact Completes.pure _ reopened
  obtain ⟨tail, -, readable⟩ := reopened.readable
  exact ⟨_, started, ⟨tail, readable⟩, indexed.index, indexed.inside⟩

/-- `Init` enters the record that the last key leads to and the records behind it. -/
theorem restart_since (usable : options.Usable) (enough : options.segmentMaxSize < fuel)
    (indexed : session.Indexed level env options layout leads)
    (more : layout.closed.length + 1 < 2 ^ 32) {last : List UInt8}
    (seeks : level.seekToLast session.storage.logIndexDb = some last)
    (reaches : session.storage.Reaches level) {early later : List Placed} {placed : Placed}
    (leadsTo : leads last = some placed) (split : layout.placed = early ++ placed :: later)
    (many : layout.placed.length + layout.closed.length + 1 < calls) :
    ∃ session', session.restart level env options fuel calls = some (true, session') ∧
      session'.Findable level env options layout fun key =>
        (latest (fun placed => placed.entry.key) (placed :: later) key).or (leads key) := by
  obtain ⟨store, opens⟩ := indexed.initialized usable enough
  have found : level.get session.storage.logIndexDb last = some (placed.index env) := by
    rw [indexed.index, leadsTo]
    rfl
  obtain ⟨files, started, readable⟩ := restart_completes opens fun middle reopened => by
    have laid : Laid env options (fun _ => False) layout (restOf options layout) store middle :=
      reopened.held.resolve_right fun spent => by
        have all := spent.1
        omega
    have reaches' : DataBaseLogStorage.Reaches level ⟨session.storage.logIndexDb, store⟩ :=
      (reaches_congr reopened.id).mpr reaches
    exact (laid.align_since usable (ends_zeros (by decide) _) more split (fun _ _ => not_false) seeks found
      reaches' many).imp fun after same => laid.readable.unchanged same
  refine ⟨_, started, ⟨_, readable⟩, fun key => ?_, fun key other leadsTo' => ?_⟩
  · rw [get_entered, indexed.index, Option.map_or]
  · rcases Option.or_eq_some_iff.mp leadsTo' with new | ⟨-, old⟩
    · rw [split]
      exact List.mem_append_right _ (mem_of_latest new).1
    · exact indexed.inside key other old

/-- `Init` goes round the segments for ever when each number has its segment. -/
theorem restart_stuck (usable : options.Usable) (enough : options.segmentMaxSize < fuel) (calls : Nat)
    (indexed : session.Indexed level env options layout leads)
    (all : layout.closed.length + 1 = 2 ^ 32)
    (seeks : level.seekToLast session.storage.logIndexDb ≠ none)
    (reaches : session.storage.Reaches level) :
    session.restart level env options fuel calls = none := by
  obtain ⟨store, opens⟩ := indexed.initialized usable enough
  obtain ⟨last, seeks⟩ := Option.ne_none_iff_exists'.mp seeks
  obtain ⟨placed, leadsTo⟩ := indexed.leads_last seeks
  have found : level.get session.storage.logIndexDb last = some (placed.index env) := by
    rw [indexed.index, leadsTo]
    rfl
  have round : Stuck (DataBaseLogStorage.init level env fuel calls session.storage.logIndexDb
      options) session.files.toDisk.boot := init_stuck opens fun middle reopened => by
    obtain ⟨tail, ends, readable⟩ := reopened.readable
    exact readable.align_stuck usable ends all (fun _ => not_false)
      (indexed.inside last placed leadsTo) seeks found ((reaches_congr reopened.id).mpr reaches)
      calls
  have none := round.run
  rw [restart, open_]
  cases ran : (DataBaseLogStorage.init level env fuel calls session.storage.logIndexDb
      options).run session.files.toDisk.boot with
  | mk found files =>
    rw [ran] at none
    obtain rfl : found = Option.none := none
    rfl

end Indexed

/-! ## Runs -/

/-- A call is done or has failed. -/
theorem perform_done {session' : LogSession δ} {operation : LogOperation}
    (performed : session.perform level env operation = some session') :
    session'.done = session.done ∨ session'.done = session.done ++ [operation] := by
  cases operation with
  | put key value =>
    rw [perform] at performed
    split at performed
    · obtain rfl := Option.some.inj performed
      dsimp only
      split
      · exact .inr rfl
      · exact .inl rfl
    · cases performed
  | get key =>
    rw [perform] at performed
    split at performed
    · obtain rfl := Option.some.inj performed
      dsimp only
      split
      · exact .inr rfl
      · exact .inl rfl
    · cases performed
  | delete key =>
    rw [perform] at performed
    split at performed
    · obtain rfl := Option.some.inj performed
      dsimp only
      split
      · exact .inr rfl
      · exact .inl rfl
    · cases performed

namespace Kept

variable {layout : Layout} {records : List (List UInt8 × Placed)} {operations : List LogOperation}

/-- A run keeps what is put, and does only calls of the run. -/
theorem run (sized : options.Sized) (kept : session.Kept level env options layout records)
    (operations : List LogOperation) :
    ∃ session' layout' records', operations.foldlM (LogSession.perform level env) session =
        some session' ∧ session'.Kept level env options layout' records' ∧
      ∀ operation ∈ session'.done, operation ∈ session.done ∨ operation ∈ operations := by
  induction operations generalizing session layout records with
  | nil => exact ⟨session, layout, records, rfl, kept, fun operation done => .inl done⟩
  | cons first operations ih =>
    obtain ⟨middle, layout', records', performed, kept'⟩ := kept.perform sized first
    obtain ⟨last, layout'', records'', ran, kept'', from_⟩ := ih kept'
    refine ⟨last, layout'', records'', ?_, kept'', fun operation done => ?_⟩
    · rw [List.foldlM_cons, performed]
      exact ran
    · rcases from_ operation done with early | late
      · rcases perform_done performed with same | added
        · rw [same] at early
          exact .inl early
        · rw [added] at early
          rcases List.mem_append.mp early with old | new
          · exact .inl old
          · obtain rfl := List.mem_singleton.mp new
            exact .inr List.mem_cons_self
      · exact .inr (List.mem_cons_of_mem _ late)

/-- Records of keys that have their length hold the keys. -/
theorem keyed (kept : session.Kept level env options layout records)
    (keyed : ∀ operation ∈ session.done, operation.key.length = options.indexKeyLength) :
    ∀ record ∈ records, record.2.entry.key = record.1 := by
  intro record member
  have put : (record.1, record.2.entry.value) ∈ session.puts := by
    rw [kept.puts]
    exact List.mem_map_of_mem member
  obtain ⟨operation, done, same⟩ := List.mem_filterMap.mp put
  have length : record.1.length = options.indexKeyLength := by
    cases operation with
    | put key value =>
      obtain ⟨rfl, -⟩ := Prod.mk.inj (Option.some.inj same)
      exact keyed _ done
    | get key => cases same
    | delete key => cases same
  rw [← kept.copies record member, env.copied_key length]

end Kept

end LogSession

/-- A storage on a disk without one keeps what is put in it. -/
theorem Fresh.kept (level : LevelDb δ) {disk : Disk FileName} (sized : options.Sized) (fresh : Fresh disk)
    {fuel : Nat} (calls : Nat) (operations : List LogOperation) :
    ∃ session layout records,
      LogSession.after level env options fuel calls disk operations = some session ∧
      session.Kept level env options layout records ∧
      ∀ operation ∈ session.done, operation ∈ operations := by
  obtain ⟨store, opens⟩ : ∃ store, Completes (LogSegmentStore.init env fuel {} options) disk.boot
    (true, store) _ := fresh.init sized
  have empty : level.seekToLast level.created = none :=
    (level.seekToLast_none _).mpr level.get_created
  have aligned : DataBaseLogStorage.alignIndexWithSegmentStore level env calls
      ⟨level.created, store⟩ = pure (true, ⟨level.created, store⟩) := align_empty calls empty
  have starts : Completes (DataBaseLogStorage.init level env fuel calls level.created options)
      disk.boot (true, ⟨level.created, store⟩) (Laid env options (fun _ => False) Layout.empty
        (restOf options Layout.empty) store) := init_completes opens fun middle laid => by
    rw [aligned]
    exact Completes.pure _ laid
  obtain ⟨files, run, laid⟩ := starts.run
  have kept : (⟨⟨level.created, store⟩, files, []⟩ : LogSession δ).Kept level env options
      Layout.empty [] := by
    refine ⟨⟨⟨by simp [Layout.empty], .inl laid⟩, fun key => ?_, fun key placed found => ?_⟩, rfl,
      by simp, rfl⟩
    · rw [level.get_created]
      split
      · rfl
      · rfl
    · split at found
      · cases found
      · cases found
  obtain ⟨session, layout, records, ran, kept', from_⟩ := kept.run sized operations
  refine ⟨session, layout, records, ?_, kept', fun operation done => ?_⟩
  · rw [LogSession.after, LogSession.open_, run]
    exact ran
  · exact (from_ operation done).resolve_left List.not_mem_nil

end Paxosme

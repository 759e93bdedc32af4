import Paxosme.Verif.Alignment

/-!
# The index catches up after a crash

A `Put` appends its record and then enters the index. A process that stops in between leaves a
record without an index, and the next `Init` finds it behind the record of the last key. It looks
for it nowhere when the database has no key yet, which `AlignIndexWithSegmentStore` leaves as a
todo: the record of a first `Put` is lost.
-/

namespace Paxosme

open Posix Bytes Framing KeyedLog

variable {δ : Type}

/-- The key and the value of a record. -/
def Placed.written (placed : Placed) : List UInt8 × List UInt8 :=
  (placed.entry.key, placed.entry.value)

namespace LogSession

variable (level : LevelDb δ) (env : Environment) (options : LogStorageOptions) (fuel : Nat)

/-- A process stops in a `Put` once `Append` has returned, with what it returned. -/
def stopped (session : LogSession δ) (key value : List UInt8) : Option (Bool × LogSession δ) :=
  match (session.storage.segmentStore.append env key value).run session.files with
  | (some (logIndex, segmentStore), files) =>
    some (logIndex.isSome, { session with storage := { session.storage with segmentStore }, files })
  | (none, _) => none

/-- A restart comes to an end, and `Get` returns the value that has been put last for each key. -/
def CatchesUp (session : LogSession δ) (written : List (List UInt8 × List UInt8)) : Prop :=
  ∃ bound, ∀ calls, bound < calls → ∃ session',
    session.restart level env options fuel calls = some (true, session') ∧
    ∀ key value, latest Prod.fst written key = some (key, value) →
      Completes (session'.storage.get level env key) session'.files (some value)
        session'.files.Unchanged

variable {level env options fuel} {session : LogSession δ} {layout : Layout}
  {records : List (List UInt8 × Placed)} {disk : Disk FileName}

namespace Kept

/-- The values that have been put are those of the records. -/
theorem written_placed (kept : session.Kept level env options layout records)
    (keyed : ∀ record ∈ records, record.2.entry.key = record.1) :
    session.puts = layout.placed.map Placed.written := by
  rw [kept.puts, kept.placed, List.map_map]
  refine List.map_congr_left fun record member => ?_
  rw [Function.comp_apply, Placed.written, keyed record member]

/-- Without deletion the index leads to the latest record of each key. -/
theorem leads_placed (kept : session.Kept level env options layout records)
    (keyed : ∀ record ∈ records, record.2.entry.key = record.1)
    (undeleted : ∀ key, ¬ session.Deleted key) :
    session.Indexed level env options layout
      (latest (fun placed => placed.entry.key) layout.placed) := by
  refine kept.indexed.congr fun key => ?_
  rw [if_neg (undeleted key), kept.placed, latest_map]
  exact congrArg (Option.map Prod.snd) (latest_congr keyed)

end Kept

/-- `Init` enters the records that the index misses behind those that it knows. -/
theorem Indexed.restart_catches_up {calls : Nat} (usable : options.Usable)
    (enough : options.segmentMaxSize < fuel) {known missed : List Placed}
    (indexed : session.Indexed level env options layout
      (latest (fun placed => placed.entry.key) known))
    (placed : layout.placed = known ++ missed) (more : layout.closed.length + 1 < 2 ^ 32)
    (seeks : level.seekToLast session.storage.logIndexDb ≠ none)
    (reaches : session.storage.Reaches level)
    (many : layout.placed.length + layout.closed.length + 1 < calls) :
    ∃ session', session.restart level env options fuel calls = some (true, session') ∧
      session'.Findable level env options layout
        (latest (fun placed => placed.entry.key) layout.placed) := by
  obtain ⟨last, seeks⟩ := Option.ne_none_iff_exists'.mp seeks
  obtain ⟨spot, leadsTo⟩ := indexed.leads_last seeks
  obtain ⟨before, after, split, -, -⟩ := latest_eq_some.mp leadsTo
  have whole : layout.placed = before ++ spot :: (after ++ missed) := by
    rw [placed, split, List.append_assoc]
    rfl
  obtain ⟨session', started, findable⟩ :=
    indexed.restart_since usable enough more seeks reaches leadsTo whole many
  refine ⟨session', started, findable.congr fun key => ?_⟩
  have old : latest (fun placed : Placed => placed.entry.key) known key = latest _ _ key :=
    congrArg (fun log => latest _ log key) split
  have caught := replay_catches_up missed _ old
  rw [replay_apply] at caught
  rw [whole]
  exact caught.symm

/-- A process that stops in a `Put` once `Append` has returned true leaves a record without an
index. -/
theorem Indexed.stopped {leads : List UInt8 → Option Placed} {stopped : LogSession δ}
    (usable : options.Usable) (indexed : session.Indexed level env options layout leads)
    {key value : List UInt8} (length : key.length = options.indexKeyLength)
    (stops : session.stopped env key value = some (true, stopped)) :
    ∃ layout' spot, layout'.placed = layout.placed ++ [spot] ∧ spot.written = (key, value) ∧
      stopped.Indexed level env options layout' leads := by
  obtain ⟨store, layout', spot, appends, placed, entry⟩ :=
    indexed.stands.append usable.sized key value
  obtain ⟨files, run, stands⟩ := appends.run
  rw [LogSession.stopped, run] at stops
  obtain ⟨appended, rfl⟩ := Prod.mk.inj (Option.some.inj stops)
  rw [Option.isSome_map] at appended
  obtain ⟨spot, rfl⟩ := Option.isSome_iff_exists.mp appended
  refine ⟨layout', spot, placed, ?_, stands, indexed.index, fun other found leadsTo => ?_⟩
  · rw [Placed.written, entry spot rfl, recordOf, env.copied_key length]
  · rw [placed]
    exact List.mem_append_left _ (indexed.inside other found leadsTo)

/-- The database has no key exactly when the index leads nowhere. -/
theorem Indexed.seeks_none {leads : List UInt8 → Option Placed}
    (indexed : session.Indexed level env options layout leads) :
    level.seekToLast session.storage.logIndexDb = none ↔ ∀ key, leads key = none := by
  rw [level.seekToLast_none]
  exact forall_congr' fun key => by rw [indexed.index, Option.map_eq_none_iff]

/-- A value that is found is the one of the record that the index leads to. -/
theorem Findable.value_unique {leads : List UInt8 → Option Placed} (usable : options.Usable)
    (findable : session.Findable level env options layout leads) {key : List UInt8}
    {value : Option (List UInt8)} {post : Files FileName → Prop}
    (gets : Completes (session.storage.get level env key) session.files value post) :
    value = (leads key).bind fun placed =>
      if placed.entry.key = key then some placed.entry.value else none := by
  obtain ⟨files, run, -⟩ := gets.run
  obtain ⟨files', run', -⟩ := (findable.get_value usable.sized key).run
  rw [run] at run'
  exact Option.some.inj (Prod.mk.inj run').1

section Lost

variable {leads : List UInt8 → Option Placed} {puts : List (List UInt8 × List UInt8)}
  {key value : List UInt8}

/-- `Init` looks for no record when the database has no key. -/
theorem Indexed.lost_of_empty (usable : options.Usable) (enough : options.segmentMaxSize < fuel)
    (indexed : session.Indexed level env options layout leads)
    (empty : level.seekToLast session.storage.logIndexDb = none)
    (put : latest Prod.fst puts key = some (key, value)) :
    ¬ session.CatchesUp level env options fuel puts := by
  rintro ⟨bound, restarts⟩
  obtain ⟨session', started, gets⟩ := restarts (bound + 1) (by omega)
  obtain ⟨session'', started', findable⟩ :=
    indexed.restart_empty usable enough (bound + 1) empty
  rw [started] at started'
  obtain ⟨-, rfl⟩ := Prod.mk.inj (Option.some.inj started')
  have found := findable.value_unique usable (gets key value put)
  rw [indexed.seeks_none.mp empty key] at found
  cases found

/-- `Init` fails when the last key leads above the segment in use. -/
theorem Indexed.lost_above (usable : options.Usable) (enough : options.segmentMaxSize < fuel)
    (indexed : session.Indexed level env options layout leads)
    (above : ¬ session.storage.Reaches level) :
    ¬ session.CatchesUp level env options fuel puts := by
  rintro ⟨bound, restarts⟩
  obtain ⟨session', started, -⟩ := restarts (bound + 1) (by omega)
  obtain ⟨session'', refused, -⟩ := indexed.restart_refused usable enough (bound + 1) above
  rw [started] at refused
  cases refused

/-- `Init` does not end when each number has its segment. -/
theorem Indexed.lost_all (usable : options.Usable) (enough : options.segmentMaxSize < fuel)
    (indexed : session.Indexed level env options layout leads)
    (all : layout.closed.length + 1 = 2 ^ 32)
    (seeks : level.seekToLast session.storage.logIndexDb ≠ none)
    (reaches : session.storage.Reaches level) :
    ¬ session.CatchesUp level env options fuel puts := by
  rintro ⟨bound, restarts⟩
  obtain ⟨session', started, -⟩ := restarts (bound + 1) (by omega)
  have stuck := indexed.restart_stuck usable enough (bound + 1) all seeks reaches
  rw [started] at stuck
  cases stuck

end Lost

/-- When the index has caught up, `Get` returns what has been put last. -/
theorem Findable.gets_written (usable : options.Usable)
    (findable : session.Findable level env options layout
      (latest (fun placed => placed.entry.key) layout.placed)) {key value : List UInt8}
    (put : latest Prod.fst (layout.placed.map Placed.written) key = some (key, value)) :
    Completes (session.storage.get level env key) session.files (some value)
      session.files.Unchanged := by
  have gets := findable.get_value usable.sized key
  rw [latest_map] at put
  obtain ⟨placed, found, same⟩ := Option.map_eq_some_iff.mp put
  obtain ⟨whole, rfl⟩ := Prod.mk.inj same
  have found' : latest (fun placed : Placed => placed.entry.key) layout.placed key = some placed :=
    found
  rw [found', Option.bind_some, if_pos whole] at gets
  exact gets

end LogSession

/-- The index catches up with a `Put` whose process stopped before it entered the index, unless
the database had no key yet or there are too many segments. -/
theorem crashed_put_recovered_iff (level : LevelDb δ) {env : Environment}
    {options : LogStorageOptions} (usable : options.Usable) {disk : Disk FileName}
    (fresh : Fresh disk) {fuel : Nat} (enough : options.segmentMaxSize < fuel) (calls : Nat)
    {operations : List LogOperation}
    (keyed : ∀ operation ∈ operations, operation.key.length = options.indexKeyLength)
    (undeleted : ∀ key, LogOperation.delete key ∉ operations) :
    ∃ session, LogSession.after level env options fuel calls disk operations = some session ∧
      ∀ key value stopped, key.length = options.indexKeyLength →
        session.stopped env key value = some (true, stopped) →
        (stopped.CatchesUp level env options fuel (session.puts ++ [(key, value)]) ↔
          session.puts ≠ [] ∧ stopped.storage.Reaches level ∧ stopped.NextFree) := by
  obtain ⟨session, layout, records, ran, kept, from_⟩ :=
    fresh.kept level usable.sized calls operations
  refine ⟨session, ran, fun key value stopped length stops => ?_⟩
  have whole := kept.keyed fun operation done => keyed operation (from_ operation done)
  have kept' := kept.leads_placed whole fun key deleted =>
    undeleted key (from_ _ (mem_of_latest deleted).1)
  obtain ⟨layout', spot, placed, new, indexed⟩ := kept'.stopped usable length stops
  have values : session.puts ++ [(key, value)] = layout'.placed.map Placed.written := by
    rw [kept.written_placed whole, placed, List.map_append, List.map_singleton, new]
  have some_put : session.puts ≠ [] ↔
      level.seekToLast stopped.storage.logIndexDb ≠ none := by
    rw [kept.written_placed whole, Ne, Ne, List.map_eq_nil_iff, indexed.seeks_none]
    refine not_congr ⟨fun none key => by rw [none]; rfl, fun none => ?_⟩
    exact List.eq_nil_iff_forall_not_mem.mpr fun placed member =>
      latest_eq_none.mp (none placed.entry.key) placed member rfl
  rw [some_put, indexed.nextFree_iff, values]
  constructor
  · intro caught
    have put : latest Prod.fst (layout'.placed.map Placed.written) key = some (key, value) := by
      rw [← values, latest_concat, if_pos rfl]
    have seeks : level.seekToLast stopped.storage.logIndexDb ≠ none := fun empty =>
      indexed.lost_of_empty usable enough empty put caught
    have reaches : stopped.storage.Reaches level := by
      by_contra above
      exact indexed.lost_above usable enough above caught
    have number := indexed.stands.number
    refine ⟨seeks, reaches, ?_⟩
    by_contra all
    exact indexed.lost_all usable enough (by omega) seeks reaches caught
  · rintro ⟨seeks, reaches, more⟩
    refine ⟨layout'.placed.length + layout'.closed.length + 1, fun calls many => ?_⟩
    obtain ⟨session', started, findable⟩ :=
      indexed.restart_catches_up usable enough placed more seeks reaches many
    exact ⟨session', started, fun key value put => findable.gets_written usable put⟩

/-- The process stops in the second of two calls of `Put`. -/
theorem crashed_put_recovered_iff_second :
    ∃ session, LogSession.after LevelDb.table zlib oneEach 10 5 Disk.empty [.put [1] []] =
        some session ∧
      ∀ key value stopped, key.length = oneEach.indexKeyLength →
        session.stopped zlib key value = some (true, stopped) →
        (stopped.CatchesUp LevelDb.table zlib oneEach 10 (session.puts ++ [(key, value)]) ↔
          session.puts ≠ [] ∧ stopped.storage.Reaches LevelDb.table ∧ stopped.NextFree) :=
  crashed_put_recovered_iff LevelDb.table oneEach_usable fresh_empty (by decide) 5 (by decide)
    (by simp)

/-- The process stops in the first `Put`, whose value is not found again. -/
theorem first_put_lost :
    ∃ session stopped,
      LogSession.after LevelDb.table zlib oneEach 10 5 Disk.empty [] = some session ∧
      session.stopped zlib [1] [] = some (true, stopped) ∧
      ¬ stopped.CatchesUp LevelDb.table zlib oneEach 10 (session.puts ++ [([1], [])]) := by
  obtain ⟨session, layout, records, ran, kept, -⟩ : ∃ session layout records,
      LogSession.after LevelDb.table zlib oneEach 10 5 Disk.empty [] = some session ∧
        session.Kept LevelDb.table zlib oneEach layout records ∧ _ :=
    fresh_empty.kept LevelDb.table oneEach_usable.sized 5 []
  have appended : ((LogSession.after LevelDb.table zlib oneEach 10 5 Disk.empty []).bind
      fun session => (session.stopped zlib [1] []).map fun found =>
        (found.1, LevelDb.table.seekToLast found.2.storage.logIndexDb)) = some (true, none) := by
    decide +kernel
  rw [ran, Option.bind_some] at appended
  obtain ⟨⟨_, stopped⟩, stops, same⟩ := Option.map_eq_some_iff.mp appended
  obtain ⟨rfl, empty⟩ := Prod.mk.inj same
  obtain ⟨layout', spot, placed, new, indexed⟩ :=
    kept.indexed.stopped oneEach_usable (by decide) stops
  refine ⟨session, stopped, ran, stops, ?_⟩
  exact indexed.lost_of_empty oneEach_usable (by decide) empty (by rw [latest_concat, if_pos rfl])

end Paxosme

import Paxosme.Verif.IndexRecovery

/-!
# Deleted keys after a restart

`Delete` takes the index of a key away and leaves its records in their segments. The next `Init`
enters again every record that stands behind the one of the last remaining key, whether or not
its key has been deleted.
-/

namespace Paxosme

open Posix Bytes Framing KeyedLog

variable {δ : Type}

namespace LogSession

variable (level : LevelDb δ) (env : Environment) (options : LogStorageOptions) (fuel : Nat)

/-- A restart comes to an end, and `Get` fails for each key that was deleted before it. -/
def StaysDeleted (session : LogSession δ) : Prop :=
  ∃ bound, ∀ calls, bound < calls → ∃ ready session',
    session.restart level env options fuel calls = some (ready, session') ∧
    ∀ key, session.Deleted key →
      Completes (session'.storage.get level env key) session'.files none session'.files.Unchanged

variable {level env options fuel} {session : LogSession δ} {layout : Layout}
  {records : List (List UInt8 × Placed)} {calls : Nat}

/-- `Get` fails for a key that the index does not lead from. -/
theorem Findable.get_missing (usable : options.Usable) {leads : List UInt8 → Option Placed}
    (findable : session.Findable level env options layout leads) {key : List UInt8}
    (missing : leads key = none) :
    Completes (session.storage.get level env key) session.files none session.files.Unchanged := by
  have gets := findable.get_value usable.sized key
  rw [missing] at gets
  exact gets

/-- What a restart enters behind the record of the last key. -/
theorem Kept.restart_enters (usable : options.Usable) (enough : options.segmentMaxSize < fuel)
    (kept : session.Kept level env options layout records)
    (keyed : ∀ record ∈ records, record.2.entry.key = record.1) {last : List UInt8}
    (seeks : level.seekToLast session.storage.logIndexDb = some last)
    (reaches : session.storage.Reaches level) (free : session.NextFree)
    (many : layout.placed.length + layout.closed.length + 1 < calls) :
    ∃ session', session.restart level env options fuel calls = some (true, session') ∧
      session'.Findable level env options layout fun key =>
        ((latest Prod.fst (since Prod.fst last records) key).map Prod.snd).or
          (if session.Deleted key then none else (latest Prod.fst records key).map Prod.snd) := by
  have more := kept.indexed.nextFree_iff.mp free
  obtain ⟨placed, leadsTo⟩ := kept.indexed.leads_last seeks
  have leadsTo' := leadsTo
  split at leadsTo'
  · cases leadsTo'
  · obtain ⟨record, found, rfl⟩ := Option.map_eq_some_iff.mp leadsTo'
    obtain ⟨before, after, split, start⟩ := since_split found
    have whole : layout.placed = before.map Prod.snd ++ record.2 :: after.map Prod.snd := by
      rw [kept.placed, ← List.map_cons, ← start, ← List.map_append, ← split]
    obtain ⟨session', started, findable⟩ :=
      kept.indexed.restart_since usable enough more seeks reaches leadsTo whole many
    refine ⟨session', started, findable.congr fun key => ?_⟩
    have keyed' : ∀ entered ∈ since Prod.fst last records, entered.2.entry.key = entered.1 :=
      fun entered inside => keyed entered (by rw [split]; exact List.mem_append_right _ inside)
    rw [← List.map_cons, ← start, latest_map]
    exact congrArg (fun found => (Option.map Prod.snd found).or _) (latest_congr keyed').symm

/-- A deleted key returns when a record of it stands behind the one that the last key leads to. -/
theorem Kept.returns (usable : options.Usable) (enough : options.segmentMaxSize < fuel)
    (kept : session.Kept level env options layout records)
    (keyed : ∀ record ∈ records, record.2.entry.key = record.1) {last : List UInt8}
    (seeks : level.seekToLast session.storage.logIndexDb = some last)
    (reaches : session.storage.Reaches level) (free : session.NextFree)
    {put : List UInt8 × List UInt8} (inside : put ∈ since Prod.fst last session.puts)
    (deleted : session.Deleted put.1) : ¬ session.StaysDeleted level env options fuel := by
  rintro ⟨bound, restarts⟩
  obtain ⟨calls, late, many⟩ : ∃ calls, bound < calls ∧
      layout.placed.length + layout.closed.length + 1 < calls :=
    ⟨bound + (layout.placed.length + layout.closed.length + 1) + 1, by omega, by omega⟩
  obtain ⟨ready, session', started, fails⟩ := restarts calls late
  obtain ⟨session'', started', findable⟩ :=
    kept.restart_enters usable enough keyed seeks reaches free many
  rw [started] at started'
  obtain ⟨-, rfl⟩ := Prod.mk.inj (Option.some.inj started')
  rw [kept.puts, since_map] at inside
  obtain ⟨record, held, rfl⟩ := List.mem_map.mp inside
  obtain ⟨entered, found⟩ : ∃ entered,
      latest Prod.fst (since Prod.fst last records) record.1 = some entered := by
    refine Option.ne_none_iff_exists'.mp fun none => ?_
    exact latest_eq_none.mp none record held rfl
  obtain ⟨member, same⟩ := mem_of_latest found
  have key : entered.2.entry.key = record.1 := (keyed entered (mem_of_since member)).trans same
  have value := findable.value_unique usable (fails record.1 deleted)
  rw [found, Option.map_some, Option.some_or, Option.bind_some, if_pos key] at value
  cases value

end LogSession

/-- Deleted keys stay deleted exactly when no record of one stands behind the record that the last
key leads to, or none is looked for there. -/
theorem deleted_stay_iff (level : LevelDb δ) {env : Environment} {options : LogStorageOptions}
    (usable : options.Usable) {disk : Disk FileName} (fresh : Fresh disk) {fuel : Nat}
    (enough : options.segmentMaxSize < fuel) (calls : Nat) {operations : List LogOperation}
    (keyed : ∀ operation ∈ operations, operation.key.length = options.indexKeyLength) :
    ∃ session, LogSession.after level env options fuel calls disk operations = some session ∧
      (session.StaysDeleted level env options fuel ↔
        ∀ last, level.seekToLast session.storage.logIndexDb = some last →
          session.storage.Reaches level →
          session.NextFree ∧ ∀ put ∈ since Prod.fst last session.puts, ¬ session.Deleted put.1) := by
  obtain ⟨session, layout, records, ran, kept, from_⟩ :=
    fresh.kept level usable.sized calls operations
  refine ⟨session, ran, ?_⟩
  have whole := kept.keyed fun operation done => keyed operation (from_ operation done)
  constructor
  · rintro ⟨bound, restarts⟩ last seeks reaches
    have free : session.NextFree := by
      by_contra taken
      obtain ⟨ready, session', started, -⟩ := restarts (bound + 1) (by omega)
      have number := kept.indexed.stands.number
      have all := mt kept.indexed.nextFree_iff.mpr taken
      have stuck := kept.indexed.restart_stuck usable enough (bound + 1) (by omega)
        (by rw [seeks]; exact Option.some_ne_none _) reaches
      rw [started] at stuck
      cases stuck
    refine ⟨free, fun put inside deleted => ?_⟩
    exact kept.returns usable enough whole seeks reaches free inside deleted ⟨bound, restarts⟩
  · intro spared
    cases found : level.seekToLast session.storage.logIndexDb with
    | none =>
      refine ⟨0, fun calls _ => ?_⟩
      obtain ⟨session', started, findable⟩ :=
        kept.indexed.restart_empty usable enough calls found
      exact ⟨true, session', started, fun key deleted =>
        findable.get_missing usable (if_pos deleted)⟩
    | some last =>
      by_cases reaches : session.storage.Reaches level
      · obtain ⟨free, others⟩ := spared last found reaches
        refine ⟨layout.placed.length + layout.closed.length + 1, fun calls many => ?_⟩
        obtain ⟨session', started, findable⟩ :=
          kept.restart_enters usable enough whole found reaches free many
        refine ⟨true, session', started, fun key deleted => findable.get_missing usable ?_⟩
        have none : latest Prod.fst (since Prod.fst last records) key = none := by
          refine latest_eq_none.mpr fun record inside same => ?_
          refine others (record.1, record.2.entry.value) ?_ (by rw [same]; exact deleted)
          rw [kept.puts, since_map]
          exact List.mem_map_of_mem inside
        rw [none, if_pos deleted]
        rfl
      · refine ⟨0, fun calls _ => ?_⟩
        obtain ⟨session', started, findable⟩ :=
          kept.indexed.restart_refused usable enough calls reaches
        exact ⟨false, session', started, fun key deleted =>
          findable.get_missing usable (if_pos deleted)⟩

/-- One key is put and deleted before the last one is put. -/
theorem deleted_stay_iff_first :
    ∃ session, LogSession.after LevelDb.table zlib oneEach 10 5 Disk.empty
        [.put [1] [], .delete [1], .put [2] []] = some session ∧
      (session.StaysDeleted LevelDb.table zlib oneEach 10 ↔
        ∀ last, LevelDb.table.seekToLast session.storage.logIndexDb = some last →
          session.storage.Reaches LevelDb.table →
          session.NextFree ∧ ∀ put ∈ since Prod.fst last session.puts, ¬ session.Deleted put.1) :=
  deleted_stay_iff LevelDb.table oneEach_usable fresh_empty (by decide) 5 (by decide)

/-- The second of two keys is deleted, and has a value again after the restart. -/
theorem deleted_returns :
    ∃ session, LogSession.after LevelDb.table zlib oneEach 10 5 Disk.empty
        [.put [1] [], .put [2] [], .delete [2]] = some session ∧
      session.Deleted [2] ∧ ¬ session.StaysDeleted LevelDb.table zlib oneEach 10 := by
  obtain ⟨session, layout, records, ran, kept, from_⟩ : ∃ session layout records,
      LogSession.after LevelDb.table zlib oneEach 10 5 Disk.empty
          [.put [1] [], .put [2] [], .delete [2]] = some session ∧
        session.Kept LevelDb.table zlib oneEach layout records ∧
        ∀ operation ∈ session.done, operation ∈ _ :=
    fresh_empty.kept LevelDb.table oneEach_usable.sized 5 _
  have keyed : ∀ operation ∈ [LogOperation.put [1] [], .put [2] [], .delete [2]],
      operation.key.length = oneEach.indexKeyLength := by decide
  have whole := kept.keyed fun operation done => keyed operation (from_ operation done)
  have state : ∀ session ∈ LogSession.after LevelDb.table zlib oneEach 10 5 Disk.empty
      [.put [1] [], .put [2] [], .delete [2]],
      LevelDb.table.seekToLast session.storage.logIndexDb = some [1] ∧
        session.storage.Reaches LevelDb.table ∧ session.NextFree ∧
        ([2], []) ∈ since Prod.fst [1] session.puts ∧ session.Deleted [2] := by
    decide +kernel
  obtain ⟨seeks, reaches, free, inside, deleted⟩ := state session ran
  exact ⟨session, ran, deleted, kept.returns oneEach_usable (by decide) whole seeks reaches free
    inside deleted⟩

end Paxosme

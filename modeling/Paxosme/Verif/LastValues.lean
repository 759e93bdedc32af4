import Paxosme.Verif.LogMap

/-!
# The last value of a key

`Get` returns what has been put last under its key and not been deleted since, in every state that
a storage comes to by calls, by the cleaning of emptied segments and by reopenings, as long as its
segments do not use up their numbers and a new object finds the last key in no segment numbered
above the one in use.
-/

namespace Paxosme

open Posix Bytes Framing KeyedLog

/-- What is found under a key after an event, given what is found before it. -/
def MapEvent.leaves (key : List UInt8) (found : Option (List UInt8)) :
    MapEvent → Option (List UInt8)
  | .put other value => if other = key then some value else found
  | .delete other => if other = key then none else found
  | _ => found

/-- The value that has been put last under a key, unless the key has been deleted since. -/
def lastValue (events : List MapEvent) (key : List UInt8) : Option (List UInt8) :=
  events.foldl (MapEvent.leaves key) none

namespace LogMap

/-- A map after some events. -/
def after (contents : LogMap) (events : List MapEvent) : LogMap :=
  Runs.run (fun contents event => (LogMap.step contents event).2) contents events

/-- What an event leaves under a key. -/
theorem lookup_step (contents : LogMap) (event : MapEvent) (key : List UInt8) :
    (contents.step event).2.lookup key = event.leaves key (contents.lookup key) := by
  cases event with
  | put other value =>
    rw [step, MapEvent.leaves, lookup_put]
    simp only [eq_comm]
  | delete other =>
    rw [step, MapEvent.leaves, lookup_without]
    simp only [eq_comm]
  | _ => rfl

/-- What some events leave under a key. -/
theorem lookup_after (contents : LogMap) (events : List MapEvent) (key : List UInt8) :
    (contents.after events).lookup key =
      events.foldl (MapEvent.leaves key) (contents.lookup key) := by
  induction events generalizing contents with
  | nil => rfl
  | cons event events ih =>
    rw [List.foldl_cons, ← lookup_step, ← ih]
    rfl

end LogMap

namespace MapSession

variable {δ : Type} (level : LevelDb δ) (env : Environment) (fuel calls : Nat)
  (options : LogStorageOptions)

/-- A storage after some events, if the process comes to the end of each. -/
def reached (session : MapSession δ) (events : List MapEvent) : Option (MapSession δ) :=
  Runs.run (fun state event =>
    state.bind fun session => (session.step level env fuel calls options event).map Prod.snd)
    (some session) events

/-- There are numbers of segments enough for each of some events. -/
def CountedAlong (session : MapSession δ) (events : List MapEvent) : Prop :=
  Runs.Along (fun state event =>
      state.bind fun session => (session.step level env fuel calls options event).map Prod.snd)
    (fun state event => ∀ session ∈ state, session.Counted level event) (some session) events

instance (session : MapSession δ) (events : List MapEvent) :
    Decidable (session.CountedAlong level env fuel calls options events) :=
  inferInstanceAs (Decidable (Runs.Along _ _ _ _))

/-- A storage after some events has the last value of each key, and a new object is initialised on
it. -/
structure KeepsLast (session : MapSession δ) (events : List MapEvent) : Prop where
  gets : ∀ key, (session.step level env fuel calls options (.get key)).map Prod.fst =
    some (.found (lastValue events key))
  reopens : ∀ how, session.Counted level (.reopen how) →
    (session.step level env fuel calls options (.reopen how)).map Prod.fst = some (.returned true)

variable {level env fuel calls options} {session : MapSession δ} {contents : LogMap}

/-- One event and then others. -/
theorem reached_cons {next : MapSession δ} {event : MapEvent} {answer : MapAnswer}
    (stepped : session.step level env fuel calls options event = some (answer, next))
    (events : List MapEvent) :
    session.reached level env fuel calls options (event :: events) =
      next.reached level env fuel calls options events := by
  rw [reached, Runs.run_cons, Option.bind_some, stepped, Option.map_some]
  rfl

/-- Some events and then others. -/
theorem reached_append {middle : MapSession δ} {earlier : List MapEvent}
    (before : session.reached level env fuel calls options earlier = some middle)
    (later : List MapEvent) :
    session.reached level env fuel calls options (earlier ++ later) =
      middle.reached level env fuel calls options later := by
  rw [reached, Runs.run_append, ← reached, before, reached]

/-- A session is a map, and an alignment after so many more events comes to its end. -/
def Follows (level : LevelDb δ) (env : Environment) (options : LogStorageOptions)
    (calls count : Nat) (session : MapSession δ) (contents : LogMap) : Prop :=
  ∃ layout held gone, session.Maps level env options contents layout held gone ∧
    layout.placed.length + layout.closed.length + 2 * count + 1 < calls

namespace Follows

variable {count : Nat}

/-- Every event answers as that of a map does. -/
theorem step (usable : options.Usable) (enough : options.segmentMaxSize < fuel)
    (follows : session.Follows level env options calls (count + 1) contents) {event : MapEvent}
    (allowed : contents.Allows options event) (counted : session.Counted level event) :
    ∃ next, session.step level env fuel calls options event =
        some ((contents.step event).1, next) ∧
      next.Follows level env options calls count (contents.step event).2 := by
  obtain ⟨layout, held, gone, maps, many⟩ := follows
  have many' : layout.placed.length + layout.closed.length + 1 < calls := by omega
  obtain ⟨next, layout', held', gone', stepped, maps', placed, closed⟩ :=
    maps.step usable enough allowed counted many'
  exact ⟨next, stepped, layout', held', gone', maps', by omega⟩

/-- So a whole run ends in what the map holds then. -/
theorem run (usable : options.Usable) (enough : options.segmentMaxSize < fuel)
    (events : List MapEvent)
    (follows : session.Follows level env options calls (count + events.length) contents)
    (allowed : Runs.Along (fun contents event => (LogMap.step contents event).2)
      (LogMap.Allows options) contents events)
    (counted : session.CountedAlong level env fuel calls options events) :
    ∃ after, session.reached level env fuel calls options events = some after ∧
      after.Follows level env options calls count (contents.after events) := by
  induction events generalizing session contents with
  | nil => exact ⟨session, rfl, follows⟩
  | cons event events ih =>
    obtain ⟨here, rest⟩ := allowed
    obtain ⟨here', rest'⟩ := counted
    obtain ⟨next, stepped, follows'⟩ := follows.step usable enough here (here' session rfl)
    dsimp only at rest'
    rw [Option.bind_some, stepped] at rest'
    obtain ⟨after, reached, follows''⟩ := ih follows' rest rest'
    exact ⟨after, (reached_cons stepped events).trans reached, follows''⟩

/-- What a storage answers that holds a map. -/
theorem keepsLast (usable : options.Usable) (enough : options.segmentMaxSize < fuel)
    {events : List MapEvent}
    (follows : session.Follows level env options calls (count + 1) (LogMap.after [] events)) :
    session.KeepsLast level env fuel calls options events where
  gets key := by
    have allowed : LogMap.Allows options (LogMap.after [] events) (.get key) := trivial
    have counted : session.Counted level (.get key) := trivial
    obtain ⟨next, stepped, -⟩ := follows.step usable enough allowed counted
    rw [stepped, Option.map_some, LogMap.step, LogMap.lookup_after]
    rfl
  reopens how counted := by
    have allowed : LogMap.Allows options (LogMap.after [] events) (.reopen how) := trivial
    obtain ⟨next, stepped, -⟩ := follows.step usable enough allowed counted
    rw [stepped]
    rfl

end Follows

end MapSession

/-- The log storage is a map: whatever is put, deleted, cleaned and opened again, `Get` succeeds
exactly for the keys that have been put and not deleted since, with the last value, when the key
that is deleted is always the one whose value was put first and there are numbers enough for the
segments. -/
theorem storage_keeps_last_values {δ : Type} (level : LevelDb δ) {env : Environment}
    {options : LogStorageOptions} (usable : options.Usable) {disk : Disk FileName}
    (fresh : Fresh disk) {fuel calls : Nat} (enough : options.segmentMaxSize < fuel)
    {events : List MapEvent} (many : 2 * (events.length + 1) + 1 < calls)
    (allowed : Runs.Along (fun contents event => (LogMap.step contents event).2)
      (LogMap.Allows options) [] events) :
    ∃ session, MapSession.start level env fuel calls options disk = some session ∧
      (session.CountedAlong level env fuel calls options events →
        ∃ after, session.reached level env fuel calls options events = some after ∧
          after.KeepsLast level env fuel calls options events) := by
  obtain ⟨session, started, maps⟩ : ∃ session, MapSession.start level env fuel calls options disk =
    some session ∧ _ := fresh.maps level usable.sized fuel calls
  refine ⟨session, started, fun counted => ?_⟩
  have empty : Layout.empty.placed.length + Layout.empty.closed.length = 0 := rfl
  have follows : session.Follows level env options calls (1 + events.length) [] :=
    ⟨_, _, _, maps, by omega⟩
  obtain ⟨after, reached, follows'⟩ := follows.run usable enough events allowed counted
  exact ⟨after, reached, follows'.keepsLast usable enough⟩

/-- Three values are put under two keys, the key of the first is deleted and its segment cleaned, and
the storage opened again. -/
def lastEvents : List MapEvent :=
  [.put [1] [7], .put [2] [8], .put [1] [9], .delete [2], .clean 1, .reopen .destroyed]

/-- The one key has its last value, the other one none. -/
theorem storage_keeps_last_values_pair :
    ∃ session after, MapSession.start LevelDb.table zlib 20 30 pairEach Disk.empty =
        some session ∧
      session.reached LevelDb.table zlib 20 30 pairEach lastEvents = some after ∧
      after.KeepsLast LevelDb.table zlib 20 30 pairEach lastEvents := by
  have counted : ∀ session ∈ MapSession.start LevelDb.table zlib 20 30 pairEach Disk.empty,
      session.CountedAlong LevelDb.table zlib 20 30 pairEach lastEvents := by
    decide +kernel
  obtain ⟨session, started, keeps⟩ :
      ∃ session, MapSession.start LevelDb.table zlib 20 30 pairEach Disk.empty = some session ∧
        (_ → ∃ after, session.reached LevelDb.table zlib 20 30 pairEach lastEvents = some after ∧
          _) :=
    storage_keeps_last_values LevelDb.table ⟨by decide, by decide, by decide⟩ fresh_empty
      (by decide) (by decide) (by decide)
  obtain ⟨after, reached, keepsLast⟩ := keeps (counted session started)
  exact ⟨session, after, started, reached, keepsLast⟩

/-! ## All numbers in use -/

section Full

variable {options : LogStorageOptions} {layout : Layout} {entry : Entry}

/-- A record that fills a segment takes the next one when the current one is full. -/
theorem Layout.append_full (full : restOf options layout = [])
    (fills : entry.size = options.segmentMaxSize) :
    layout.append options entry = ⟨layout.closed ++ [layout.current], [entry]⟩ := by
  have positive : 0 < entry.size := by
    rw [Entry.size]
    omega
  rw [← Layout.place_eq_append (by omega), full, Layout.place, List.length_nil, if_neg (by omega)]
  rfl

/-- Behind such a record there is no room. -/
theorem restOf_filled (closed : List (List Entry)) (fills : entry.size = options.segmentMaxSize) :
    restOf options ⟨closed, [entry]⟩ = [] := by
  rw [restOf, length_segmentBytes_cons, fills]
  simp

end Full


namespace MapSession

variable {δ : Type} {level : LevelDb δ} {env : Environment} {fuel calls : Nat}
  {options : LogStorageOptions} {session : MapSession δ} {contents : LogMap} {layout : Layout}
  {held : List UInt8 → Bool} {gone : Nat → Prop}

namespace Maps

/-- Records that fill a segment each are put one after the other. -/
theorem fill (fuel calls : Nat) (sized : options.Sized) (key value : List UInt8)
    (keyed : key.length = options.indexKeyLength)
    (fills : 8 + (options.indexKeyLength + value.length) = options.segmentMaxSize) (count : Nat)
    (maps : session.Maps level env options contents layout held gone)
    (full : restOf options layout = []) (few : layout.closed.length + count < 2 ^ 32) :
    ∃ after layout' held', session.reached level env fuel calls options
        (List.replicate count (.put key value)) = some after ∧
      after.Maps level env options (contents.after (List.replicate count (.put key value)))
        layout' held' gone ∧
      restOf options layout' = [] ∧
      layout'.closed ++ [layout'.current] =
        layout.closed ++ [layout.current] ++ List.replicate count [⟨key, value⟩] := by
  induction count generalizing session contents layout held with
  | zero => exact ⟨session, layout, held, rfl, maps, full, (List.append_nil _).symm⟩
  | succ count ih =>
    have size : (⟨key, value⟩ : Entry).size = options.segmentMaxSize := by
      rw [Entry.size, Entry.body, List.length_append, keyed, fills]
    obtain ⟨next, stepped, maps'⟩ := maps.put sized ⟨keyed, fills.le⟩ fun _ => by omega
    rw [Layout.append_full full size] at maps'
    have few' : (layout.closed ++ [layout.current]).length + count < 2 ^ 32 := by
      rw [List.length_append, List.length_singleton]
      omega
    obtain ⟨after, layout', held', reached, maps'', full', segments⟩ :=
      ih maps' (restOf_filled _ size) few'
    refine ⟨after, layout', held', ?_, maps'', full', ?_⟩
    · rw [List.replicate_succ, reached_cons stepped, reached]
    · rw [segments, List.replicate_succ, List.append_assoc (layout.closed ++ [layout.current])]
      rfl

/-- `Put` fails when each number has its segment and the last one is full. -/
theorem put_refused (fuel calls : Nat) (sized : options.Sized)
    (maps : session.Maps level env options contents layout held gone) (key value : List UInt8)
    (keyed : key.length = options.indexKeyLength)
    (fits : 8 + (options.indexKeyLength + value.length) ≤ options.segmentMaxSize)
    (full : restOf options layout = []) (last : layout.closed.length + 1 = 2 ^ 32)
    (present : ¬ gone 0) :
    ∃ next, session.step level env fuel calls options (.put key value) =
        some (.returned false, next) ∧
      next.storage.logIndexDb = session.storage.logIndexDb := by
  have size : (⟨key, value⟩ : Entry).size = 8 + (options.indexKeyLength + value.length) := by
    rw [Entry.size, Entry.body, List.length_append, keyed]
  have wraps : Completes (session.storage.segmentStore.append env key value) session.files _ _ :=
    maps.laid.append_wraps sized (env.copied_key keyed) (by rw [full, size, List.length_nil]; omega)
      (by omega) last present
  let closed := { session.storage.segmentStore with curSegmentId := segmentId 0 }
  have puts : Completes (session.storage.put level env key value) session.files
      (false, { session.storage with segmentStore := closed }) fun _ => True :=
    wraps.bind fun after _ => Completes.pure _ trivial
  obtain ⟨files, run, -⟩ := puts.run
  refine ⟨{ session with storage := { session.storage with segmentStore := closed }, files }, ?_, rfl⟩
  rw [MapSession.step, run]

/-- A new object is not initialised when the last key leads above the segment in use. -/
theorem reopen_refused (usable : options.Usable) (enough : options.segmentMaxSize < fuel)
    (maps : session.Maps level env options contents layout held gone)
    (there : ¬ gone layout.closed.length) (above : ¬ session.storage.Reaches level)
    (how : Reopening) :
    (session.step level env fuel calls options (.reopen how)).map Prod.fst =
      some (.returned false) := by
  obtain ⟨sound, disk⟩ := maps.closed_disk how
  have stored := maps.laid.stored there
  rw [← disk] at stored
  obtain ⟨store, opens⟩ := stored.init usable sound (ends_zeros (by decide) _) enough
  have starts : Completes (DataBaseLogStorage.init level env fuel calls session.storage.logIndexDb
      options) (session.closed how) (false, ⟨session.storage.logIndexDb, store⟩) fun _ => True :=
    init_completes opens fun middle laid => by
      have above' : ¬ DataBaseLogStorage.Reaches level ⟨session.storage.logIndexDb, store⟩ :=
        fun reaches => above ((reaches_congr (laid.id.trans maps.laid.id.symm)).mp reaches)
      rw [align_refused calls above']
      exact Completes.pure _ trivial
  obtain ⟨files, run, -⟩ := starts.run
  rw [MapSession.step, run]
  rfl

/-- What is under a key in the index is under it in the map. -/
theorem isSome_lookup (maps : session.Maps level env options contents layout held gone)
    (key : List UInt8) :
    (level.get session.storage.logIndexDb key).isSome = (contents.lookup key).isSome := by
  rw [maps.index, maps.lookup, Option.isSome_map]
  split
  · rw [Option.isSome_map]
  · rfl

end Maps

end MapSession

/-- Calls that put values under another key leave what is there. -/
theorem leaves_replicate (count : Nat) {other key : List UInt8} (value : List UInt8)
    (apart : other ≠ key) (found : Option (List UInt8)) :
    (List.replicate count (MapEvent.put other value)).foldl (MapEvent.leaves key) found =
      found := by
  induction count with
  | zero => rfl
  | succ count ih => rw [List.replicate_succ, List.foldl_cons, MapEvent.leaves, if_neg apart, ih]

/-- A fresh storage with one record, which fills its segment. -/
theorem MapSession.started_with {δ : Type} (level : LevelDb δ) (key : List UInt8)
    (keyed : key.length = 1) :
    ∃ session next, MapSession.start level zlib 10 5 oneEach Disk.empty = some session ∧
      session.step level zlib 10 5 oneEach (.put key []) = some (.returned true, next) ∧
      ∃ held, next.Maps level zlib oneEach [(key, [])] ⟨[], [⟨key, []⟩]⟩ held fun _ => False := by
  obtain ⟨session, started, maps⟩ : ∃ session,
      MapSession.start level zlib 10 5 oneEach Disk.empty = some session ∧ _ :=
    fresh_empty.maps level oneEach_usable.sized 10 5
  have fits : 8 + (oneEach.indexKeyLength + ([] : List UInt8).length) ≤ oneEach.segmentMaxSize := by
    decide
  have size : (⟨key, []⟩ : Entry).size = 9 := by
    rw [Entry.size, Entry.body, List.length_append, keyed]
    rfl
  have first : Layout.empty.append oneEach ⟨key, []⟩ = ⟨[], [⟨key, []⟩]⟩ := by
    rw [← Layout.place_eq_append (by rw [size]; decide), Layout.place,
      if_pos (by rw [size]; decide)]
    rfl
  obtain ⟨next, stepped, maps'⟩ := maps.put oneEach_usable.sized ⟨keyed, fits⟩ fun _ => by decide
  rw [first] at maps'
  exact ⟨session, next, started, stepped, _, maps'⟩

/-- After some events there is no value for a key that has been put and not deleted since. -/
def LosesValue (events : List MapEvent) (key : List UInt8) : Prop :=
  ∃ session after, MapSession.start LevelDb.table zlib 10 5 oneEach Disk.empty = some session ∧
    session.reached LevelDb.table zlib 10 5 oneEach events = some after ∧
    (after.step LevelDb.table zlib 10 5 oneEach (.get key)).map Prod.fst = some (.found none) ∧
    (lastValue events key).isSome

/-- After some events no new object is initialised. -/
def RefusesReopening (events : List MapEvent) : Prop :=
  ∃ session after, MapSession.start LevelDb.table zlib 10 5 oneEach Disk.empty = some session ∧
    session.reached LevelDb.table zlib 10 5 oneEach events = some after ∧
    ∀ how, (after.step LevelDb.table zlib 10 5 oneEach (.reopen how)).map Prod.fst =
      some (.returned false)

/-- Once each number has its segment `Put` of a record that a segment holds fails. -/
theorem losesValue_last_segment :
    LosesValue (List.replicate (2 ^ 32) (.put [0] []) ++ [.put [1] []]) [1] := by
  obtain ⟨count, total⟩ : ∃ count, 2 ^ 32 = count + 1 := ⟨2 ^ 32 - 1, by omega⟩
  have few : ([] : List (List Entry)).length + count < 2 ^ 32 := by
    rw [List.length_nil]
    omega
  obtain ⟨session, first, started, stepped, held, maps⟩ :=
    MapSession.started_with LevelDb.table [0] rfl
  obtain ⟨middle, layout, held', reached, maps', full, segments⟩ :=
    maps.fill 10 5 oneEach_usable.sized [0] [] rfl rfl count (restOf_filled [] rfl) few
  have last : layout.closed.length + 1 = 2 ^ 32 := by
    have lengths := congrArg List.length segments
    simp only [List.length_append, List.length_singleton, List.length_replicate, List.length_nil]
      at lengths
    omega
  obtain ⟨after, refused, same⟩ := maps'.put_refused 10 5 oneEach_usable.sized [1] [] rfl
    (by decide) full last not_false
  have missing : LevelDb.table.get after.storage.logIndexDb [1] = none := by
    rw [same]
    refine maps'.index_none ?_
    rw [LogMap.lookup_after, leaves_replicate count [] (by decide)]
    rfl
  refine ⟨session, after, started, ?_, ?_, ?_⟩
  · rw [total, List.replicate_succ, List.cons_append, MapSession.reached_cons stepped,
      MapSession.reached_append reached, MapSession.reached_cons refused]
    rfl
  · rw [MapSession.step, DataBaseLogStorage.get, LogIndexDB.getIndex, DataBaseLogStorage.toIndexKey,
      missing]
    rfl
  · rw [lastValue, List.foldl_concat]
    rfl

/-- The last key of an index that knows two keys. -/
theorem seekToLast_larger {δ : Type} (level : LevelDb δ) {db : δ} {key larger : List UInt8}
    (above : key < larger) (there : (level.get db larger).isSome)
    (only : ∀ other, (level.get db other).isSome → other = key ∨ other = larger) :
    level.seekToLast db = some larger := by
  cases seeks : level.seekToLast db with
  | none =>
    rw [(level.seekToLast_none db).mp seeks larger] at there
    cases there
  | some last =>
    obtain ⟨present, top⟩ := level.seekToLast_some db last seeks
    rcases only last present with rfl | rfl
    · exact absurd above (top larger there)
    · rfl

/-- A record that stands in the first of some segments and has a key of its own. -/
theorem number_of_alone {layout : Layout} {first other : Entry} {count : Nat}
    (segments : layout.closed ++ [layout.current] = [[first]] ++ List.replicate count [other])
    (apart : other.key ≠ first.key) {placed : Placed} (member : placed ∈ layout.placed)
    (named : placed.key = first.key) : placed.number = 0 := by
  obtain ⟨before, after, inside, -⟩ := Layout.of_mem_placed member
  rw [segments] at inside
  cases number : placed.number with
  | zero => rfl
  | succ number =>
    rw [number, List.singleton_append, List.getElem?_cons_succ] at inside
    have same := List.eq_of_mem_replicate (List.mem_of_getElem? inside)
    have entry : placed.entry ∈ [other] := by
      rw [← same]
      exact List.mem_append_right _ List.mem_cons_self
    rw [Placed.key, List.mem_singleton.mp entry] at named
    exact absurd named apart

/-- Once half of the numbers are in use, those of the segments in use are negative, and the last key
may lead to the first segment. -/
theorem refusesReopening_half : RefusesReopening
    (.put [1] [] :: List.replicate (2 ^ 31) (.put [0] [])) := by
  obtain ⟨count, total⟩ : ∃ count, count = 2 ^ 31 := ⟨_, rfl⟩
  rw [← total]
  have few : ([] : List (List Entry)).length + count < 2 ^ 32 := by
    rw [List.length_nil]
    omega
  obtain ⟨session, first, started, stepped, held, maps⟩ :=
    MapSession.started_with LevelDb.table [1] rfl
  obtain ⟨after, layout, held', reached, maps', full, segments⟩ :=
    maps.fill 10 5 oneEach_usable.sized [0] [] rfl rfl count (restOf_filled [] rfl) few
  have many : layout.closed.length = 2 ^ 31 := by
    have lengths := congrArg List.length segments
    simp only [List.length_append, List.length_singleton, List.length_replicate, List.length_nil]
      at lengths
    omega
  have found (key : List UInt8) : (LevelDb.table.get after.storage.logIndexDb key).isSome =
      ((LogMap.after [([1], [])] (List.replicate count (.put [0] []))).lookup key).isSome :=
    maps'.isSome_lookup key
  have one : (LevelDb.table.get after.storage.logIndexDb [1]).isSome := by
    rw [found, LogMap.lookup_after, leaves_replicate count [] (by decide)]
    rfl
  have seeks : LevelDb.table.seekToLast after.storage.logIndexDb = some [1] := by
    refine seekToLast_larger LevelDb.table (show [(0 : UInt8)] < [1] by decide) one fun key held => ?_
    by_cases same : [0] = key
    · exact .inl same.symm
    · rw [found, LogMap.lookup_after, leaves_replicate count [] same] at held
      by_contra neither
      rw [List.lookup_cons, beq_false_of_ne fun equal => neither (.inr equal)] at held
      cases held
  obtain ⟨index, leads⟩ := Option.isSome_iff_exists.mp one
  have last := getLastIndex_some seeks leads
  rw [maps'.index] at leads
  split at leads
  next holds =>
    obtain ⟨placed, newest, rfl⟩ := Option.map_eq_some_iff.mp leads
    obtain ⟨member, named⟩ := mem_of_latest newest
    have number : placed.number = 0 := number_of_alone segments (by decide) member named
    refine ⟨session, after, started, ?_, ?_⟩
    · rw [MapSession.reached_cons stepped]
      exact reached
    · refine maps'.reopen_refused oneEach_usable (by decide) not_false fun reaches => ?_
      have below := reaches _ _ last
      rw [maps'.laid.readable.parse_placed zlib oneEach_usable.sized member, number,
        LogSegmentStore.getLastSegmentId, maps'.laid.id, many] at below
      exact below (show segmentId (2 ^ 31) < segmentId 0 by decide)
  next => cases leads

/-- When the numbers of segments are used up a value is lost, and when half of them are a storage may
not be opened again. -/
theorem last_values_lost :
    LosesValue (List.replicate (2 ^ 32) (.put [0] []) ++ [.put [1] []]) [1] ∧
      RefusesReopening (.put [1] [] :: List.replicate (2 ^ 31) (.put [0] [])) :=
  ⟨losesValue_last_segment, refusesReopening_half⟩

end Paxosme

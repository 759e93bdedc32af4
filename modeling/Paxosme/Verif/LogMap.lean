import Paxosme.Verif.EmptiedSegments
import Paxosme.Verif.IndexRecovery

/-!
# The log storage as a map

`Put`, `Get` and `Delete` answer as those of a map from keys to values do, whichever emptied
segments have been cleaned and however often the storage has been opened again, when the key that
is deleted is always the one whose value was put first and the numbers of segments last.
-/

namespace Paxosme

open Posix Bytes Framing KeyedLog

/-- What happens to a log storage. -/
inductive MapEvent where
  | put (key value : List UInt8)
  | get (key : List UInt8)
  | delete (key : List UInt8)
  /-- The event that cleans a segment is called, if it is pending. -/
  | clean (segmentId : SegmentId)
  /-- A new object is initialised on what is there. -/
  | reopen (how : Reopening)
  deriving DecidableEq, Repr

/-- What a log storage answers. -/
inductive MapAnswer where
  | returned (result : Bool)
  | found (value : Option (List UInt8))
  | called
  deriving DecidableEq, Repr

/-- The keys that have been put and not deleted since with their last values, in the order in
which these were put. -/
abbrev LogMap := List (List UInt8 × List UInt8)

namespace LogMap

/-- The other keys. -/
def without (contents : LogMap) (key : List UInt8) : LogMap :=
  contents.filter fun entry => decide (entry.1 ≠ key)

/-- What a map answers, and what is in it then. -/
def step (contents : LogMap) : MapEvent → MapAnswer × LogMap
  | .put key value => (.returned true, contents.without key ++ [(key, value)])
  | .get key => (.found (contents.lookup key), contents)
  | .delete key => (.returned (contents.lookup key).isSome, contents.without key)
  | .clean _ => (.called, contents)
  | .reopen _ => (.returned true, contents)

/-- Keys have their length, records fit a segment, and of the keys that are in the map the one is
deleted whose value was put first. -/
def Allows (options : LogStorageOptions) (contents : LogMap) : MapEvent → Prop
  | .put key value => key.length = options.indexKeyLength ∧
    8 + (options.indexKeyLength + value.length) ≤ options.segmentMaxSize
  | .delete key => (contents.lookup key).isSome → contents.head?.map Prod.fst = some key
  | _ => True

instance (options : LogStorageOptions) (contents : LogMap) :
    ∀ event, Decidable (contents.Allows options event)
  | .put _ _ => inferInstanceAs (Decidable (_ ∧ _))
  | .delete _ => inferInstanceAs (Decidable (_ → _))
  | .get _ => .isTrue trivial
  | .clean _ => .isTrue trivial
  | .reopen _ => .isTrue trivial

/-- The other keys stay as they are in a map without one. -/
theorem lookup_without (contents : LogMap) (key other : List UInt8) :
    (contents.without key).lookup other = if other = key then none else contents.lookup other := by
  have same : contents.without key = contents.filter fun entry => entry.1 != key :=
    List.filter_congr fun entry _ => by rw [bne, decide_not, beq_eq_decide]
  rw [same]
  exact LevelDb.lookup_without contents key other

/-- A key that is put has its value. -/
theorem lookup_put (contents : LogMap) (key value other : List UInt8) :
    (contents.without key ++ [(key, value)]).lookup other =
      if other = key then some value else contents.lookup other := by
  rw [List.lookup_append, lookup_without]
  by_cases same : other = key
  · simp [same]
  · rw [if_neg same, if_neg same, List.lookup_cons, beq_false_of_ne same]
    simp

end LogMap

/-- A log storage with the files under it, and the segments whose events are pending. -/
structure MapSession (δ : Type) where
  storage : DataBaseLogStorage δ
  files : Files FileName
  events : List SegmentId

variable {δ : Type}

namespace MapSession

variable (level : LevelDb δ) (env : Environment) (fuel calls : Nat) (options : LogStorageOptions)

/-- The files that the next object is initialised on. -/
def closed (session : MapSession δ) (how : Reopening) : Files FileName :=
  Session.closed ⟨session.storage.segmentStore, session.files, []⟩ how

/-- One event, all calls of the system going through; nothing when the process does not come to
the end of it. -/
def step (session : MapSession δ) : MapEvent → Option (MapAnswer × MapSession δ)
  | .put key value =>
    match (session.storage.put level env key value).run session.files with
    | (some (put, storage), files) => some (.returned put, { session with storage, files })
    | (none, _) => none
  | .get key =>
    match (session.storage.get level env key).run session.files with
    | (some value, files) => some (.found value, { session with files })
    | (none, _) => none
  | .delete key =>
    match (session.storage.delete level key).run session.files with
    | (some (deleted, events, storage), files) =>
      some (.returned deleted, ⟨storage, files, session.events ++ events⟩)
    | (none, _) => none
  | .clean segmentId =>
    if segmentId ∈ session.events then
      match (LogSegmentStore.deleteSegment segmentId).run session.files with
      | (some _, files) =>
        some (.called, { session with files, events := session.events.erase segmentId })
      | (none, _) => none
    else some (.called, session)
  | .reopen how =>
    match (DataBaseLogStorage.init level env fuel calls session.storage.logIndexDb options).run
        (session.closed how) with
    | (some (ready, storage), files) =>
      -- the events of an object that lives on are called, those of a process that ended are not
      some (.returned ready, ⟨storage, files, if how = .restarted then [] else session.events⟩)
    | (none, _) => none

/-- A new storage on a disk without one. -/
def start (disk : Disk FileName) : Option (MapSession δ) :=
  match (DataBaseLogStorage.init level env fuel calls level.created options).run disk.boot with
  | (some (true, storage), files) => some ⟨storage, files, []⟩
  | _ => none

/-- The number of a segment that is started does not overflow. -/
def Numbered (session : MapSession δ) : MapEvent → Prop
  | .put _ value => session.storage.segmentStore.Rolls value →
    session.storage.segmentStore.curSegmentId ≠ Int32.maxValue
  | _ => True

instance (session : MapSession δ) : ∀ event, Decidable (session.Numbered event)
  | .put _ _ => inferInstanceAs (Decidable (_ → _))
  | .get _ => .isTrue trivial
  | .delete _ => .isTrue trivial
  | .clean _ => .isTrue trivial
  | .reopen _ => .isTrue trivial

/-- No number of a segment overflows in the events. -/
def NumberedAlong (session : MapSession δ) (events : List MapEvent) : Prop :=
  Runs.Along (fun state event =>
      state.bind fun session => (session.step level env fuel calls options event).map Prod.snd)
    (fun state event => ∀ session ∈ state, session.Numbered event) (some session) events

instance (session : MapSession δ) (events : List MapEvent) :
    Decidable (session.NumberedAlong level env fuel calls options events) :=
  inferInstanceAs (Decidable (Runs.Along _ _ _ _))

/-- There are numbers of segments enough for an event: `Put` starts no segment behind the last of
all numbers, and a new object finds no key, or a segment in use that is not the last of all and not
numbered below the one that the last key leads to. -/
def Counted (session : MapSession δ) : MapEvent → Prop
  | .put _ value => session.storage.segmentStore.Rolls value →
    session.storage.segmentStore.curSegmentId ≠ -1
  | .reopen _ => session.storage.Reaches level ∧
    (level.seekToLast session.storage.logIndexDb ≠ none →
      session.storage.segmentStore.curSegmentId ≠ -1)
  | _ => True

instance (session : MapSession δ) : ∀ event, Decidable (session.Counted level event)
  | .put _ _ => inferInstanceAs (Decidable (_ → _))
  | .reopen _ => inferInstanceAs (Decidable (_ ∧ (_ → _)))
  | .get _ => .isTrue trivial
  | .delete _ => .isTrue trivial
  | .clean _ => .isTrue trivial

end MapSession

/-- The key of a record. -/
abbrev Placed.key (placed : Placed) : List UInt8 := placed.entry.key

/-- `Append` of a value that a segment holds starts one exactly when the current one is full. -/
theorem Laid.rolls_iff {env : Environment} {options : LogStorageOptions} {gone : Nat → Prop}
    {layout : Layout} {tail : List UInt8} {store : LogSegmentStore} {files : Files FileName}
    (sized : options.Sized) (laid : Laid env options gone layout tail store files)
    {value : List UInt8}
    (small : 8 + (options.indexKeyLength + value.length) ≤ options.segmentMaxSize) :
    store.Rolls value ↔ tail.length < 8 + (options.indexKeyLength + value.length) := by
  rw [LogSegmentStore.Rolls, laid.keyLength, laid.maxSize, laid.full_iff sized small]
  exact and_iff_right small

/-- A record more takes a segment more when the current one is full. -/
theorem Layout.length_closed_append {options : LogStorageOptions} {layout : Layout}
    {entry : Entry} (small : entry.size ≤ options.segmentMaxSize) :
    (layout.append options entry).closed.length =
      if (restOf options layout).length < entry.size then layout.closed.length + 1
      else layout.closed.length := by
  rw [← Layout.place_eq_append small, Layout.place]
  split
  · rw [if_neg (by omega), Layout.put]
  · rw [if_pos (by omega), Layout.put, Layout.roll, List.length_append, List.length_singleton]

/-- The numbers of segments are in order as long as they do not overflow. -/
theorem not_segmentId_lt {first second : Nat} (le : first ≤ second) (small : second < 2 ^ 31) :
    ¬ segmentId second < segmentId first := by
  rw [Int32.lt_iff_toInt_lt, segmentId, segmentId, Int32.toInt_ofNat_of_lt small,
    Int32.toInt_ofNat_of_lt (by omega)]
  omega

/-- The last of all numbers of segments is −1. -/
theorem Laid.more_of_id {env : Environment} {options : LogStorageOptions} {gone : Nat → Prop}
    {layout : Layout} {tail : List UInt8} {store : LogSegmentStore} {files : Files FileName}
    (laid : Laid env options gone layout tail store files) (apart : store.curSegmentId ≠ -1) :
    layout.closed.length + 1 < 2 ^ 32 := by
  have number := laid.archive.number
  refine Nat.lt_of_le_of_ne number fun last => apart ?_
  have equal : layout.closed.length = 2 ^ 32 - 1 := by omega
  rw [laid.id, equal]
  decide

/-- The number −1 is the last of all. -/
theorem Laid.id_of_more {env : Environment} {options : LogStorageOptions} {gone : Nat → Prop}
    {layout : Layout} {tail : List UInt8} {store : LogSegmentStore} {files : Files FileName}
    (laid : Laid env options gone layout tail store files)
    (more : layout.closed.length + 1 < 2 ^ 32) : store.curSegmentId ≠ -1 := by
  rw [laid.id]
  intro last
  have same : segmentId layout.closed.length = segmentId (2 ^ 32 - 1) := last.trans (by decide)
  have equal := segmentId_inj (by omega) (by decide) same
  omega

/-- A segment that has been started and holds no live record, with no byte behind its records. -/
structure Retired (options : LogStorageOptions) (layout : Layout) (live : List Placed)
    (number : Nat) : Prop where
  started : number ≤ layout.closed.length
  cut : number = layout.closed.length → restOf options layout = []
  dead : ∀ placed ∈ live, number < placed.number

/-- A segment stays retired when there are fewer live records. -/
theorem Retired.fewer {options : LogStorageOptions} {layout : Layout} {live live' : List Placed}
    {number : Nat} (retired : Retired options layout live number)
    (fewer : ∀ placed ∈ live', placed ∈ live) : Retired options layout live' number where
  started := retired.started
  cut := retired.cut
  dead placed inside := retired.dead placed (fewer placed inside)

/-- A segment stays retired when a record is appended. -/
theorem Retired.append {options : LogStorageOptions} {layout : Layout} {live live' : List Placed}
    {number : Nat} {entry : Entry} (retired : Retired options layout live number)
    (small : entry.size ≤ options.segmentMaxSize)
    (added : ∀ placed ∈ live', placed ∈ live ∨
      placed = layout.spot (restOf options layout).length entry) :
    Retired options (layout.append options entry) live' number := by
  have started := retired.started
  have cut := retired.cut
  have positive : 0 < entry.size := by
    rw [Entry.size]
    omega
  have behind : number < (layout.spot (restOf options layout).length entry).number ∧
      number < (layout.append options entry).closed.length ∨
      number < layout.closed.length ∧
        (layout.spot (restOf options layout).length entry).number = layout.closed.length ∧
        (layout.append options entry).closed = layout.closed := by
    rw [← Layout.place_eq_append small, Layout.spot, Layout.place]
    split
    · refine .inr ⟨Nat.lt_of_le_of_ne started fun same => ?_, rfl, rfl⟩
      rw [cut same, List.length_nil] at *
      omega
    · refine .inl ⟨Nat.lt_succ_of_le started, ?_⟩
      rw [Layout.put, Layout.roll, List.length_append]
      exact Nat.lt_succ_of_le started
  constructor
  · rcases behind with ⟨-, below⟩ | ⟨below, -, same⟩
    · omega
    · rw [same]
      exact started
  · intro current
    rcases behind with ⟨-, below⟩ | ⟨below, -, same⟩
    · omega
    · rw [same] at current
      omega
  · intro placed member
    rcases added placed member with old | rfl
    · exact retired.dead placed old
    · rcases behind with ⟨below, -⟩ | ⟨below, same, -⟩
      · exact below
      · omega

/-- The index leads from each key that is held to the latest record of the key, these are the
contents of a map, and no segment that has been cleaned or is to be cleaned holds one of them. -/
structure MapSession.Maps (level : LevelDb δ) (env : Environment) (options : LogStorageOptions)
    (session : MapSession δ) (contents : LogMap) (layout : Layout) (held : List UInt8 → Bool)
    (gone : Nat → Prop) : Prop where
  laid : Laid env options gone layout (restOf options layout) session.storage.segmentStore
    session.files
  index : ∀ key, level.get session.storage.logIndexDb key =
    (if held key then latest Placed.key layout.placed key else none).map (Placed.index env)
  contents : contents = (lives Placed.key held layout.placed).map Placed.written
  tidy : Tidy Placed.key held layout.placed
  cleaned : ∀ number, gone number →
    Retired options layout (lives Placed.key held layout.placed) number
  pending : ∀ id ∈ session.events, ∃ number, id = segmentId number ∧ ¬ gone number ∧
    Retired options layout (lives Placed.key held layout.placed) number
  distinct : session.events.Nodup

variable {level : LevelDb δ} {env : Environment} {options : LogStorageOptions} {fuel calls : Nat}
  {session : MapSession δ} {contents : LogMap} {layout : Layout} {held : List UInt8 → Bool}
  {gone : Nat → Prop} {number : Nat}

namespace MapSession.Maps

/-- What the map has under a key. -/
theorem lookup (maps : session.Maps level env options contents layout held gone)
    (key : List UInt8) :
    contents.lookup key = if held key then
      (latest Placed.key layout.placed key).map fun placed => placed.entry.value else none := by
  rw [maps.contents]
  exact lookup_lives (fun placed : Placed => placed.entry.value) layout.placed key

/-- Where the index leads to. -/
theorem leads (maps : session.Maps level env options contents layout held gone)
    {key value : List UInt8} (found : contents.lookup key = some value) :
    ∃ placed, held key ∧ latest Placed.key layout.placed key = some placed ∧
      placed.entry.key = key ∧ placed.entry.value = value ∧ placed ∈ layout.placed ∧
      ¬ gone placed.number := by
  rw [maps.lookup] at found
  split at found
  next holds =>
    obtain ⟨placed, last, rfl⟩ := Option.map_eq_some_iff.mp found
    obtain ⟨member, same⟩ := mem_of_latest last
    refine ⟨placed, holds, last, same, rfl, member, fun absent => ?_⟩
    exact absurd ((maps.cleaned _ absent).dead placed (mem_lives last holds)) (Nat.lt_irrefl _)
  next => cases found

/-- The index leads nowhere from a key that is not in the map. -/
theorem index_none (maps : session.Maps level env options contents layout held gone)
    {key : List UInt8} (missing : contents.lookup key = none) :
    level.get session.storage.logIndexDb key = none := by
  rw [maps.lookup] at missing
  rw [maps.index]
  split at missing
  next holds =>
    rw [if_pos holds, Option.map_eq_none_iff.mp missing]
    rfl
  next free =>
    rw [if_neg free]
    rfl

/-- Reading keeps the contents. -/
theorem unchanged (maps : session.Maps level env options contents layout held gone)
    {files : Files FileName} (same : session.files.Unchanged files) :
    { session with files }.Maps level env options contents layout held gone :=
  { maps with laid := maps.laid.unchanged same }

/-- `Get` returns what the map has. -/
theorem get (sized : options.Sized) (maps : session.Maps level env options contents layout held gone)
    (key : List UInt8) :
    ∃ next, session.step level env fuel calls options (.get key) =
        some (.found (contents.lookup key), next) ∧
      next.Maps level env options contents layout held gone := by
  have gets : Completes (session.storage.get level env key) session.files (contents.lookup key)
      session.files.Unchanged := by
    rw [DataBaseLogStorage.get, LogIndexDB.getIndex, DataBaseLogStorage.toIndexKey]
    cases found : contents.lookup key with
    | none =>
      rw [maps.index_none found]
      exact Completes.pure _ (Files.Moved.refl _).unchanged
    | some value =>
      obtain ⟨placed, holds, last, rfl, rfl, member, present⟩ := maps.leads found
      rw [maps.index, if_pos holds, last]
      refine (Performs.touch _ _).andThen ?_
      refine (maps.laid.readable.read_placed sized member present).bind fun after same => ?_
      dsimp only
      rw [if_neg (not_not.mpr rfl)]
      exact Completes.pure _ same
  obtain ⟨files, run, same⟩ := gets.run
  exact ⟨{ session with files }, by rw [step, run], maps.unchanged same⟩

/-- The map without a key is what is live without it. -/
theorem without_written (live : List Placed) (key : List UInt8) :
    LogMap.without (live.map Placed.written) key =
      (live.filter fun placed => decide (placed.key ≠ key)).map Placed.written := by
  rw [LogMap.without, List.filter_map]
  rfl

/-- The oldest of the keys has the first live record. -/
theorem oldest (maps : session.Maps level env options contents layout held gone)
    {key value : List UInt8} (found : contents.lookup key = some value)
    (allowed : contents.Allows options (.delete key)) :
    ∃ placed rest, lives Placed.key held layout.placed = placed :: rest ∧ placed.key = key := by
  have first := allowed (by rw [found]; rfl)
  rw [maps.contents] at first
  cases live : lives Placed.key held layout.placed with
  | nil =>
    rw [live] at first
    cases first
  | cons placed rest =>
    rw [live] at first
    exact ⟨placed, rest, rfl, Option.some.inj first⟩

/-- A live record stands in a segment that is there. -/
theorem present (maps : session.Maps level env options contents layout held gone)
    {placed : Placed} (live : placed ∈ lives Placed.key held layout.placed) :
    ¬ gone placed.number := fun absent =>
  Nat.lt_irrefl _ ((maps.cleaned _ absent).dead placed live)

/-- What a map loses with a key. -/
theorem contents_without (maps : session.Maps level env options contents layout held gone)
    (key : List UInt8) :
    contents.without key =
      (lives Placed.key (Function.update held key false) layout.placed).map Placed.written := by
  rw [lives_release, maps.contents, without_written]

/-- `Delete` removes the oldest of the keys. -/
theorem delete_oldest (sized : options.Sized)
    (maps : session.Maps level env options contents layout held gone) {placed : Placed}
    {rest : List Placed} (starts : lives Placed.key held layout.placed = placed :: rest) :
    ∃ next, session.step level env fuel calls options (.delete placed.key) =
        some (.returned true, next) ∧
      next.Maps level env options (contents.without placed.key) layout
        (Function.update held placed.key false) gone := by
  obtain ⟨early, later, split, others, holds, last, -⟩ := lives_split starts
  have live : placed ∈ lives Placed.key held layout.placed := by
    rw [starts]
    exact List.mem_cons_self
  have fewer : ∀ other ∈ lives Placed.key (Function.update held placed.key false) layout.placed,
      other ∈ rest := by
    rw [lives_release, starts, List.filter_cons_of_neg (by simp)]
    exact fun other inside => List.mem_of_mem_filter inside
  have fewer' : ∀ other ∈ lives Placed.key (Function.update held placed.key false) layout.placed,
      other ∈ lives Placed.key held layout.placed := fun other inside => by
    rw [starts]
    exact List.mem_cons_of_mem _ (fewer other inside)
  have inUse : placed.number ≤ layout.closed.length :=
    Layout.number_le_of_mem_placed (mem_of_lives live)
  have latest_ : latest Placed.key layout.placed placed.key = some placed :=
    latest_eq_some.mpr ⟨early, later, split, rfl, latest_eq_none.mp last⟩
  obtain ⟨before, after, inside, offset, behind⟩ := Layout.placed_split split
  -- behind the last record of a segment come those of the next ones
  have later_of : after = [] → ∀ other ∈ rest, other ∈ placedOf (placed.number + 1)
      ((layout.closed ++ [layout.current]).drop (placed.number + 1)) := by
    rintro rfl other member
    have all : later = placedOf (placed.number + 1) _ := (List.cons.inj behind).2
    rw [others] at member
    rw [← all]
    exact mem_of_lives member
  have removes : Completes (LogSegmentStore.removeAsync (Placed.index env _)) session.files _
      session.files.Unchanged :=
    maps.laid.readable.removeAsync_placed sized inside (maps.present live)
  rw [← offset] at removes
  have index := maps.index placed.key
  rw [if_pos holds, latest_, Option.map_some] at index
  have ok := level.delete_ok session.storage.logIndexDb placed.key
  have deletes : Completes (session.storage.delete level placed.key) session.files
      (true, (if after = [] ∧ (placed.number < layout.closed.length ∨ restOf options layout = [])
        then [segmentId placed.number] else []), { session.storage with
          logIndexDb := (level.delete session.storage.logIndexDb placed.key).2 })
      session.files.Unchanged := by
    rw [DataBaseLogStorage.delete, LogIndexDB.getIndex, DataBaseLogStorage.toIndexKey, index]
    refine removes.bind fun files same => ?_
    simp only [LogIndexDB.delIndex, ok, Bool.not_true, Bool.false_eq_true, if_false]
    exact Completes.pure _ same
  obtain ⟨files, run, same⟩ := deletes.run
  refine ⟨_, by rw [step, run], ?_⟩
  constructor
  · exact maps.laid.unchanged same
  · intro key
    rw [level.get_delete]
    by_cases equal : key = placed.key
    · rw [equal, Function.update_self, Function.update_self]
      rfl
    · rw [Function.update_of_ne equal, Function.update_of_ne equal]
      exact maps.index key
  · exact maps.contents_without placed.key
  · exact maps.tidy.release starts
  · exact fun number absent => (maps.cleaned number absent).fewer fewer'
  · intro id waits
    rcases List.mem_append.mp waits with old | new
    · obtain ⟨number, same, there, retired⟩ := maps.pending id old
      exact ⟨number, same, there, retired.fewer fewer'⟩
    · split at new
      next ends =>
        rw [List.mem_singleton.mp new]
        refine ⟨placed.number, rfl, maps.present live, inUse, ?_, fun other member => ?_⟩
        · intro current
          exact ends.2.resolve_left (by omega)
        · have above := le_number_of_mem_placedOf (later_of ends.1 other (fewer other member))
          omega
      next => cases new
  · refine List.nodup_append.mpr ⟨maps.distinct, ?_, fun id waits other new => ?_⟩
    · split
      · exact List.nodup_singleton _
      · exact List.nodup_nil
    · split at new
      next =>
        rw [List.mem_singleton.mp new]
        obtain ⟨number, rfl, -, retired⟩ := maps.pending id waits
        intro same
        have number' := maps.laid.archive.number
        have started := retired.started
        have below := retired.dead placed live
        have equal := segmentId_inj (by omega) (by omega) same
        omega
      next => cases new

/-- `Delete` answers as a map does. -/
theorem delete (sized : options.Sized)
    (maps : session.Maps level env options contents layout held gone) {key : List UInt8}
    (allowed : contents.Allows options (.delete key)) :
    ∃ next held', session.step level env fuel calls options (.delete key) =
        some (.returned (contents.lookup key).isSome, next) ∧
      next.Maps level env options (contents.without key) layout held' gone := by
  cases found : contents.lookup key with
  | none =>
    have fails : session.storage.delete level key = pure (false, [], session.storage) := by
      rw [DataBaseLogStorage.delete, LogIndexDB.getIndex, DataBaseLogStorage.toIndexKey,
        maps.index_none found]
    have same : contents.without key = contents := by
      refine List.filter_eq_self.mpr fun entry member => decide_eq_true fun equal => ?_
      have apart := List.lookup_eq_none_iff.mp found entry member
      simp [equal] at apart
    refine ⟨session, held, ?_, ?_⟩
    · rw [step, fails, (Performs.pure _).run]
      dsimp only
      rw [List.append_nil]
      rfl
    · rw [same]
      exact maps
  | some value =>
    obtain ⟨placed, rest, starts, rfl⟩ := maps.oldest found allowed
    obtain ⟨next, stepped, maps'⟩ := maps.delete_oldest sized starts
    exact ⟨next, _, stepped, maps'⟩

/-- `Put` answers as a map does while there is a number for the segment that it starts. -/
theorem put (sized : options.Sized)
    (maps : session.Maps level env options contents layout held gone) {key value : List UInt8}
    (allowed : contents.Allows options (.put key value))
    (more : session.storage.segmentStore.Rolls value → layout.closed.length + 1 < 2 ^ 32) :
    ∃ next, session.step level env fuel calls options (.put key value) =
        some (.returned true, next) ∧
      next.Maps level env options (contents.without key ++ [(key, value)])
        (layout.append options ⟨key, value⟩) (Function.update held key true) gone := by
  obtain ⟨keyed, fits⟩ := allowed
  have size : (⟨key, value⟩ : Entry).size = 8 + (options.indexKeyLength + value.length) := by
    rw [Entry.size, Entry.body, List.length_append, keyed]
  have small : (⟨key, value⟩ : Entry).size ≤ options.segmentMaxSize := by omega
  have full : (restOf options layout).length < (⟨key, value⟩ : Entry).size →
      layout.closed.length + 1 < 2 ^ 32 := fun full =>
    more ((maps.laid.rolls_iff sized fits).mpr (by omega))
  have unstarted : ¬ gone (layout.closed.length + 1) := fun absent => by
    have started := (maps.cleaned _ absent).started
    omega
  obtain ⟨store, appends⟩ := maps.laid.append_stores sized (env.copied_key keyed) small full
    unstarted
  have placed := layout.placed_place (restOf options layout).length ⟨key, value⟩
  rw [tailOf_restOf small, Layout.place_eq_append small] at appends
  rw [Layout.place_eq_append small] at placed
  generalize spotted : layout.spot (restOf options layout).length ⟨key, value⟩ = spot at *
  have entry : spot.entry = ⟨key, value⟩ := by
    rw [← spotted]
    exact layout.spot_entry _ _
  have named : spot.key = key := congrArg Entry.key entry
  have ok := level.put_ok session.storage.logIndexDb key (spot.index env)
  have puts : Completes (session.storage.put level env key value) session.files
      (true, ⟨(level.put session.storage.logIndexDb key (spot.index env)).2, store⟩)
      (Laid env options gone (layout.append options ⟨key, value⟩)
        (restOf options (layout.append options ⟨key, value⟩)) store) := by
    refine appends.bind fun after laid => ?_
    simp only [LogIndexDB.putIndex, DataBaseLogStorage.toIndexKey, ok, Bool.not_true,
      Bool.false_eq_true, if_false]
    exact Completes.pure _ laid
  obtain ⟨files, run, laid⟩ := puts.run
  have live : lives Placed.key (Function.update held key true)
      (layout.append options ⟨key, value⟩).placed =
        ((lives Placed.key held layout.placed).filter fun other => decide (other.key ≠ key)) ++
          [spot] := by
    rw [placed, ← named]
    exact lives_concat layout.placed spot
  have added : ∀ other ∈ lives Placed.key (Function.update held key true)
      (layout.append options ⟨key, value⟩).placed,
      other ∈ lives Placed.key held layout.placed ∨
        other = layout.spot (restOf options layout).length ⟨key, value⟩ := by
    rw [live, spotted]
    intro other member
    rcases List.mem_append.mp member with old | new
    · exact .inl (List.mem_of_mem_filter old)
    · exact .inr (List.mem_singleton.mp new)
  refine ⟨_, by rw [step, run], ?_⟩
  constructor
  · exact laid
  · intro other
    rw [level.get_put, placed, latest_concat, named]
    by_cases same : other = key
    · rw [same, Function.update_self, Function.update_self, if_pos rfl, if_pos rfl]
      rfl
    · rw [Function.update_of_ne same, Function.update_of_ne same, if_neg (Ne.symm same)]
      exact maps.index other
  · rw [live, List.map_append, ← without_written, ← maps.contents, List.map_singleton,
      Placed.written, entry]
  · rw [placed, ← named]
    exact maps.tidy.concat spot
  · exact fun number absent => (maps.cleaned number absent).append small added
  · intro id waits
    obtain ⟨number, same, there, retired⟩ := maps.pending id waits
    exact ⟨number, same, there, retired.append small added⟩
  · exact maps.distinct

/-- The contents stay as they are when a segment is cleaned. -/
theorem clean (maps : session.Maps level env options contents layout held gone)
    (id : SegmentId) :
    ∃ next gone', session.step level env fuel calls options (.clean id) = some (.called, next) ∧
      next.Maps level env options contents layout held gone' := by
  by_cases waits : id ∈ session.events
  · obtain ⟨number, rfl, there, retired⟩ := maps.pending id waits
    obtain ⟨files, run, laid⟩ :=
      (maps.laid.deleteSegment retired.started there retired.cut).run
    change (LogSegmentStore.deleteSegment (segmentId number)).run session.files = _ at run
    refine ⟨{ session with files, events := session.events.erase (segmentId number) },
      fun other => gone other ∨ other = number, by rw [step, if_pos waits, run], laid, maps.index,
      maps.contents, maps.tidy, ?_, fun other waits' => ?_, maps.distinct.erase _⟩
    · rintro other (absent | rfl)
      · exact maps.cleaned other absent
      · exact retired
    · have ⟨apart, waits'⟩ := maps.distinct.mem_erase_iff.mp waits'
      obtain ⟨number', rfl, there', retired'⟩ := maps.pending other waits'
      refine ⟨number', rfl, ?_, retired'⟩
      rintro (absent | rfl)
      · exact there' absent
      · exact apart rfl
  · exact ⟨session, gone, by rw [step, if_neg waits], maps⟩

/-- The alignment leaves an index that is the one before: the scan starts at a live record, and
each record behind that is of a key that is held. -/
theorem realigned (usable : options.Usable)
    (maps : session.Maps level env options contents layout held gone) {how : Reopening}
    (counted : session.Counted level (.reopen how))
    (many : layout.placed.length + layout.closed.length + 1 < calls) :
    ∃ db, (∀ key, level.get db key = level.get session.storage.logIndexDb key) ∧
      ∀ store files, Laid env options gone layout (restOf options layout) store files →
        Completes (DataBaseLogStorage.alignIndexWithSegmentStore level env calls
          ⟨session.storage.logIndexDb, store⟩) files (true, ⟨db, store⟩) files.Unchanged := by
  obtain ⟨reaches, numbered⟩ := counted
  cases seeks : level.seekToLast session.storage.logIndexDb with
  | none =>
    refine ⟨session.storage.logIndexDb, fun key => rfl, fun store files laid => ?_⟩
    rw [align_empty calls seeks]
    exact Completes.pure _ (Files.Moved.refl _).unchanged
  | some last =>
    have more := maps.laid.more_of_id (numbered (by rw [seeks]; exact Option.some_ne_none last))
    have leads := maps.index last
    have there := (level.seekToLast_some _ _ seeks).1
    rw [leads, Option.isSome_map] at there
    split at there
    next holds =>
      obtain ⟨placed, newest⟩ := Option.isSome_iff_exists.mp there
      rw [if_pos holds, newest, Option.map_some] at leads
      obtain ⟨early, later, split, start⟩ := since_split newest
      have live := mem_lives newest holds
      have present : ∀ number, placed.number ≤ number → ¬ gone number := fun number above absent =>
        Nat.lt_irrefl _ (Nat.lt_of_lt_of_le ((maps.cleaned number absent).dead placed live) above)
      rw [start] at split
      refine ⟨entered level session.storage.logIndexDb
        ((placed :: later).map (Placed.found env)), fun key => ?_, fun store files laid => ?_⟩
      · rw [get_entered, maps.index, ← Option.map_or, ← start]
        exact congrArg _ (maps.tidy.replay_since holds newest key)
      · have reaches' : DataBaseLogStorage.Reaches level ⟨session.storage.logIndexDb, store⟩ :=
          (reaches_congr (laid.id.trans maps.laid.id.symm)).mpr reaches
        exact laid.align_since usable (ends_zeros (by decide) _) more split present seeks leads
          reaches' many
    next => cases there

/-- Where fewer than half of the numbers of segments are in use, the last key leads to none above
the one in use. -/
theorem reaches (sized : options.Sized)
    (maps : session.Maps level env options contents layout held gone)
    (small : layout.closed.length < 2 ^ 31) : session.storage.Reaches level := by
  intro key index found
  rw [LogIndexDB.getLastIndex, Option.bind_eq_bind, Option.bind_eq_some_iff] at found
  obtain ⟨last, seeks, found⟩ := found
  have leads := maps.index last
  have there := (level.seekToLast_some _ _ seeks).1
  rw [leads, Option.isSome_map] at there
  split at there
  next holds =>
    obtain ⟨placed, newest⟩ := Option.isSome_iff_exists.mp there
    rw [if_pos holds, newest, Option.map_some] at leads
    simp only [LogIndexDB.getIndex, leads, Option.bind_some, Option.pure_def, Option.some.injEq,
      Prod.mk.injEq] at found
    have member := mem_of_lives (mem_lives newest holds)
    rw [← found.2, maps.laid.readable.parse_placed env sized member,
      LogSegmentStore.getLastSegmentId, maps.laid.id]
    exact not_segmentId_lt (Layout.number_le_of_mem_placed member) small
  next => cases there

/-- So a new object can then be initialised. -/
theorem counted_reopen (sized : options.Sized)
    (maps : session.Maps level env options contents layout held gone)
    (small : layout.closed.length < 2 ^ 31) (how : Reopening) :
    session.Counted level (.reopen how) :=
  ⟨maps.reaches sized small, fun _ => maps.laid.id_of_more (by omega)⟩

/-- The next object is initialised on the same disk. -/
theorem closed_disk (maps : session.Maps level env options contents layout held gone)
    (how : Reopening) :
    (session.closed how).Sound ∧ (session.closed how).toDisk = session.files.toDisk :=
  Session.closed_disk maps.laid.sound how

/-- The events that are pending once a new object has been initialised. -/
theorem pending_reopened (session : MapSession δ) (how : Reopening) :
    (if how = .restarted then [] else session.events).Sublist session.events := by
  split
  · exact List.nil_sublist _
  · exact List.Sublist.refl _

/-- A new object has the contents of the old one when the segment in use has its file. -/
theorem reopen_present (usable : options.Usable) (enough : options.segmentMaxSize < fuel)
    (maps : session.Maps level env options contents layout held gone) {how : Reopening}
    (counted : session.Counted level (.reopen how))
    (many : layout.placed.length + layout.closed.length + 1 < calls)
    (there : ¬ gone layout.closed.length) :
    ∃ next, session.step level env fuel calls options (.reopen how) =
        some (.returned true, next) ∧
      next.Maps level env options contents layout held gone := by
  obtain ⟨sound, disk⟩ := maps.closed_disk how
  have stored := maps.laid.stored there
  rw [← disk] at stored
  obtain ⟨store, opens⟩ := stored.init usable sound (ends_zeros (by decide) _) enough
  rw [openedTail_restOf] at opens
  obtain ⟨db, same, aligns⟩ := maps.realigned usable counted many
  have starts : Completes (DataBaseLogStorage.init level env fuel calls session.storage.logIndexDb
      options) (session.closed how) (true, ⟨db, store⟩)
      (Laid env options gone layout (restOf options layout) store) := init_completes opens
    fun middle laid => (aligns store middle laid).imp fun after kept => laid.unchanged kept
  obtain ⟨files, run, laid⟩ := starts.run
  have fewer := pending_reopened session how
  exact ⟨⟨⟨db, store⟩, files, if how = .restarted then [] else session.events⟩,
    by rw [step, run], laid, fun key => (same key).trans (maps.index key), maps.contents,
    maps.tidy, maps.cleaned, fun id waits => maps.pending id (fewer.subset waits),
    maps.distinct.sublist fewer⟩

/-- A segment in use that has been cleaned holds no live record, nor does any other. -/
theorem nothing_live (maps : session.Maps level env options contents layout held gone)
    (absent : gone layout.closed.length) : lives Placed.key held layout.placed = [] := by
  refine List.eq_nil_iff_forall_not_mem.mpr fun placed live => ?_
  have below := (maps.cleaned _ absent).dead placed live
  have inUse := Layout.number_le_of_mem_placed (mem_of_lives live)
  omega

/-- A new object starts the segment in use again when that has been cleaned. -/
theorem reopen_absent (sized : options.Sized)
    (maps : session.Maps level env options contents layout held gone) (how : Reopening)
    (absent : gone layout.closed.length) :
    ∃ next, session.step level env fuel calls options (.reopen how) =
        some (.returned true, next) ∧
      next.Maps level env options contents ⟨layout.closed, []⟩ (fun _ => false)
        (fun number => gone number ∧ number ≠ layout.closed.length) := by
  obtain ⟨sound, disk⟩ := maps.closed_disk how
  have stored : Stored env options (fun number => gone number ∧ number ≠ layout.closed.length)
      ⟨layout.closed, []⟩ [] (session.closed how).toDisk := by
    rw [disk]
    have archive := maps.laid.archive
    constructor
    · exact maps.laid.sound.toSound
    · exact maps.laid.path
    · refine ⟨archive.number, archive.metadata, fun number entries found present => ?_,
        fun number below both => archive.cleaned number below both.1, archive.beyond⟩
      have below : number < layout.closed.length := (List.getElem?_eq_some_iff.mp found).1
      exact archive.kept number entries found fun cleaned => present ⟨cleaned, by omega⟩
    · refine ⟨fun entries member => ?_, maps.laid.fits.closed, by simp⟩
      rcases List.mem_append.mp member with old | new
      · exact maps.laid.fits.keyed entries (List.mem_append_left _ old)
      · rw [List.mem_singleton.mp new]
        exact fun entry inside => absurd inside List.not_mem_nil
    · exact fun both => both.2 rfl
    · obtain ⟨inode, -, -, -, unlinked⟩ := maps.laid.curOpen
      have missing : session.files.view layout.currentName = none := (unlinked absent).2.1
      change (session.files.view layout.currentName).getD [] = _
      rw [missing]
      rfl
  have live := maps.nothing_live absent
  obtain ⟨store, opens⟩ := stored.init_unfilled sized sound rfl
  have tail : openedTail options ⟨layout.closed, []⟩ [] = restOf options ⟨layout.closed, []⟩ := by
    rw [openedTail, if_pos ⟨rfl, rfl⟩, restOf, segmentBytes_nil, List.length_nil, Nat.sub_zero]
  rw [tail] at opens
  have unindexed : ∀ key, level.get session.storage.logIndexDb key = none := by
    intro key
    rw [maps.index]
    split
    next holds =>
      cases newest : latest Placed.key layout.placed key with
      | none => rfl
      | some placed =>
        have inside := mem_lives newest holds
        rw [live] at inside
        cases inside
    next => rfl
  have empty := (level.seekToLast_none session.storage.logIndexDb).mpr unindexed
  have starts : Completes (DataBaseLogStorage.init level env fuel calls session.storage.logIndexDb
      options) (session.closed how) (true, ⟨session.storage.logIndexDb, store⟩)
      (Laid env options (fun number => gone number ∧ number ≠ layout.closed.length)
        ⟨layout.closed, []⟩ (restOf options ⟨layout.closed, []⟩) store) := init_completes opens
    fun middle laid => by
      rw [align_empty calls empty]
      exact Completes.pure _ laid
  obtain ⟨files, run, laid⟩ := starts.run
  have fewer := pending_reopened session how
  refine ⟨⟨⟨session.storage.logIndexDb, store⟩, files,
    if how = .restarted then [] else session.events⟩, by rw [step, run], laid, unindexed, ?_,
    tidy_none _, ?_, fun id waits => ?_, maps.distinct.sublist fewer⟩
  · rw [lives_none, maps.contents, live]
  · rintro number ⟨cleaned, apart⟩
    have retired := maps.cleaned number cleaned
    rw [lives_none]
    exact ⟨retired.started, fun current => absurd current apart, by simp⟩
  · obtain ⟨number, same, there, retired⟩ := maps.pending id (fewer.subset waits)
    refine ⟨number, same, fun both => there both.1, retired.started, fun current => ?_, ?_⟩
    · rw [current] at there
      exact absurd absent there
    · rw [lives_none]
      simp

/-- Every event answers as that of a map does, and starts a segment at most. -/
theorem step (usable : options.Usable) (enough : options.segmentMaxSize < fuel)
    (maps : session.Maps level env options contents layout held gone) {event : MapEvent}
    (allowed : contents.Allows options event) (counted : session.Counted level event)
    (many : layout.placed.length + layout.closed.length + 1 < calls) :
    ∃ next layout' held' gone', session.step level env fuel calls options event =
        some ((contents.step event).1, next) ∧
      next.Maps level env options (contents.step event).2 layout' held' gone' ∧
      layout'.placed.length ≤ layout.placed.length + 1 ∧
      (layout'.closed.length = layout.closed.length ∨
        layout'.closed.length = layout.closed.length + 1 ∧
          ∃ key value, event = .put key value ∧ session.storage.segmentStore.Rolls value) := by
  cases event with
  | put key value =>
    obtain ⟨next, stepped, maps'⟩ := maps.put usable.sized allowed
      fun rolls => maps.laid.more_of_id (counted rolls)
    obtain ⟨keyed, fits⟩ := allowed
    have size : (⟨key, value⟩ : Entry).size = 8 + (options.indexKeyLength + value.length) := by
      rw [Entry.size, Entry.body, List.length_append, keyed]
    have fits' : (⟨key, value⟩ : Entry).size ≤ options.segmentMaxSize := by omega
    have placed := layout.placed_place (restOf options layout).length ⟨key, value⟩
    rw [Layout.place_eq_append fits'] at placed
    refine ⟨next, _, _, gone, stepped, maps', ?_, ?_⟩
    · rw [placed, List.length_append, List.length_singleton]
    · rw [Layout.length_closed_append fits']
      split
      next full =>
        exact .inr ⟨rfl, key, value, rfl, (maps.laid.rolls_iff usable.sized fits).mpr (by omega)⟩
      next => exact .inl rfl
  | get key =>
    obtain ⟨next, stepped, maps'⟩ := maps.get usable.sized key
    exact ⟨next, layout, held, gone, stepped, maps', by omega, .inl rfl⟩
  | delete key =>
    obtain ⟨next, held', stepped, maps'⟩ := maps.delete usable.sized allowed
    exact ⟨next, layout, held', gone, stepped, maps', by omega, .inl rfl⟩
  | clean id =>
    obtain ⟨next, gone', stepped, maps'⟩ := maps.clean id
    exact ⟨next, layout, held, gone', stepped, maps', by omega, .inl rfl⟩
  | reopen how =>
    by_cases absent : gone layout.closed.length
    · obtain ⟨next, stepped, maps'⟩ := maps.reopen_absent usable.sized how absent
      have fewer : (Layout.mk layout.closed []).placed.length ≤ layout.placed.length := by
        rw [Layout.placed, Layout.placed, length_placedOf, length_placedOf]
        simp
      exact ⟨next, _, _, _, stepped, maps', by omega, .inl rfl⟩
    · obtain ⟨next, stepped, maps'⟩ := maps.reopen_present usable enough counted many absent
      exact ⟨next, layout, held, gone, stepped, maps', by omega, .inl rfl⟩

end MapSession.Maps

/-! ## A whole run -/

/-- A session is a map, the numbers of its segments do not overflow, and an alignment after so
many more events comes to its end. -/
def MapSession.Tracks (level : LevelDb δ) (env : Environment) (options : LogStorageOptions)
    (calls count : Nat) (session : MapSession δ) (contents : LogMap) : Prop :=
  ∃ layout held gone, session.Maps level env options contents layout held gone ∧
    layout.closed.length < 2 ^ 31 ∧
    layout.placed.length + layout.closed.length + 2 * count + 1 < calls

namespace MapSession.Tracks

variable {count : Nat}

/-- Every event answers as that of a map does. -/
theorem step (usable : options.Usable) (enough : options.segmentMaxSize < fuel)
    (tracks : session.Tracks level env options calls (count + 1) contents) {event : MapEvent}
    (allowed : contents.Allows options event) (numbered : session.Numbered event) :
    ∃ next, session.step level env fuel calls options event =
        some ((contents.step event).1, next) ∧
      next.Tracks level env options calls count (contents.step event).2 := by
  obtain ⟨layout, held, gone, maps, small, many⟩ := tracks
  have id := maps.laid.id
  have counted : session.Counted level event := by
    cases event with
    | put key value => exact fun _ => maps.laid.id_of_more (by omega)
    | reopen how => exact maps.counted_reopen usable.sized small how
    | _ => trivial
  have many' : layout.placed.length + layout.closed.length + 1 < calls := by omega
  obtain ⟨next, layout', held', gone', stepped, maps', placed, closed⟩ :=
    maps.step usable enough allowed counted many'
  refine ⟨next, stepped, layout', held', gone', maps', ?_, by omega⟩
  rcases closed with same | ⟨started, key, value, rfl, rolls⟩
  · omega
  · refine Nat.lt_of_le_of_ne (by omega) fun last => numbered rolls ?_
    have equal : layout.closed.length = 2 ^ 31 - 1 := by omega
    rw [id, equal]
    decide

end MapSession.Tracks

/-- A storage on a disk without one is an empty map. -/
theorem Fresh.maps (level : LevelDb δ) (sized : options.Sized) {disk : Disk FileName}
    (fresh : Fresh disk) (fuel calls : Nat) :
    ∃ session, MapSession.start level env fuel calls options disk = some session ∧
      session.Maps level env options [] Layout.empty (fun _ => false) fun _ => False := by
  obtain ⟨store, opens⟩ : ∃ store, Completes (LogSegmentStore.init env fuel {} options) disk.boot
    (true, store) _ := fresh.init sized
  have empty : level.seekToLast level.created = none :=
    (level.seekToLast_none _).mpr level.get_created
  have starts : Completes (DataBaseLogStorage.init level env fuel calls level.created options)
      disk.boot (true, ⟨level.created, store⟩) (Laid env options (fun _ => False) Layout.empty
        (restOf options Layout.empty) store) := init_completes opens fun middle laid => by
    rw [align_empty calls empty]
    exact Completes.pure _ laid
  obtain ⟨files, run, laid⟩ := starts.run
  refine ⟨⟨⟨level.created, store⟩, files, []⟩, by rw [MapSession.start, run], laid,
    level.get_created, rfl, trivial, ?_, ?_, List.nodup_nil⟩
  · exact fun number absent => absent.elim
  · exact fun id waits => absurd waits List.not_mem_nil

/-- The log storage is a map: whatever is put, deleted, cleaned and opened again, it answers as a
map does, when the key that is deleted is always the one whose value was put first and the numbers
of its segments do not overflow. -/
theorem storage_is_map (level : LevelDb δ) (usable : options.Usable) {disk : Disk FileName}
    (fresh : Fresh disk) (enough : options.segmentMaxSize < fuel) {events : List MapEvent}
    (many : 2 * events.length + 1 < calls)
    (allowed : Runs.Along (fun contents event => (LogMap.step contents event).2)
      (LogMap.Allows options) [] events) :
    ∃ session, MapSession.start level env fuel calls options disk = some session ∧
      (session.NumberedAlong level env fuel calls options events →
        Runs.answers (MapSession.step level env fuel calls options) session events =
          some (Runs.replies LogMap.step [] events)) := by
  obtain ⟨session, started, maps⟩ : ∃ session, MapSession.start level env fuel calls options disk =
    some session ∧ _ := fresh.maps level usable.sized fuel calls
  refine ⟨session, started, fun numbered => ?_⟩
  have empty : Layout.empty.placed.length + Layout.empty.closed.length = 0 := rfl
  have tracks : session.Tracks level env options calls events.length [] :=
    ⟨_, _, _, maps, by decide, by omega⟩
  refine Runs.answers_eq_replies (fun events session contents =>
    session.Tracks level env options calls events.length contents ∧
      Runs.Along (fun contents event => (LogMap.step contents event).2) (LogMap.Allows options)
        contents events ∧
      session.NumberedAlong level env fuel calls options events) ?_ ⟨tracks, allowed, numbered⟩
  rintro event events session contents ⟨tracks, ⟨allowed, rest⟩, ⟨numbered, rest'⟩⟩
  obtain ⟨next, stepped, tracks'⟩ := tracks.step usable enough allowed (numbered session rfl)
  refine ⟨next, stepped, tracks', rest, ?_⟩
  dsimp only at rest'
  rw [Option.bind_some, stepped] at rest'
  exact rest'

/-- Segments of two bytes of data, which hold one record each. -/
def pairEach : LogStorageOptions := { oneEach with segmentMaxSize := 10 }

/-- One of two keys is put again, the other one deleted and its segment cleaned, and the storage
opened again. -/
def pairEvents : List MapEvent :=
  [.put [1] [7], .put [2] [8], .put [1] [9], .delete [2], .clean 1, .reopen .restarted, .get [1],
    .get [2]]

/-- The one key has its last value, the other one none. -/
theorem storage_is_map_pair :
    ∃ session, MapSession.start LevelDb.table zlib 20 30 pairEach Disk.empty = some session ∧
      Runs.answers (MapSession.step LevelDb.table zlib 20 30 pairEach) session pairEvents =
        some [.returned true, .returned true, .returned true, .returned true, .called,
          .returned true, .found (some [9]), .found none] := by
  have numbered : ∀ session ∈ MapSession.start LevelDb.table zlib 20 30 pairEach Disk.empty,
      session.NumberedAlong LevelDb.table zlib 20 30 pairEach pairEvents := by
    decide +kernel
  obtain ⟨session, started, answers⟩ :
      ∃ session, MapSession.start LevelDb.table zlib 20 30 pairEach Disk.empty = some session ∧
        (_ → Runs.answers (MapSession.step LevelDb.table zlib 20 30 pairEach) session pairEvents =
          _) :=
    storage_is_map LevelDb.table ⟨by decide, by decide, by decide⟩ fresh_empty (by decide)
      (by decide) (by decide)
  exact ⟨session, started, answers (numbered session started)⟩

end Paxosme

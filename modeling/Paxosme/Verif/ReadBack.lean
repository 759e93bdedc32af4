import Paxosme.Verif.SegmentOperations

/-!
# Reading back what was appended

A store is appended to and opened again, all calls of the system going through. What the store
holds at any time is the layout of the records in the order in which they were appended.
-/

namespace Paxosme

open Posix Bytes Framing

/-- How the store object is replaced by a new one. -/
inductive Reopening where
  /-- The old object lives on. -/
  | kept
  /-- The old object has been destroyed. With cleaning on that does not come to an end, and no new
  object follows. -/
  | destroyed
  /-- A new process has been started. -/
  | restarted
  deriving DecidableEq, Repr

/-- What is done with a store. -/
inductive StoreEvent where
  | append (entry : Entry)
  | reopen (how : Reopening)
  deriving DecidableEq, Repr

/-- A store, the files under it, and the records appended so far with the index that `Append`
returned for each. -/
structure Session where
  store : LogSegmentStore
  files : Files FileName
  issued : List (Entry × SegmentIndex)

namespace Session

variable (env : Environment) (fuel : Nat) (options : LogStorageOptions)

/-- `Append`. -/
def append (session : Session) (entry : Entry) : Option (Option SegmentIndex × Session) :=
  match (session.store.append env entry.key entry.value).run session.files with
  | (some (result, store), files) =>
    some (result, ⟨store, files, session.issued ++ (result.map fun index => (entry, index)).toList⟩)
  | (none, _) => none

/-- A new object is initialised; no result when `Init` fails. -/
def open_ (files : Files FileName) (issued : List (Entry × SegmentIndex)) : Option Session :=
  match (LogSegmentStore.init env fuel {} options).run files with
  | (some (true, store), files) => some ⟨store, files, issued⟩
  | _ => none

/-- The files that the next object is initialised on. -/
def closed (session : Session) : Reopening → Files FileName
  | .kept => session.files
  | .destroyed => (session.store.destroy.run session.files).2
  | .restarted => session.files.toDisk.boot

/-- One event. -/
def step (session : Session) : StoreEvent → Option Session
  | .append entry => (session.append env entry).map Prod.snd
  | .reopen how => open_ env fuel options (session.closed how) session.issued

/-- A store on a disk after some events. -/
def after (disk : Disk FileName) (events : List StoreEvent) : Option Session :=
  (open_ env fuel options disk.boot []).bind fun session =>
    events.foldlM (step env fuel options) session

end Session

/-- What a store holds after one more record, when it starts on an empty disk. -/
def Layout.append (options : LogStorageOptions) (layout : Layout) (entry : Entry) : Layout :=
  if options.segmentMaxSize < entry.size then layout
  else layout.place (options.segmentMaxSize - (segmentBytes layout.current).length) entry

/-- What a store holds after one more event. -/
def Layout.step (options : LogStorageOptions) (layout : Layout) : StoreEvent → Layout
  | .append entry => layout.append options entry
  | .reopen _ => layout

/-- What a store holds after some events. -/
def layoutAfter (options : LogStorageOptions) (events : List StoreEvent) : Layout :=
  events.foldl (Layout.step options) Layout.empty

/-- A disk without a store. -/
structure Fresh (disk : Disk FileName) : Prop where
  path : disk.path ≠ .other
  names : ∀ name, disk.names name = none

/-- The keys of the records that are appended have the length of the options. -/
def Keyed (options : LogStorageOptions) (events : List StoreEvent) : Prop :=
  ∀ entry, .append entry ∈ events → entry.key.length = options.indexKeyLength

/-- A record is read by an index, and reading it changes nothing. -/
def Reads (env : Environment) (session : Session) (entry : Entry) (index : SegmentIndex) : Prop :=
  Completes (session.store.read env index) session.files (some (entry.key, entry.value))
    session.files.Unchanged

/-- The zeros behind the records of a segment. -/
def restOf (options : LogStorageOptions) (layout : Layout) : List UInt8 :=
  List.replicate (options.segmentMaxSize - (segmentBytes layout.current).length) 0

/-- The record that `Append` writes: of the key as many bytes as keys have. -/
def recordOf (env : Environment) (options : LogStorageOptions) (key value : List UInt8) : Entry :=
  ⟨env.copied (key ++ [0]) options.indexKeyLength, value⟩

/-- A session holds the records of a layout and has the index of each of them. -/
structure Session.Holds (env : Environment) (options : LogStorageOptions) (session : Session)
    (layout : Layout) (tail : List UInt8) : Prop where
  laid : Laid env options (fun _ => False) layout tail session.store session.files
  issued : session.issued = layout.placed.map fun placed => (placed.entry, placed.index env)

variable {env : Environment} {fuel : Nat} {options : LogStorageOptions} {layout : Layout}
  {tail : List UInt8} {disk : Disk FileName} {session : Session} {entry : Entry}
  {events : List StoreEvent}

/-- A disk without a store holds no record. -/
theorem Fresh.stored (fresh : Fresh disk) :
    Stored env options (fun _ => False) Layout.empty [] disk where
  sound := ⟨fun name inode found => by simp [fresh.names] at found,
    fun first second inode found => by simp [fresh.names] at found⟩
  path := fresh.path
  archive := by
    have unseen : ∀ name, disk.view name = none := fun name =>
      Disk.view_eq_none.mpr (fresh.names name)
    constructor
    · decide
    · rw [unseen]
      simp [decodeMetadata, Layout.empty, segmentId]
    · intro n entries found
      simp [Layout.empty] at found
    · intro n _ absent
      exact absent.elim
    · exact fun id _ => unseen _
  fits := ⟨by simp [Layout.empty], by simp [Layout.empty], by simp [Layout.empty]⟩
  inUse := id
  current := by
    rw [Disk.view_eq_none.mpr (fresh.names _)]
    rfl

/-- An empty segment has been filled with zeros. -/
theorem openedTail_restOf (options : LogStorageOptions) (layout : Layout) :
    openedTail options layout (restOf options layout) = restOf options layout := by
  rw [openedTail]
  split
  · rename_i empty
    simp [restOf, empty.1]
  · rfl

/-- Behind a record that has been appended there are zeros again. -/
theorem tailOf_restOf (small : entry.size ≤ options.segmentMaxSize) :
    tailOf options (restOf options layout) entry =
      restOf options (layout.append options entry) := by
  rw [Layout.append, if_neg (by omega), tailOf, Layout.place, restOf, List.length_replicate]
  split
  · rw [restOf, Layout.put, segmentBytes_concat, List.length_append, length_frame_body,
      List.drop_replicate, Nat.sub_sub]
  · rw [restOf, Layout.put, segmentBytes_concat, List.length_append, length_frame_body,
      List.drop_replicate]
    simp [Layout.roll]

namespace Layout

theorem place_eq_append (small : entry.size ≤ options.segmentMaxSize) :
    layout.place (restOf options layout).length entry = layout.append options entry := by
  rw [append, if_neg (by omega), restOf, List.length_replicate]

theorem more_of_append (small : entry.size ≤ options.segmentMaxSize)
    (few : (layout.append options entry).closed.length < 2 ^ 32)
    (full : (restOf options layout).length < entry.size) : layout.closed.length + 1 < 2 ^ 32 := by
  rw [← place_eq_append small, place, if_neg (by omega)] at few
  simpa [roll, put] using few

/-- No segment is closed empty. -/
theorem filled_append (filled : ∀ entries ∈ layout.closed, entries ≠ [])
    (small : entry.size ≤ options.segmentMaxSize) :
    ∀ entries ∈ (layout.append options entry).closed, entries ≠ [] := by
  rw [append, if_neg (by omega), place]
  split
  · exact filled
  · rename_i full
    intro entries member
    rcases List.mem_append.mp member with old | new
    · exact filled entries old
    · obtain rfl := List.mem_singleton.mp new
      intro none
      rw [none, segmentBytes_nil, List.length_nil] at full
      omega

/-- No segment is given up. -/
theorem closed_le_step (options : LogStorageOptions) (layout : Layout) (event : StoreEvent) :
    layout.closed.length ≤ (layout.step options event).closed.length := by
  cases event with
  | reopen => exact le_rfl
  | append entry =>
    rw [step, append]
    split
    · exact le_rfl
    · rw [place]
      split
      · exact le_rfl
      · simp [put, roll]

theorem closed_le_foldl (options : LogStorageOptions) (layout : Layout)
    (events : List StoreEvent) :
    layout.closed.length ≤ (events.foldl (step options) layout).closed.length := by
  induction events generalizing layout with
  | nil => exact le_rfl
  | cons event events ih => exact (closed_le_step options layout event).trans (ih _)

end Layout

/-- The next object is initialised on the same disk. -/
theorem Session.closed_disk (sound : session.files.Sound) (how : Reopening) :
    (session.closed how).Sound ∧ (session.closed how).toDisk = session.files.toDisk := by
  cases how with
  | kept => exact ⟨sound, rfl⟩
  | restarted => exact ⟨sound.toSound.boot, rfl⟩
  | destroyed =>
    rw [Session.closed, LogSegmentStore.destroy]
    split
    · rw [(Performs.close _).run]
      exact ⟨sound.closed _, rfl⟩
    · rw [(Performs.pure _).run]
      exact ⟨sound, rfl⟩

namespace Session.Holds

/-- Every record that has been appended is read by its index. -/
theorem reads (usable : options.Usable) (holds : session.Holds env options layout tail)
    {index : SegmentIndex} (issued : (entry, index) ∈ session.issued) :
    Reads env session entry index := by
  rw [holds.issued] at issued
  obtain ⟨placed, member, same⟩ := List.mem_map.mp issued
  obtain ⟨rfl, rfl⟩ := Prod.mk.inj same
  exact holds.laid.readable.read_placed usable.sized member id

/-- `Append` of a record that no segment holds. -/
theorem append_big (holds : session.Holds env options layout tail)
    (keyed : entry.key.length = options.indexKeyLength)
    (big : options.segmentMaxSize < entry.size) :
    session.append env entry = some (none, session) := by
  rw [Session.append, holds.laid.append_big keyed big]
  simp [Sys.run]

/-- `Append` of any other record. -/
theorem append_small (sized : options.Sized) (holds : session.Holds env options layout tail)
    (keyed : entry.key.length = options.indexKeyLength)
    (small : entry.size ≤ options.segmentMaxSize)
    (more : tail.length < entry.size → layout.closed.length + 1 < 2 ^ 32) :
    ∃ session', session.append env entry =
        some (some ((layout.spot tail.length entry).index env), session') ∧
      session'.Holds env options (layout.place tail.length entry) (tailOf options tail entry) := by
  obtain ⟨store, completes⟩ := holds.laid.append_stores sized (env.copied_key keyed) small more id
  obtain ⟨files, run, laid⟩ := completes.run
  refine ⟨⟨store, files, _⟩, by rw [Session.append, run], laid, ?_⟩
  rw [Layout.placed_place, List.map_append, holds.issued]
  simp

/-- A new object on a disk that holds the records. -/
theorem opened (usable : options.Usable) (enough : options.segmentMaxSize < fuel)
    {files : Files FileName} (sound : files.Sound)
    (stored : Stored env options (fun _ => False) layout tail files.toDisk) (ends : Ends 8 tail)
    {issued : List (Entry × SegmentIndex)}
    (same : issued = layout.placed.map fun placed => (placed.entry, placed.index env)) :
    ∃ session, Session.open_ env fuel options files issued = some session ∧
      session.issued = issued ∧
      session.Holds env options layout (openedTail options layout tail) := by
  obtain ⟨store, completes⟩ := stored.init usable sound ends enough
  obtain ⟨files', run, laid⟩ := completes.run
  exact ⟨⟨store, files', issued⟩, by rw [Session.open_, run], rfl, laid, same⟩

/-- `Init` of the next object. -/
theorem reopen (usable : options.Usable) (holds : session.Holds env options layout tail)
    (enough : options.segmentMaxSize < fuel) (ends : Ends 8 tail) (how : Reopening) :
    ∃ session', session.step env fuel options (.reopen how) = some session' ∧
      session'.Holds env options layout (openedTail options layout tail) := by
  obtain ⟨sound, disk⟩ := Session.closed_disk holds.laid.sound how
  have stored := holds.laid.stored id
  rw [← disk] at stored
  obtain ⟨session', opened, -, holds'⟩ := Holds.opened usable enough sound stored ends holds.issued
  exact ⟨session', opened, holds'⟩

/-- One event, when a segment is behind its records as it was created. -/
theorem step (usable : options.Usable)
    (holds : session.Holds env options layout (restOf options layout))
    (enough : options.segmentMaxSize < fuel) (event : StoreEvent)
    (keyed : ∀ entry, event = .append entry → entry.key.length = options.indexKeyLength)
    (few : (layout.step options event).closed.length < 2 ^ 32) :
    ∃ session', session.step env fuel options event = some session' ∧
      session'.Holds env options (layout.step options event)
        (restOf options (layout.step options event)) := by
  cases event with
  | reopen how =>
    obtain ⟨session', reopened, holds'⟩ := holds.reopen usable enough (ends_zeros (by decide) _) how
    rw [openedTail_restOf] at holds'
    exact ⟨session', reopened, holds'⟩
  | append entry =>
    rcases Nat.lt_or_ge options.segmentMaxSize entry.size with big | small
    · refine ⟨session, by rw [Session.step, holds.append_big (keyed entry rfl) big]; rfl, ?_⟩
      rw [Layout.step, Layout.append, if_pos big]
      exact holds
    · obtain ⟨session', appended, holds'⟩ :=
        holds.append_small usable.sized (keyed entry rfl) small (Layout.more_of_append small few)
      rw [tailOf_restOf small, Layout.place_eq_append small] at holds'
      exact ⟨session', by rw [Session.step, appended]; rfl, holds'⟩

/-- Some events. -/
theorem steps (usable : options.Usable)
    (holds : session.Holds env options layout (restOf options layout))
    (enough : options.segmentMaxSize < fuel) (keyed : Keyed options events)
    (few : (events.foldl (Layout.step options) layout).closed.length < 2 ^ 32) :
    ∃ session', events.foldlM (Session.step env fuel options) session = some session' ∧
      session'.Holds env options (events.foldl (Layout.step options) layout)
        (restOf options (events.foldl (Layout.step options) layout)) := by
  induction events generalizing session layout with
  | nil => exact ⟨session, rfl, holds⟩
  | cons event events ih =>
    have bound := Layout.closed_le_foldl options (layout.step options event) events
    have few' : (layout.step options event).closed.length < 2 ^ 32 :=
      Nat.lt_of_le_of_lt bound few
    obtain ⟨middle, first, holds'⟩ := holds.step usable enough event
      (fun entry same => keyed entry (same ▸ List.mem_cons_self)) few'
    obtain ⟨last, rest, holds''⟩ :=
      ih holds' (fun entry member => keyed entry (List.mem_cons_of_mem _ member)) few
    refine ⟨last, ?_, holds''⟩
    rw [List.foldlM_cons, first]
    exact rest

end Session.Holds

/-- `Init` on a disk that held no store. -/
theorem Fresh.init (sized : options.Sized) (fresh : Fresh disk) :
    ∃ store, Completes (LogSegmentStore.init env fuel {} options) disk.boot (true, store)
      (Laid env options (fun _ => False) Layout.empty (restOf options Layout.empty) store) := by
  have stored : Stored env options (fun _ => False) Layout.empty [] disk.boot.toDisk :=
    fresh.stored
  have rest : openedTail options Layout.empty [] = restOf options Layout.empty := by
    simp [openedTail, restOf, Layout.empty]
  rw [← rest]
  exact stored.init_unfilled sized stored.sound.boot rfl

/-- A store on a disk that held none. -/
theorem Fresh.opened (sized : options.Sized) (fresh : Fresh disk) :
    ∃ session, Session.open_ env fuel options disk.boot [] = some session ∧
      session.Holds env options Layout.empty (restOf options Layout.empty) := by
  obtain ⟨store, opens⟩ : ∃ store, Completes (LogSegmentStore.init env fuel {} options) disk.boot
    (true, store) _ := fresh.init sized
  obtain ⟨files, run, laid⟩ := opens.run
  exact ⟨⟨store, files, []⟩, by rw [Session.open_, run], laid, rfl⟩

/-- A store on a disk that held none holds the records that were appended. -/
theorem Fresh.holds (usable : options.Usable) (fresh : Fresh disk)
    (enough : options.segmentMaxSize < fuel) (keyed : Keyed options events)
    (few : (layoutAfter options events).closed.length < 2 ^ 32) :
    ∃ session, Session.after env fuel options disk events = some session ∧
      session.Holds env options (layoutAfter options events)
        (restOf options (layoutAfter options events)) := by
  obtain ⟨first, opened, holds⟩ := fresh.opened usable.sized
  obtain ⟨session, ran, holds'⟩ := holds.steps usable enough keyed few
  refine ⟨session, ?_, holds'⟩
  rw [Session.after, opened]
  exact ran

/-- What a store promises after some events. -/
structure Session.ReadsBack (env : Environment) (fuel : Nat) (options : LogStorageOptions)
    (events : List StoreEvent) (session : Session) : Prop where
  /-- What was appended is read by its index. -/
  reads : ∀ entry index, (entry, index) ∈ session.issued → Reads env session entry index
  /-- A record that is too long is not appended, and nothing changes. -/
  refuses : ∀ entry : Entry, entry.key.length = options.indexKeyLength →
    options.segmentMaxSize < 8 + options.indexKeyLength + entry.value.length →
    session.append env entry = some (none, session)
  /-- Any other record is appended. -/
  appends : ∀ entry : Entry, entry.key.length = options.indexKeyLength →
    8 + options.indexKeyLength + entry.value.length ≤ options.segmentMaxSize →
    (layoutAfter options (events ++ [.append entry])).closed.length < 2 ^ 32 →
    ∃ index session', session.append env entry = some (some index, session')
  /-- A new object continues where the old one was. -/
  reopens : ∀ how, ∃ session', session.step env fuel options (.reopen how) = some session' ∧
    session'.store.curSegmentId = session.store.curSegmentId ∧
    session'.store.curSegmentOffset = session.store.curSegmentOffset

/-- As long as there are numbers for the segments, everything that was appended reads back. -/
theorem appended_records_read_back (usable : options.Usable) (fresh : Fresh disk)
    (enough : options.segmentMaxSize < fuel) (keyed : Keyed options events)
    (few : (layoutAfter options events).closed.length < 2 ^ 32) :
    ∃ session, Session.after env fuel options disk events = some session ∧
      session.ReadsBack env fuel options events := by
  have held : ∃ session, Session.after env fuel options disk events = some session ∧
      session.Holds env options (layoutAfter options events) _ :=
    fresh.holds usable enough keyed few
  obtain ⟨session, ran, holds⟩ := held
  have size : ∀ {entry : Entry}, entry.key.length = options.indexKeyLength →
      entry.size = 8 + options.indexKeyLength + entry.value.length := by
    intro entry keyed
    rw [Entry.size, Entry.body, List.length_append, keyed]
    omega
  refine ⟨session, ran, ?_⟩
  constructor
  · exact fun entry index issued => holds.reads usable issued
  · exact fun entry keyed big => holds.append_big keyed (by rw [size keyed]; exact big)
  · intro entry keyed small few
    rw [layoutAfter, List.foldl_append] at few
    rw [← size keyed] at small
    obtain ⟨session', appended, -⟩ :=
      holds.append_small usable.sized keyed small (Layout.more_of_append small few)
    exact ⟨_, session', appended⟩
  · intro how
    obtain ⟨session', reopened, holds'⟩ := holds.reopen usable enough (ends_zeros (by decide) _) how
    refine ⟨session', reopened, ?_, ?_⟩
    · rw [holds'.laid.id, holds.laid.id]
    · rw [holds'.laid.offset, holds.laid.offset]

/-- zlib's checksum, zeros behind every buffer, and two gibibytes of memory for it. -/
def zlib : Environment := ⟨crc32, fun _ _ => 0, 2 ^ 31, by decide⟩

/-- Segments of one byte of data, which hold one record each. -/
def oneEach : LogStorageOptions := ⟨"db", 9, 1, false⟩

theorem oneEach_usable : oneEach.Usable := ⟨by decide, by decide, by decide⟩

theorem fresh_empty : Fresh Disk.empty := ⟨by decide, fun _ => rfl⟩

/-- A record is appended, the store opened again, and another record appended. -/
theorem appended_records_read_back_reopened :
    ∃ session, Session.after zlib 10 oneEach Disk.empty
        [.append ⟨[1], []⟩, .reopen .destroyed, .append ⟨[2], []⟩] = some session ∧
      session.ReadsBack zlib 10 oneEach
        [.append ⟨[1], []⟩, .reopen .destroyed, .append ⟨[2], []⟩] :=
  appended_records_read_back oneEach_usable fresh_empty (by decide) (by simp [Keyed, oneEach])
    (by decide)

/-- Records that fill a segment each fill one after the other. -/
theorem layoutAfter_replicate (full : entry.size = options.segmentMaxSize) (count : Nat) :
    layoutAfter options (List.replicate (count + 1) (.append entry)) =
      ⟨List.replicate count [entry], [entry]⟩ := by
  induction count with
  | zero =>
    simp [layoutAfter, Layout.step, Layout.append, Layout.place, Layout.put, Layout.empty, full]
  | succ count ih =>
    have positive : 0 < entry.size := by
      rw [Entry.size]
      omega
    have used : (segmentBytes [entry]).length = options.segmentMaxSize := by
      rw [length_segmentBytes_cons, full]
      rfl
    rw [List.replicate_succ', layoutAfter, List.foldl_append, ← layoutAfter, ih]
    rw [List.foldl_cons, List.foldl_nil, Layout.step, Layout.append, if_neg (by omega),
      Layout.place, used, if_neg (by omega), Layout.roll, Layout.put, List.replicate_succ']
    rfl

/-- A store whose segments have used up all the numbers. -/
theorem all_numbers_used : ∃ session count, 2 ^ 32 = count + 1 ∧
    Session.after zlib 10 oneEach Disk.empty (List.replicate (2 ^ 32) (.append ⟨[0], []⟩)) =
      some session ∧
    session.Holds zlib oneEach ⟨List.replicate count [⟨[0], []⟩], [⟨[0], []⟩]⟩
      (restOf oneEach ⟨List.replicate count [⟨[0], []⟩], [⟨[0], []⟩]⟩) := by
  obtain ⟨count, total⟩ : ∃ count, 2 ^ 32 = count + 1 := ⟨2 ^ 32 - 1, by omega⟩
  have filled : layoutAfter oneEach (List.replicate (2 ^ 32) (.append ⟨[0], []⟩)) =
      ⟨List.replicate count [⟨[0], []⟩], [⟨[0], []⟩]⟩ := by
    rw [total]
    exact layoutAfter_replicate (by decide) count
  have few : (layoutAfter oneEach (List.replicate (2 ^ 32) (.append ⟨[0], []⟩))).closed.length <
      2 ^ 32 := by
    rw [filled, List.length_replicate]
    omega
  have keyed : Keyed oneEach (List.replicate (2 ^ 32) (.append ⟨[0], []⟩)) := by
    intro entry member
    rw [StoreEvent.append.inj (List.eq_of_mem_replicate member)]
    rfl
  have held : ∃ session, Session.after zlib 10 oneEach Disk.empty
      (List.replicate (2 ^ 32) (.append ⟨[0], []⟩)) = some session ∧
        session.Holds zlib oneEach (layoutAfter oneEach (List.replicate (2 ^ 32) _)) _ :=
    fresh_empty.holds oneEach_usable (by decide) keyed few
  obtain ⟨session, ran, holds⟩ := held
  rw [filled] at holds
  exact ⟨session, count, total, ran, holds⟩

/-- Once all the numbers of segments are used up, `Append` fails for a record that a segment
holds. -/
theorem append_fails_behind_last_segment :
    ∃ session, Session.after zlib 10 oneEach Disk.empty
        (List.replicate (2 ^ 32) (.append ⟨[0], []⟩)) = some session ∧
      (∃ session', session.append zlib ⟨[0], []⟩ = some (none, session')) ∧
      8 + oneEach.indexKeyLength + ([] : List UInt8).length ≤ oneEach.segmentMaxSize := by
  obtain ⟨session, count, total, ran, holds⟩ := all_numbers_used
  refine ⟨session, ran, ?_, by decide⟩
  have full : (restOf oneEach ⟨List.replicate count [⟨[0], []⟩], [⟨[0], []⟩]⟩).length <
      (⟨[0], []⟩ : Entry).size := by
    rw [restOf, List.length_replicate]
    simp [oneEach, segmentBytes, Entry.size, Entry.body]
  have last : (List.replicate count [(⟨[0], []⟩ : Entry)]).length + 1 = 2 ^ 32 := by
    rw [List.length_replicate, total]
  have copies : zlib.copied ([0] ++ [0]) oneEach.indexKeyLength = (⟨[0], []⟩ : Entry).key := by
    decide
  have wraps := holds.laid.append_wraps oneEach_usable.sized copies full (by decide) last id
  obtain ⟨after, run, -⟩ := wraps.run
  exact ⟨_, by rw [Session.append, run]⟩

end Paxosme

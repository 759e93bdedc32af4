import Paxosme.Core.SegmentCleaning
import Paxosme.Verif.ReadBack
import Paxosme.Verif.Timers

/-!
# Emptied segments

Records are appended, passed to `RemoveAsync` in the order in which they were appended, and the
cleaning thread calls the events that are due. A segment is cleaned once all of its records are
removed, unless there were bytes behind the last of them when it was removed or the event of
another segment took the place of its own: `scheduler_` has one type of event, and so at most one
event that is not skipped.
-/

namespace Paxosme

open Posix Bytes Framing Heap

/-- What happens to a store whose segments are cleaned. -/
inductive CleaningEvent where
  | append (key value : List UInt8)
  /-- `RemoveAsync` of the next record in the order of `Append`, when the clock reads so. -/
  | removeAsync (now : Int)
  /-- One turn of the cleaning thread, if it has been started. -/
  | dispatch (now : Int)
  deriving DecidableEq, Repr

/-- A store with its scheduler, the files under it, the indexes that `Append` has returned and how
many of them have been passed to `RemoveAsync`. -/
structure CleaningSession where
  store : LogSegmentStore
  scheduler : CleanScheduler
  files : Files FileName
  issued : List SegmentIndex
  removed : Nat

/-- The segment of an index. -/
def segmentOf (index : SegmentIndex) : SegmentId := (LogSegmentStore.parseSegmentIndex index).1

/-- `Append` of a value starts a segment. -/
def LogSegmentStore.Rolls (store : LogSegmentStore) (value : List UInt8) : Prop :=
  8 + (store.indexKeyLength + value.length) ≤ store.segmentMaxSize ∧
    store.curSegmentFileSize <
      sizeT (store.curSegmentOffset + (8 + (store.indexKeyLength + value.length) : Nat))

instance (store : LogSegmentStore) (value : List UInt8) : Decidable (store.Rolls value) :=
  inferInstanceAs (Decidable (_ ∧ _))

namespace CleaningSession

variable (heap : EventHeap CleanEventType SegmentId) (env : Environment)

/-- One event, all calls of the system going through. -/
def step (session : CleaningSession) : CleaningEvent → Option CleaningSession
  | .append key value =>
    match (session.store.append env key value).run session.files with
    | (some (index, store), files) =>
      some { session with store, files, issued := session.issued ++ index.toList }
    | (none, _) => none
  | .removeAsync now =>
    match session.issued[session.removed]? with
    | none => some session
    | some index =>
      match (LogSegmentStore.removeAsyncAt heap session.scheduler now index).run session.files with
      | (some (_, scheduler), files) =>
        some { session with scheduler, files, removed := session.removed + 1 }
      | (none, _) => none
  | .dispatch now =>
    if !session.store.cleaning then some session
    else
      match (LogSegmentStore.autoDispatch heap session.scheduler now).run session.files with
      | (some scheduler, files) => some { session with scheduler, files }
      | (none, _) => none

/-- A store on a disk, with nothing appended yet. -/
def start (fuel : Nat) (options : LogStorageOptions) (disk : Disk FileName) :
    Option CleaningSession :=
  match (LogSegmentStore.init env fuel {} options).run disk.boot with
  | (some (true, store), files) => some ⟨store, {}, files, [], 0⟩
  | _ => none

/-- All records of a segment have been passed to `RemoveAsync`. -/
def Emptied (session : CleaningSession) (segmentId : SegmentId) : Prop :=
  ∀ index ∈ session.issued.drop session.removed, segmentOf index ≠ segmentId

/-- The scheduler has an event that cleans a segment and that `Dispatch` does not skip. -/
def Pending (session : CleaningSession) (segmentId : SegmentId) : Prop :=
  ∃ event ∈ session.scheduler.eventQueue.events, event.callback = segmentId ∧
    session.scheduler.eventTypeIdMap event.eventType = some event.eventId

/-- Every emptied segment other than the current one has been deleted or will be. -/
def EmptiedCleaned (session : CleaningSession) : Prop :=
  ∀ id, id ≠ session.store.curSegmentId → session.Emptied id →
    session.files.names (.segment id) = none ∨ session.Pending id

/-- No byte is behind the records of a segment. -/
def Cut (session : CleaningSession) (segmentId : SegmentId) : Prop :=
  segmentId = session.store.curSegmentId →
    (session.store.curSegmentFileSize : Int) ≤ session.store.curSegmentOffset

/-- A segment that is started has a number that no record has. -/
def Numbered (session : CleaningSession) : CleaningEvent → Prop
  | .append _ value => session.store.Rolls value →
    ∀ index ∈ session.issued, segmentOf index ≠ session.store.curSegmentId + 1
  | _ => True

/-- No segment is started while the current one is emptied and has bytes behind its records, and
no segment is emptied while the event of another one is pending. -/
def InTime (session : CleaningSession) : CleaningEvent → Prop
  | .append _ value => session.store.Rolls value → session.Emptied session.store.curSegmentId →
    session.Cut session.store.curSegmentId
  | .removeAsync _ => ∀ index ∈ session.issued[session.removed]?,
    { session with removed := session.removed + 1 }.Emptied (segmentOf index) →
    session.Cut (segmentOf index) →
    ∀ event ∈ session.scheduler.eventQueue.events,
      session.scheduler.eventTypeIdMap event.eventType ≠ some event.eventId
  | .dispatch _ => True

instance (session : CleaningSession) (segmentId : SegmentId) :
    Decidable (session.Emptied segmentId) :=
  inferInstanceAs (Decidable (∀ _ ∈ _, _))

instance (session : CleaningSession) (segmentId : SegmentId) :
    Decidable (session.Pending segmentId) :=
  inferInstanceAs (Decidable (∃ _ ∈ _, _))

instance (session : CleaningSession) (segmentId : SegmentId) : Decidable (session.Cut segmentId) :=
  inferInstanceAs (Decidable (_ → _))

instance (session : CleaningSession) : ∀ event, Decidable (session.Numbered event)
  | .append _ value => inferInstanceAs (Decidable (session.store.Rolls value → _))
  | .removeAsync _ => .isTrue trivial
  | .dispatch _ => .isTrue trivial

instance (session : CleaningSession) : ∀ event, Decidable (session.InTime event)
  | .append _ value => inferInstanceAs (Decidable (session.store.Rolls value → _))
  | .removeAsync _ => inferInstanceAs (Decidable (∀ _ ∈ _, _))
  | .dispatch _ => .isTrue trivial

end CleaningSession

/-- A store on a disk after some events. -/
def cleaningRun (heap : EventHeap CleanEventType SegmentId) (env : Environment) (fuel : Nat)
    (options : LogStorageOptions) (disk : Disk FileName) (events : List CleaningEvent) :
    Option CleaningSession :=
  Runs.run (fun state event => state.bind (CleaningSession.step heap env · event))
    (CleaningSession.start env fuel options disk) events

/-- Every event of a run meets a condition. -/
def CleaningAlong (heap : EventHeap CleanEventType SegmentId) (env : Environment) (fuel : Nat)
    (options : LogStorageOptions) (disk : Disk FileName)
    (condition : CleaningSession → CleaningEvent → Prop) (events : List CleaningEvent) : Prop :=
  Runs.Along (fun state event => state.bind (CleaningSession.step heap env · event))
    (fun state event => ∀ session ∈ state, condition session event)
    (CleaningSession.start env fuel options disk) events

instance (heap : EventHeap CleanEventType SegmentId) (env : Environment) (fuel : Nat)
    (options : LogStorageOptions) (disk : Disk FileName)
    (condition : CleaningSession → CleaningEvent → Prop)
    [∀ session event, Decidable (condition session event)] (events : List CleaningEvent) :
    Decidable (CleaningAlong heap env fuel options disk condition events) :=
  inferInstanceAs (Decidable (Runs.Along _ _ _ _))

variable {heap : EventHeap CleanEventType SegmentId} {env : Environment}
  {options : LogStorageOptions} {layout : Layout} {session : CleaningSession}
  {scheduler : CleanScheduler} {armed : Option SegmentId} {id : SegmentId} {number removed : Nat}
  {entry : Entry} {gone : Nat → Prop}

/-! ## The scheduler of a store -/

/-- The event that `Dispatch` does not skip, if there is one, cleans a segment. -/
def Schedules (scheduler : CleanScheduler) (armed : Option SegmentId) : Prop :=
  ∃ timers : Timers CleanEventType SegmentId, timers.scheduler = scheduler ∧ timers.Sound ∧
    (timers.armed .cleanSegment).map Event.callback = armed

namespace Schedules

theorem empty : Schedules {} none := ⟨{}, rfl, Timers.Sound.empty, rfl⟩

/-- At most one segment has an event that is not skipped. -/
theorem pending_iff (schedules : Schedules scheduler armed) :
    (∃ event ∈ scheduler.eventQueue.events, event.callback = id ∧
      scheduler.eventTypeIdMap event.eventType = some event.eventId) ↔ armed = some id := by
  obtain ⟨timers, rfl, sound, rfl⟩ := schedules
  rw [Option.map_eq_some_iff]
  constructor
  · rintro ⟨event, member, same, noted⟩
    have kind : event.eventType = .cleanSegment := by
      cases event.eventType
      rfl
    rw [kind] at noted
    exact ⟨event, (sound.armed _ event).mpr ⟨member, kind, noted⟩, same⟩
  · rintro ⟨event, found, same⟩
    obtain ⟨member, kind, noted⟩ := (sound.armed _ event).mp found
    refine ⟨event, member, same, ?_⟩
    rw [kind]
    exact noted

variable (heap) in
/-- An event takes the place of the one before. -/
theorem add (schedules : Schedules scheduler armed) (id : SegmentId) (when : Int) :
    Schedules (scheduler.addEvent heap id when .cleanSegment) (some id) := by
  obtain ⟨timers, rfl, sound, -⟩ := schedules
  have stepped : timers.step heap (.addEvent id when .cleanSegment) = some _ := rfl
  refine ⟨_, rfl, sound.addEvent stepped, ?_⟩
  dsimp only
  rw [Function.update_self, Option.map_some]

variable (heap) in
/-- `Dispatch` returns the event that is not skipped, or nothing. -/
theorem dispatch (schedules : Schedules scheduler armed) (now : Int) :
    (∃ after, scheduler.dispatch heap now = (none, after) ∧ Schedules after armed) ∨
      ∃ event after, scheduler.dispatch heap now = (some event, after) ∧
        armed = some event.callback ∧ Schedules after none := by
  obtain ⟨timers, rfl, sound, rfl⟩ := schedules
  cases returned : timers.scheduler.dispatch heap now with
  | mk found after =>
    cases found with
    | none => exact .inl ⟨after, rfl, _, rfl, sound.dispatch_nothing returned, rfl⟩
    | some event =>
      have finds := (sound.dispatch_finds returned).1
      have kind : event.eventType = .cleanSegment := by
        cases event.eventType
        rfl
      have found := finds.armed
      rw [kind] at found
      refine .inr ⟨event, after, rfl, by rw [found]; rfl, _, rfl, finds.sound, ?_⟩
      rw [Timers.fire, kind]
      dsimp only
      rw [Function.update_self, Option.map_none]

end Schedules

/-! ## Segments that are due -/

theorem le_number_of_mem_placedOf {number : Nat} {segments : List (List Entry)} {placed : Placed}
    (member : placed ∈ placedOf number segments) : number ≤ placed.number := by
  obtain ⟨early, later, split⟩ := List.append_of_mem member
  obtain ⟨i, before, after, at_, -⟩ := placedOf_split split
  omega

namespace Layout

/-- A record stands in a segment that has been started. -/
theorem number_le_of_mem_placed {placed : Placed} (member : placed ∈ layout.placed) :
    placed.number ≤ layout.closed.length := by
  obtain ⟨before, after, found, -⟩ := of_mem_placed member
  have inside := (List.getElem?_eq_some_iff.mp found).1
  rw [List.length_append, List.length_singleton] at inside
  omega

/-- All records of a segment are among the first ones. -/
def Emptied (layout : Layout) (removed number : Nat) : Prop :=
  ∀ placed ∈ layout.placed.drop removed, placed.number ≠ number

/-- A segment is to be cleaned: its records are among the first ones, and its file ends behind
them. -/
def Due (options : LogStorageOptions) (layout : Layout) (removed number : Nat) : Prop :=
  layout.Emptied removed number ∧ (number < layout.closed.length ∨
    number = layout.closed.length ∧ restOf options layout = [])

/-- The segment in use is not emptied as long as there are records to remove. -/
theorem not_emptied_current (filled : layout.current ≠ []) (more : removed < layout.placed.length) :
    ¬ layout.Emptied removed layout.closed.length := by
  obtain ⟨entries, last, split⟩ := (List.eq_nil_or_concat layout.current).resolve_left filled
  have placed : layout.placed = (Layout.mk layout.closed entries).placed ++
      [⟨layout.closed.length, (segmentBytes entries).length, last⟩] := by
    rw [← placed_put, put, ← List.concat_eq_append, ← split]
  rw [placed, List.length_append, List.length_singleton] at more
  intro emptied
  refine emptied ⟨layout.closed.length, (segmentBytes entries).length, last⟩ ?_ rfl
  rw [placed, List.drop_append_of_le_length (by omega)]
  simp

/-- `Append` makes no segment due, unless it starts a segment when the one before is emptied. -/
theorem due_append (small : entry.size ≤ options.segmentMaxSize)
    (few : removed ≤ layout.placed.length)
    (cut : (restOf options layout).length < entry.size →
      layout.Emptied removed layout.closed.length → restOf options layout = []) :
    (layout.append options entry).Due options removed number ↔ layout.Due options removed number := by
  have positive : 0 < entry.size := by
    rw [Entry.size]
    omega
  have placed := layout.placed_place (restOf options layout).length entry
  have emptied : (layout.append options entry).Emptied removed number ↔
      layout.Emptied removed number ∧
        (layout.spot (restOf options layout).length entry).number ≠ number := by
    rw [Emptied, ← place_eq_append small, placed, List.drop_append_of_le_length few]
    simp only [List.mem_append, List.mem_singleton, or_imp, forall_and, forall_eq]
    rfl
  rw [Due, Due, emptied, append, if_neg (by omega), place, spot]
  rw [restOf, List.length_replicate] at cut ⊢
  split
  · -- the segment in use gets a record that is not removed, and had room for it
    have behind : List.replicate (options.segmentMaxSize - (segmentBytes layout.current).length)
        (0 : UInt8) ≠ [] := by
      rw [Ne, List.replicate_eq_nil_iff]
      omega
    constructor
    · rintro ⟨⟨all, apart⟩, below | ⟨same, -⟩⟩
      · exact ⟨all, .inl below⟩
      · exact absurd same.symm apart
    · rintro ⟨all, below | ⟨-, none⟩⟩
      · exact ⟨⟨all, Nat.ne_of_gt below⟩, .inl below⟩
      · exact absurd none behind
  · rename_i full
    have closed : (layout.roll.put entry).closed.length = layout.closed.length + 1 := by
      simp [roll, put]
    rw [closed]
    dsimp only
    constructor
    · rintro ⟨⟨all, apart⟩, below | ⟨same, -⟩⟩
      · rcases Nat.lt_or_ge number layout.closed.length with old | new
        · exact ⟨all, .inl old⟩
        · obtain rfl : number = layout.closed.length := by omega
          exact ⟨all, .inr ⟨rfl, cut (by omega) all⟩⟩
      · exact absurd same.symm apart
    · rintro ⟨all, below | ⟨same, -⟩⟩
      · exact ⟨⟨all, by omega⟩, .inl (by omega)⟩
      · exact ⟨⟨all, by omega⟩, .inl (by omega)⟩

/-- The next record is removed, and its segment is emptied if it was the last one there. -/
theorem emptied_remove {placed : Placed} (next : layout.placed[removed]? = some placed) :
    ∃ before after, (layout.closed ++ [layout.current])[placed.number]? =
        some (before ++ placed.entry :: after) ∧
      placed.offset = (segmentBytes before).length ∧
      (∀ number, layout.Emptied (removed + 1) number ↔
        if number = placed.number then after = [] else layout.Emptied removed number) := by
  have drop : layout.placed.drop removed = placed :: layout.placed.drop (removed + 1) := by
    rw [List.drop_eq_getElem?_toList_append, next]
    rfl
  have split : layout.placed =
      layout.placed.take removed ++ placed :: layout.placed.drop (removed + 1) := by
    rw [← drop, List.take_append_drop]
  obtain ⟨before, after, found, offset, rest⟩ := placed_split split
  refine ⟨before, after, found, offset, fun number => ?_⟩
  rw [placedIn, List.cons_append] at rest
  have later := (List.cons.inj rest).2
  split
  · rename_i same
    subst same
    rw [Emptied, later]
    constructor
    · intro none
      cases after with
      | nil => rfl
      | cons entry after =>
        exact absurd rfl (none ⟨placed.number, placed.offset + placed.entry.size, entry⟩
          (by simp [placedIn]))
    · rintro rfl
      intro other member
      have above := le_number_of_mem_placedOf (by simpa [placedIn] using member)
      omega
  · rename_i apart
    rw [Emptied, Emptied, drop, List.forall_mem_cons]
    exact ⟨fun all => ⟨Ne.symm apart, all⟩, fun all => all.2⟩

/-- The next record is removed: its segment is due if the file ends behind the record. -/
theorem due_remove {placed : Placed} {after : List Entry}
    (inside : placed.number ≤ layout.closed.length)
    (emptied : ∀ number, layout.Emptied (removed + 1) number ↔
      if number = placed.number then after = [] else layout.Emptied removed number) :
    layout.Due options (removed + 1) number ↔ if number = placed.number then
      after = [] ∧ (placed.number < layout.closed.length ∨ restOf options layout = [])
    else layout.Due options removed number := by
  rw [Due, emptied]
  split
  · rename_i same
    subst same
    refine and_congr_right fun _ => ?_
    constructor
    · exact fun ends => ends.imp_right And.right
    · rintro (below | none)
      · exact .inl below
      · rcases Nat.lt_or_ge placed.number layout.closed.length with below | above
        · exact .inl below
        · exact .inr ⟨by omega, none⟩
  · exact Iff.rfl

end Layout

theorem segmentOf_index (env : Environment) (placed : Placed) :
    segmentOf (placed.index env) = segmentId placed.number := by
  simp [segmentOf, LogSegmentStore.parseSegmentIndex, Placed.index,
    LogSegmentStore.toSegmentIndex, List.append_assoc]

/-! ## What the store keeps -/

namespace CleaningSession

/-- A store holds its records; the segments that are due have been cleaned, except for the one
whose event is pending. -/
structure Cleans (env : Environment) (options : LogStorageOptions) (session : CleaningSession)
    (layout : Layout) (armed : Option Nat) : Prop where
  laid : Laid env options
    (fun number => layout.Due options session.removed number ∧ armed ≠ some number) layout
    (restOf options layout) session.store session.files
  filled : ∀ entries ∈ layout.closed, entries ≠ []
  issued : session.issued = layout.placed.map (Placed.index env)
  few : session.removed ≤ layout.placed.length
  due : ∀ number ∈ armed, layout.Due options session.removed number
  schedules : Schedules session.scheduler (armed.map segmentId)

/-- Some records are held. -/
def Held (env : Environment) (options : LogStorageOptions) (session : CleaningSession) : Prop :=
  ∃ layout armed, session.Cleans env options layout armed

namespace Cleans

variable {armed : Option Nat}

/-- The segments whose records have been removed. -/
theorem emptied_iff (cleans : session.Cleans env options layout armed)
    (inside : number ≤ layout.closed.length) (removed : Nat) :
    { session with removed }.Emptied (segmentId number) ↔ layout.Emptied removed number := by
  have bound := cleans.laid.archive.number
  rw [Emptied, Layout.Emptied, cleans.issued, ← List.map_drop, List.forall_mem_map]
  refine forall₂_congr fun placed member => ?_
  have within := Layout.number_le_of_mem_placed (List.mem_of_mem_drop member)
  rw [segmentOf_index, not_iff_not]
  exact ⟨segmentId_inj (by omega) (by omega), fun same => by rw [same]⟩

/-- The segment whose event is pending. -/
theorem pending_iff (cleans : session.Cleans env options layout armed)
    (inside : number ≤ layout.closed.length) :
    session.Pending (segmentId number) ↔ armed = some number := by
  have bound := cleans.laid.archive.number
  rw [Pending, cleans.schedules.pending_iff, Option.map_eq_some_iff]
  constructor
  · rintro ⟨other, rfl, same⟩
    have within : other ≤ layout.closed.length := by
      rcases (cleans.due other rfl).2 with below | ⟨current, -⟩
      · omega
      · omega
    rw [segmentId_inj (by omega) (by omega) same]
  · rintro rfl
    exact ⟨number, rfl, rfl⟩

/-- A segment that has its file has been started. -/
theorem started (cleans : session.Cleans env options layout armed)
    (there : session.files.names (.segment id) ≠ none) :
    ∃ number ≤ layout.closed.length, id = segmentId number := by
  by_contra none
  refine there (Disk.view_eq_none.mp (cleans.laid.archive.beyond id fun number inside same => ?_))
  exact none ⟨number, inside, same⟩

/-- Every emptied segment is cleaned or will be. -/
theorem emptied_cleaned (cleans : session.Cleans env options layout armed) :
    session.EmptiedCleaned := by
  intro id apart emptied
  by_contra! left
  obtain ⟨number, inside, rfl⟩ := cleans.started left.1
  have below : number < layout.closed.length := by
    refine Nat.lt_of_le_of_ne inside fun same => apart ?_
    rw [cleans.laid.id, same]
  have due : layout.Due options session.removed number :=
    ⟨(cleans.emptied_iff inside session.removed).mp emptied, .inl below⟩
  have waits : armed ≠ some number := fun same => left.2 ((cleans.pending_iff inside).mpr same)
  exact left.1 (Disk.view_eq_none.mp (cleans.laid.archive.cleaned number below ⟨due, waits⟩))

/-- A segment ends behind its records, unless it is the one in use and has bytes there. -/
theorem cut_iff (cleans : session.Cleans env options layout armed)
    (inside : number ≤ layout.closed.length) :
    session.Cut (segmentId number) ↔
      number < layout.closed.length ∨ number = layout.closed.length ∧ restOf options layout = [] := by
  have bound := cleans.laid.archive.number
  have same : segmentId number = session.store.curSegmentId ↔ number = layout.closed.length := by
    rw [cleans.laid.id]
    exact ⟨segmentId_inj (by omega) bound, fun same => by rw [same]⟩
  have size : (session.store.curSegmentFileSize : Int) ≤ session.store.curSegmentOffset ↔
      restOf options layout = [] := by
    rw [cleans.laid.fileSize, cleans.laid.offset, List.length_append, ← List.length_eq_zero_iff]
    omega
  rw [Cut, same, size]
  constructor
  · intro cut
    rcases Nat.lt_or_ge number layout.closed.length with below | above
    · exact .inl below
    · exact .inr ⟨by omega, cut (by omega)⟩
  · rintro (below | ⟨-, none⟩) current
    · omega
    · exact none

/-- What is due may be described in another way. -/
theorem of_due (armed : Option Nat)
    (laid : Laid env options gone layout (restOf options layout) session.store session.files)
    (same : ∀ number, gone number ↔
      layout.Due options session.removed number ∧ armed ≠ some number)
    (filled : ∀ entries ∈ layout.closed, entries ≠ [])
    (issued : session.issued = layout.placed.map (Placed.index env))
    (few : session.removed ≤ layout.placed.length)
    (due : ∀ number ∈ armed, layout.Due options session.removed number)
    (schedules : Schedules session.scheduler (armed.map segmentId)) :
    session.Held env options := by
  have equal : gone = fun number =>
      layout.Due options session.removed number ∧ armed ≠ some number :=
    funext fun number => propext (same number)
  rw [equal] at laid
  exact ⟨layout, armed, laid, filled, issued, few, due, schedules⟩

theorem size_recordOf (cleans : session.Cleans env options layout armed) (key value : List UInt8) :
    8 + (session.store.indexKeyLength + value.length) = (recordOf env options key value).size := by
  rw [cleans.laid.keyLength, Entry.size, Entry.body, recordOf, List.length_append,
    Environment.length_copied]

theorem rolls_iff (sized : options.Sized) (cleans : session.Cleans env options layout armed)
    {key value : List UInt8} (small : (recordOf env options key value).size ≤ options.segmentMaxSize) :
    session.store.Rolls value ↔
      (restOf options layout).length < (recordOf env options key value).size := by
  rw [LogSegmentStore.Rolls, cleans.size_recordOf key, cleans.laid.maxSize,
    cleans.laid.full_iff sized small]
  exact and_iff_right small

/-- There is a number for the segment that `Append` starts. -/
theorem more (sized : options.Sized) (cleans : session.Cleans env options layout armed)
    {key value : List UInt8} (numbered : session.Numbered (.append key value))
    (small : (recordOf env options key value).size ≤ options.segmentMaxSize)
    (full : (restOf options layout).length < (recordOf env options key value).size) :
    layout.closed.length + 1 < 2 ^ 32 := by
  by_contra last
  have bound := cleans.laid.archive.number
  have all : layout.closed.length + 1 = 2 ^ 32 := by omega
  obtain ⟨first, rest, closed⟩ := List.exists_cons_of_length_pos
    (show 0 < layout.closed.length by omega)
  obtain ⟨entry, entries, split⟩ := List.exists_cons_of_ne_nil
    (cleans.filled first (by rw [closed]; exact List.mem_cons_self))
  have inside : (⟨0, 0, entry⟩ : Placed) ∈ layout.placed := by
    rw [Layout.placed, closed, List.cons_append, placedOf_cons, split, placedIn]
    simp
  refine numbered ((cleans.rolls_iff sized small).mpr full) _
    (by rw [cleans.issued]; exact List.mem_map_of_mem inside) ?_
  rw [segmentOf_index, cleans.laid.id, ← segmentId_succ, all]
  change segmentId 0 = segmentId (2 ^ 32)
  decide

/-- An emptied segment with bytes behind its records is left when the next one is started. -/
theorem left_behind (sized : options.Sized) (cleans : session.Cleans env options layout armed)
    {key value : List UInt8} (small : (recordOf env options key value).size ≤ options.segmentMaxSize)
    {store : LogSegmentStore} {files : Files FileName}
    (laid : Laid env options
      (fun number => layout.Due options session.removed number ∧ armed ≠ some number)
      (layout.append options (recordOf env options key value))
      (restOf options (layout.append options (recordOf env options key value))) store files)
    (rolls : session.store.Rolls value) (emptied : session.Emptied session.store.curSegmentId)
    {issued : List SegmentIndex}
    (same : issued = session.issued ++ [(layout.spot (restOf options layout).length
      (recordOf env options key value)).index env])
    (good : { session with store, files, issued }.EmptiedCleaned) :
    session.Cut session.store.curSegmentId := by
  have full := (cleans.rolls_iff sized small).mp rolls
  have spot : layout.spot (restOf options layout).length (recordOf env options key value) =
      ⟨layout.closed.length + 1, 0, recordOf env options key value⟩ := by
    rw [Layout.spot, if_neg (by omega)]
  have closed : (layout.append options (recordOf env options key value)).closed =
      layout.closed ++ [layout.current] := by
    rw [← Layout.place_eq_append small, Layout.place, if_neg (by omega)]
    rfl
  have bound := laid.archive.number
  have id := laid.id
  rw [closed, List.length_append, List.length_singleton] at bound id
  have apart : segmentId layout.closed.length ≠ segmentId (layout.closed.length + 1) := fun same => by
    have := segmentId_inj (by omega) bound same
    omega
  rw [cleans.laid.id] at emptied ⊢
  rw [cleans.cut_iff le_rfl]
  by_contra behind
  have waits : ¬ layout.Due options session.removed layout.closed.length :=
    fun due => behind due.2
  have there : files.view (.segment (segmentId layout.closed.length)) ≠ none := by
    rw [laid.archive.kept layout.closed.length layout.current (by rw [closed]; simp)
      fun gone => waits gone.1]
    exact Option.some_ne_none _
  have emptied' : ({ session with store, files, issued } : CleaningSession).Emptied
      (segmentId layout.closed.length) := by
    intro index member
    change index ∈ issued.drop session.removed at member
    rw [same, List.drop_append_of_le_length
      (by rw [cleans.issued, List.length_map]; exact cleans.few)] at member
    rcases List.mem_append.mp member with old | new
    · exact emptied index old
    · obtain rfl := List.mem_singleton.mp new
      rw [segmentOf_index, spot]
      exact apart.symm
  rcases good _ (by dsimp only; rw [id]; exact apart) emptied' with missing | pending
  · exact there (Disk.view_eq_none.mpr missing)
  · have due : session.Pending (segmentId layout.closed.length) := pending
    exact waits (cleans.due _ ((cleans.pending_iff le_rfl).mp due))

/-- `Append` keeps the store clean, unless it starts a segment too early. -/
theorem append (sized : options.Sized) (cleans : session.Cleans env options layout armed)
    {key value : List UInt8} (numbered : session.Numbered (.append key value)) :
    ∃ session', session.step heap env (.append key value) = some session' ∧
      (session.InTime (.append key value) → session'.Held env options) ∧
      (session'.EmptiedCleaned → session.InTime (.append key value)) := by
  have copies : env.copied (key ++ [0]) options.indexKeyLength =
      (recordOf env options key value).key := rfl
  rcases Nat.lt_or_ge options.segmentMaxSize (recordOf env options key value).size with big | small
  · have refused : session.store.append env key value = pure (none, session.store) :=
      cleans.laid.append_big (length_of_copies copies) big key
    have never : ¬ session.store.Rolls value := fun rolls => by
      have fits := rolls.1
      rw [cleans.size_recordOf key, cleans.laid.maxSize] at fits
      omega
    refine ⟨session, ?_, fun _ => ⟨layout, armed, cleans⟩, fun _ rolls => absurd rolls never⟩
    rw [step, refused, (Performs.pure _).run]
    simp
  · have fresh : ¬ (layout.Due options session.removed (layout.closed.length + 1) ∧
        armed ≠ some (layout.closed.length + 1)) := by
      rintro ⟨⟨-, below | ⟨same, -⟩⟩, -⟩
      · omega
      · omega
    obtain ⟨store, appends⟩ := cleans.laid.append_stores sized copies small
      (cleans.more sized numbered small) fresh
    rw [tailOf_restOf small, Layout.place_eq_append small] at appends
    obtain ⟨files, run, laid⟩ := appends.run
    change (session.store.append env key value).run session.files = _ at run
    have placed := layout.placed_place (restOf options layout).length
      (recordOf env options key value)
    rw [Layout.place_eq_append small] at placed
    refine ⟨_, by rw [step, run], fun inTime => ?_, fun good rolls emptied => ?_⟩
    · have cut : (restOf options layout).length < (recordOf env options key value).size →
          layout.Emptied session.removed layout.closed.length → restOf options layout = [] := by
        intro full emptied
        have rolls := (cleans.rolls_iff sized small).mpr full
        have emptied' := (cleans.emptied_iff le_rfl session.removed).mpr emptied
        rw [← cleans.laid.id] at emptied'
        have cut := inTime rolls emptied'
        rw [cleans.laid.id, cleans.cut_iff le_rfl] at cut
        rcases cut with below | ⟨-, none⟩
        · omega
        · exact none
      refine of_due armed laid (fun number => ?_) (Layout.filled_append cleans.filled small) ?_ ?_ ?_
        cleans.schedules
      · rw [Layout.due_append small cleans.few cut]
      · rw [placed, cleans.issued, List.map_append]
        rfl
      · rw [placed, List.length_append]
        exact cleans.few.trans (Nat.le_add_right _ _)
      · intro number due
        rw [Layout.due_append small cleans.few cut]
        exact cleans.due number due
    · exact cleans.left_behind sized small laid rolls emptied rfl good

/-- A segment whose event is pending has its file. -/
theorem waiting (cleans : session.Cleans env options layout (some number)) {entries : List Entry}
    (found : layout.closed[number]? = some entries) :
    session.files.names (.segment (segmentId number)) ≠ none := by
  intro missing
  have there := cleans.laid.archive.kept number entries found fun gone => gone.2 rfl
  rw [Disk.view_eq_none.mpr missing] at there
  cases there

/-- A segment whose event is pending is left when another segment is emptied. -/
theorem superseded (sized : options.Sized) (cleans : session.Cleans env options layout armed)
    {placed : Placed} {after : List Entry} (few : session.removed < layout.placed.length)
    (member : placed ∈ layout.placed.drop session.removed)
    (inside : placed.number ≤ layout.closed.length)
    (emptied : ∀ number, layout.Emptied (session.removed + 1) number ↔
      if number = placed.number then after = [] else layout.Emptied session.removed number)
    {files : Files FileName} (same : session.files.Unchanged files) {when : Int}
    (good : { session with
      scheduler := session.scheduler.addEvent heap (segmentId placed.number) when .cleanSegment
      files, removed := session.removed + 1 }.EmptiedCleaned)
    {event : Event CleanEventType SegmentId}
    (queued : event ∈ session.scheduler.eventQueue.events) :
    session.scheduler.eventTypeIdMap event.eventType ≠ some event.eventId := by
  intro noted
  obtain ⟨number, rfl, -⟩ := Option.map_eq_some_iff.mp
    (cleans.schedules.pending_iff.mp ⟨event, queued, rfl, noted⟩)
  have bound := cleans.laid.archive.number
  have due := cleans.due number rfl
  have apart : number ≠ placed.number := fun equal => due.1 placed member equal.symm
  have below : number < layout.closed.length := by
    rcases due.2 with below | ⟨equal, none⟩
    · exact below
    · refine absurd due.1 ?_
      rw [equal]
      refine Layout.not_emptied_current (fun empty => ?_) few
      have positive := sized.positive
      rw [restOf, empty, List.replicate_eq_nil_iff, segmentBytes_nil, List.length_nil] at none
      omega
  have differ : segmentId number ≠ segmentId layout.closed.length := fun equal => by
    have := segmentId_inj (by omega) bound equal
    omega
  have left := good (segmentId number) (by dsimp only; rw [cleans.laid.id]; exact differ)
    ((cleans.emptied_iff (by omega) (session.removed + 1)).mpr (by
      rw [emptied, if_neg apart]
      exact due.1))
  rcases left with missing | pending
  · refine cleans.waiting (List.getElem?_eq_getElem below) ?_
    have names : files.names = session.files.names := by rw [same.disk]
    rw [← names]
    exact missing
  · have only := (cleans.schedules.add heap (segmentId placed.number) when).pending_iff.mp pending
    have equal := segmentId_inj (by omega) (by omega) (Option.some.inj only)
    exact apart equal.symm

/-- `RemoveAsync` keeps the store clean, unless another event is pending when it adds one. -/
theorem removeAsync (sized : options.Sized) (cleans : session.Cleans env options layout armed)
    (now : Int) :
    ∃ session', session.step heap env (.removeAsync now) = some session' ∧
      (session.InTime (.removeAsync now) → session'.Held env options) ∧
      (session'.EmptiedCleaned → session.InTime (.removeAsync now)) := by
  have index : session.issued[session.removed]? =
      layout.placed[session.removed]?.map (Placed.index env) := by
    rw [cleans.issued, List.getElem?_map]
  cases next : layout.placed[session.removed]? with
  | none =>
    rw [next, Option.map_none] at index
    refine ⟨session, by rw [step, index], fun _ => ⟨layout, armed, cleans⟩, fun _ => ?_⟩
    rw [InTime, index]
    exact fun index member => absurd member (Option.not_mem_none index)
  | some placed =>
    rw [next, Option.map_some] at index
    obtain ⟨before, after, found, offset, emptied⟩ := Layout.emptied_remove next
    have few := (List.getElem?_eq_some_iff.mp next).1
    have inside := Layout.number_le_of_mem_placed (List.mem_of_getElem? next)
    have member : placed ∈ layout.placed.drop session.removed := by
      rw [List.drop_eq_getElem?_toList_append, next]
      exact List.mem_cons_self
    have removes : Completes (LogSegmentStore.removeAsync (Placed.index env _)) session.files _
        session.files.Unchanged :=
      cleans.laid.readable.removeAsync_placed sized found fun gone => gone.1.1 placed member rfl
    rw [← offset] at removes
    have due : ∀ number, layout.Due options (session.removed + 1) number ↔ _ :=
      fun number => Layout.due_remove inside emptied
    by_cases ends : after = [] ∧ (placed.number < layout.closed.length ∨ restOf options layout = [])
    · rw [if_pos ends] at removes
      have adds : Completes (LogSegmentStore.removeAsyncAt heap session.scheduler now
          (placed.index env)) session.files (true, session.scheduler.addEvent heap
            (segmentId placed.number) (now + segmentCleanDelay) .cleanSegment)
          session.files.Unchanged :=
        removes.bind fun files same => Completes.pure _ same
      obtain ⟨files, run, same⟩ := adds.run
      refine ⟨_, by rw [step, index]; dsimp only; rw [run], fun inTime => ?_, fun good => ?_⟩
      · have idle : armed = none := by
          cases armed with
          | none => rfl
          | some number =>
            rw [InTime, index] at inTime
            obtain ⟨event, queued, -, noted⟩ := cleans.schedules.pending_iff.mpr rfl
            refine absurd noted (inTime _ rfl ?_ ?_ event queued)
            · rw [segmentOf_index]
              refine (cleans.emptied_iff inside (session.removed + 1)).mpr
                ((emptied placed.number).mpr ?_)
              rw [if_pos rfl]
              exact ends.1
            · rw [segmentOf_index, cleans.cut_iff inside]
              exact (((due placed.number).mpr (by rw [if_pos rfl]; exact ends))).2
        subst idle
        have added : ∀ number, layout.Due options (session.removed + 1) number ↔
            layout.Due options session.removed number ∨ number = placed.number := by
          intro number
          rw [due]
          split
          · rename_i equal
            exact iff_of_true ends (.inr equal)
          · rename_i apart
            exact (or_iff_left apart).symm
        have never : ¬ layout.Due options session.removed placed.number :=
          fun due => due.1 placed member rfl
        refine of_due (some placed.number) (cleans.laid.unchanged same) (fun number => ?_)
          cleans.filled cleans.issued few (fun number waits => ?_)
          (cleans.schedules.add heap _ _)
        · dsimp only
          rw [added]
          constructor
          · rintro ⟨due, -⟩
            exact ⟨.inl due, fun equal => never (Option.some.inj equal ▸ due)⟩
          · rintro ⟨due | equal, apart⟩
            · exact ⟨due, by simp⟩
            · exact absurd (congrArg some equal.symm) apart
        · obtain rfl := Option.some.inj waits
          exact (added _).mpr (.inr rfl)
      · rw [InTime, index]
        intro _ found' emptied' cut event queued noted
        exact cleans.superseded sized few member inside emptied same good queued noted
    · rw [if_neg ends] at removes
      have keeps : Completes (LogSegmentStore.removeAsyncAt heap session.scheduler now
          (placed.index env)) session.files (true, session.scheduler) session.files.Unchanged :=
        removes.bind fun files same => Completes.pure _ same
      obtain ⟨files, run, same⟩ := keeps.run
      have unmoved : ∀ number, layout.Due options (session.removed + 1) number ↔
          layout.Due options session.removed number := by
        intro number
        rw [due]
        split
        · rename_i equal
          rw [equal]
          exact iff_of_false ends fun due => due.1 placed member rfl
        · exact Iff.rfl
      refine ⟨_, by rw [step, index]; dsimp only; rw [run], fun _ => ?_, fun _ => ?_⟩
      · refine of_due armed (cleans.laid.unchanged same) (fun number => ?_) cleans.filled cleans.issued
          few (fun number waits => ?_) cleans.schedules
        · rw [unmoved]
        · exact (unmoved number).mpr (cleans.due number waits)
      · rw [InTime, index]
        intro _ found' emptied' cut
        obtain rfl := Option.some.inj found'
        rw [segmentOf_index] at emptied' cut
        have last := (emptied placed.number).mp
          ((cleans.emptied_iff inside (session.removed + 1)).mp emptied')
        rw [if_pos rfl] at last
        exact absurd ⟨last, ((cleans.cut_iff inside).mp cut).imp_right And.right⟩ ends

/-- The cleaning thread keeps the store clean. -/
theorem dispatch (cleans : session.Cleans env options layout armed) (now : Int) :
    ∃ session', session.step heap env (.dispatch now) = some session' ∧
      session'.Held env options := by
  rw [step]
  split
  · exact ⟨session, rfl, layout, armed, cleans⟩
  · rcases cleans.schedules.dispatch heap now with
      ⟨scheduler, returned, schedules⟩ | ⟨event, scheduler, returned, waits, schedules⟩
    · rw [LogSegmentStore.autoDispatch, returned]
      dsimp only
      rw [(Performs.pure _).run]
      exact ⟨_, rfl, layout, armed, cleans.laid, cleans.filled, cleans.issued, cleans.few,
        cleans.due, schedules⟩
    · obtain ⟨number, rfl, callback⟩ := Option.map_eq_some_iff.mp waits
      have due := cleans.due number rfl
      have deletes : Completes (LogSegmentStore.deleteSegment (segmentId number)) session.files
          true _ := cleans.laid.deleteSegment
        (by
          rcases due.2 with below | ⟨current, -⟩
          · omega
          · omega)
        (fun gone => gone.2 rfl) fun current => by
          rcases due.2 with below | ⟨-, none⟩
          · omega
          · exact none
      rw [callback] at deletes
      have turns : LogSegmentStore.autoDispatch heap session.scheduler now =
          LogSegmentStore.deleteSegment event.callback >>= fun _ => pure scheduler := by
        rw [LogSegmentStore.autoDispatch, returned]
      have turned : Completes (LogSegmentStore.deleteSegment event.callback >>= fun _ =>
          pure scheduler) session.files scheduler _ :=
        deletes.bind fun files laid => Completes.pure _ laid
      obtain ⟨files, run, laid⟩ := turned.run
      refine ⟨{ session with scheduler, files }, by rw [turns, run], of_due none laid
        (fun other => ?_) cleans.filled cleans.issued
        cleans.few (fun other waits => absurd waits (Option.not_mem_none other)) schedules⟩
      constructor
      · rintro (⟨due', -⟩ | rfl)
        · exact ⟨due', by simp⟩
        · exact ⟨due, by simp⟩
      · rintro ⟨due', -⟩
        by_cases equal : other = number
        · exact .inr equal
        · exact .inl ⟨due', fun same => equal (Option.some.inj same).symm⟩

end Cleans

/-- A step of a store that is clean. -/
theorem Held.step (sized : options.Sized) (held : session.Held env options) (event : CleaningEvent)
    (numbered : session.Numbered event) :
    ∃ session', session.step heap env event = some session' ∧
      (session.InTime event → session'.Held env options) ∧
      (session'.EmptiedCleaned → session.InTime event) := by
  obtain ⟨layout, armed, cleans⟩ := held
  cases event with
  | append key value => exact cleans.append sized numbered
  | removeAsync now => exact cleans.removeAsync sized now
  | dispatch now =>
    obtain ⟨session', stepped, held'⟩ := cleans.dispatch now
    exact ⟨session', stepped, fun _ => held', fun _ => trivial⟩

/-- A store that is clean has no emptied segment left. -/
theorem Held.emptied_cleaned (held : session.Held env options) : session.EmptiedCleaned := by
  obtain ⟨layout, armed, cleans⟩ := held
  exact cleans.emptied_cleaned

end CleaningSession

/-- A store on a disk that held none is clean. -/
theorem Fresh.cleans {disk : Disk FileName} (sized : options.Sized) (fresh : Fresh disk)
    (fuel : Nat) :
    ∃ session, CleaningSession.start env fuel options disk = some session ∧
      session.Held env options := by
  obtain ⟨store, opens⟩ : ∃ store, Completes (LogSegmentStore.init env fuel {} options) disk.boot
    (true, store) _ := fresh.init sized
  obtain ⟨files, run, laid⟩ := opens.run
  have never : ∀ number, ¬ Layout.empty.Due options 0 number := by
    rintro number ⟨-, below | ⟨-, none⟩⟩
    · exact absurd below (Nat.not_lt_zero _)
    · have positive := sized.positive
      rw [restOf, List.replicate_eq_nil_iff] at none
      simp [Layout.empty] at none
      omega
  refine ⟨_, by rw [CleaningSession.start, run], CleaningSession.Cleans.of_due none laid
    (fun number => ?_) (by simp [Layout.empty]) rfl (Nat.zero_le _)
    (fun number waits => absurd waits (Option.not_mem_none number)) Schedules.empty⟩
  exact iff_of_false id fun due => never number due.1

/-- In every state of a run each emptied segment other than the current one has been deleted or
has an event that `Dispatch` does not skip, exactly when no segment is started while the current
one is emptied and has bytes behind its records, and no segment is emptied while the event of
another one is pending. -/
theorem emptied_segments_cleaned_iff (heap : EventHeap CleanEventType SegmentId)
    {env : Environment} {options : LogStorageOptions} (sized : options.Sized)
    {disk : Disk FileName} (fresh : Fresh disk) (fuel : Nat) (events : List CleaningEvent) :
    CleaningAlong heap env fuel options disk
        (fun session event => session.Numbered event ∧ session.InTime event) events ↔
      CleaningAlong heap env fuel options disk CleaningSession.Numbered events ∧
        ∀ earlier later, events = earlier ++ later → ∃ session,
          cleaningRun heap env fuel options disk earlier = some session ∧
            session.EmptiedCleaned := by
  obtain ⟨session, started, held⟩ : ∃ session, CleaningSession.start env fuel options disk =
    some session ∧ _ := fresh.cleans sized fuel
  simp only [CleaningAlong, cleaningRun, started]
  exact Runs.along_and_iff (fun _ held => held.emptied_cleaned)
    (fun _ event held numbered => held.step sized event numbered) held events

/-- Events in the order of their times. -/
def sortedCleans : EventHeap CleanEventType SegmentId := descending Event.when

/-- Segments of nine bytes, which hold one record each, and a cleaning thread. -/
def cleanedEach : LogStorageOptions := ⟨"db", 9, 1, true⟩

theorem cleanedEach_sized : cleanedEach.Sized := ⟨by decide, by decide, by decide⟩

/-- Two segments are emptied and cleaned one after the other. -/
theorem emptied_segments_cleaned_iff_twice :
    let events : List CleaningEvent := [.append [1] [], .append [2] [], .removeAsync 0,
      .dispatch 10000, .removeAsync 10001, .append [3] [], .dispatch 20001]
    ∀ earlier later, events = earlier ++ later → ∃ session,
      cleaningRun sortedCleans zlib 10 cleanedEach Disk.empty earlier = some session ∧
        session.EmptiedCleaned :=
  ((emptied_segments_cleaned_iff sortedCleans cleanedEach_sized fresh_empty 10 _).mp
    (by decide +kernel)).2

/-- A segment of a run is left. -/
theorem CleaningSession.segment_left {reached : Option CleaningSession} (id : SegmentId)
    (checked : (reached.map fun session => decide (id ≠ session.store.curSegmentId ∧
      session.Emptied id ∧ session.files.names (.segment id) ≠ none ∧ ¬ session.Pending id)) =
        some true) :
    ∃ session, reached = some session ∧ ¬ session.EmptiedCleaned := by
  obtain ⟨session, ran, left⟩ := Option.map_eq_some_iff.mp checked
  obtain ⟨apart, emptied, there, skipped⟩ := of_decide_eq_true left
  exact ⟨session, ran, fun cleaned => (cleaned id apart emptied).elim there skipped⟩

/-- A segment is left when bytes are behind its last record as that is removed, or when another
segment is emptied before its event is due. -/
theorem emptied_segment_left :
    (∃ session, cleaningRun sortedCleans zlib 20 { cleanedEach with segmentMaxSize := 18 }
        Disk.empty [.append [1] [], .removeAsync 0, .append [2] [7]] = some session ∧
      ¬ session.EmptiedCleaned) ∧
    ∃ session, cleaningRun sortedCleans zlib 10 cleanedEach Disk.empty
        [.append [1] [], .append [2] [], .append [3] [], .removeAsync 0, .removeAsync 1] =
          some session ∧
      ¬ session.EmptiedCleaned :=
  ⟨CleaningSession.segment_left 0 (by decide +kernel),
    CleaningSession.segment_left 0 (by decide +kernel)⟩

end Paxosme

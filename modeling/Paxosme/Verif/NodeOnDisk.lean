import Paxosme.Verif.LogMap
import Paxosme.Verif.NodeLog
import Paxosme.Verif.PaxosRecords

/-!
# A node on its disk

The players of a node keep their records in a map from instances to records. What lies under them
is a log storage: each record is serialized and appended to a segment, an index leads to it, and a
process that starts opens both again. A node that runs on the disk finds there at every moment what
the map holds, as long as the instances have as many digits as the keys have bytes and the records
fit a segment.
-/

namespace Paxosme

open Posix KeyedLog DataBaseLogStorage

/-- A node with the log storage under its players. -/
structure NodeOnDisk (δ : Type) where
  node : Node
  session : MapSession δ

variable {δ : Type}

section Machine

variable (level : LevelDb δ) (env : Environment) (format : EntryFormat) (fuel calls : Nat)
  (options : LogStorageOptions)

namespace MapSession

/-- `WriteLog`, with whether it returns one. -/
def writeLog (session : MapSession δ) (entry : PaxosLogEntry) : Option (Bool × MapSession δ) :=
  match (session.storage.writeLog level env format entry).run session.files with
  | (some (written, storage), files) => some (written, { session with storage, files })
  | (none, _) => none

/-- `WriteLog` of some records, one after the other; nothing when one of them does not return
one. -/
def writeAll (session : MapSession δ) : List PaxosLogEntry → Option (MapSession δ)
  | [] => some session
  | entry :: entries =>
    match session.writeLog level env format entry with
    | some (true, session) => session.writeAll entries
    | _ => none

/-- What `ReadLog` finds; nothing when the process does not come to its end. -/
def readLog (session : MapSession δ) (instanceId : InstanceId) : Option (Option PaxosLogEntry) :=
  ((session.storage.readLog level env format instanceId).run session.files).1

end MapSession

/-- One event. The records that the node writes go to the log storage, and a process that starts
again opens it again. -/
def NodeOnDisk.step (onDisk : NodeOnDisk δ) (event : NumberReuse.Event) : Option (NodeOnDisk δ) :=
  let node := NumberReuse.step onDisk.node event
  let session := match event with
    | .restart _ _ =>
      match onDisk.session.step level env fuel calls options (.reopen .restarted) with
      | some (.returned true, session) => some session
      | _ => none
    | _ => onDisk.session.writeAll level env format
      (Node.written (Node.callsSince onDisk.node node))
  session.map fun session => ⟨node, session⟩

/-- The instance has as many digits as keys have bytes, and the record fits a segment. -/
def Loggable (entry : PaxosLogEntry) : Prop :=
  (logKey entry.instanceId).length = options.indexKeyLength ∧
    8 + (options.indexKeyLength + (format.serializeAsString entry).length) ≤ options.segmentMaxSize

instance (entry : PaxosLogEntry) : Decidable (Loggable format options entry) :=
  inferInstanceAs (Decidable (_ ∧ _))

/-- The log storage is a map that holds the records of the node, of which it has as many. -/
def NodeOnDisk.Backed (onDisk : NodeOnDisk δ) (count : Nat) : Prop :=
  ∃ contents layout held, onDisk.session.Maps level env options contents layout held
      (fun _ => False) ∧
    layout.placed.length = count ∧ layout.closed.length ≤ count ∧
    ∀ instanceId, (contents.lookup (logKey instanceId)).map format.parseFromString =
      onDisk.node.storage.readLog instanceId

end Machine

variable {level : LevelDb δ} {env : Environment} {format : EntryFormat} {fuel calls : Nat}
  {options : LogStorageOptions} {node : Node} {session : MapSession δ} {count : Nat}

/-- `WriteLog` is a `Put`. -/
theorem MapSession.writeLog_eq {entry : PaxosLogEntry} {written : Bool} {next : MapSession δ}
    (stepped : session.step level env fuel calls options
      (.put (logKey entry.instanceId) (format.serializeAsString entry)) =
        some (.returned written, next)) :
    session.writeLog level env format entry = some (written, next) := by
  rw [MapSession.writeLog, DataBaseLogStorage.writeLog]
  rw [MapSession.step] at stepped
  cases ran : (session.storage.put level env (logKey entry.instanceId)
      (format.serializeAsString entry)).run session.files with
  | mk found files =>
    rw [ran] at stepped
    cases found with
    | none => cases stepped
    | some found =>
      obtain ⟨same, rfl⟩ := Prod.mk.inj (Option.some.inj stepped)
      rw [← MapAnswer.returned.inj same]

/-- `ReadLog` is a `Get`. -/
theorem MapSession.readLog_eq {instanceId : InstanceId} {value : Option (List UInt8)}
    {next : MapSession δ}
    (stepped : session.step level env fuel calls options (.get (logKey instanceId)) =
      some (.found value, next)) :
    session.readLog level env format instanceId = some (value.map format.parseFromString) := by
  rw [MapSession.step, Sys.run] at stepped
  rw [MapSession.readLog, DataBaseLogStorage.readLog, Sys.run, bind_apply]
  cases result : session.storage.get level env (logKey instanceId) { files := session.files } with
  | mk found world =>
    rw [result] at stepped
    cases found with
    | none => cases stepped
    | some found =>
      obtain ⟨same, _⟩ := Prod.mk.inj (Option.some.inj stepped)
      rw [MapAnswer.found.inj same]
      cases value with
      | none => rfl
      | some value => rfl

/-- One more record is written, to the log and to the storage. -/
theorem NodeOnDisk.Backed.write (sized : options.Sized)
    (backed : NodeOnDisk.Backed level env format options ⟨node, session⟩ count)
    {entry : PaxosLogEntry} (loggable : Loggable format options entry)
    (few : count + 1 < 2 ^ 31) :
    ∃ next, session.writeLog level env format entry = some (true, next) ∧
      NodeOnDisk.Backed level env format options
        ⟨{ node with storage := node.storage.writeLog entry }, next⟩ (count + 1) := by
  obtain ⟨contents, layout, held, maps, rfl, started, same⟩ := backed
  let key := logKey entry.instanceId
  let value := format.serializeAsString entry
  have allowed : contents.Allows options (.put key value) := loggable
  obtain ⟨next, stepped, maps'⟩ : ∃ next, session.step level env 0 0 options (.put key value) =
      some (.returned true, next) ∧ _ := maps.put sized allowed fun _ => by omega
  have size : (⟨key, value⟩ : Entry).size = 8 + (options.indexKeyLength + value.length) := by
    rw [Entry.size, Entry.body, List.length_append, loggable.1]
  have small : (⟨key, value⟩ : Entry).size ≤ options.segmentMaxSize := size ▸ loggable.2
  have placed := layout.placed_place (restOf options layout).length ⟨key, value⟩
  rw [Layout.place_eq_append small] at placed
  refine ⟨next, MapSession.writeLog_eq stepped, _, _, _, maps', ?_, ?_, fun instanceId => ?_⟩
  · rw [placed, List.length_append, List.length_singleton]
  · rw [Layout.length_closed_append small]
    split
    · omega
    · omega
  · rw [LogMap.lookup_put]
    by_cases here : instanceId = entry.instanceId
    · rw [here, if_pos rfl, PaxStore.readLog_writeLog, Option.map_some, format.parse_serialize]
    · rw [PaxStore.readLog_writeLog_of_ne _ _ _ here, ← same,
        if_neg fun equal => here (logKey_injective equal)]

/-- Records are written, to the log and to the storage. -/
theorem NodeOnDisk.Backed.writeAll (sized : options.Sized) {entries : List PaxosLogEntry}
    (backed : NodeOnDisk.Backed level env format options ⟨node, session⟩ count)
    (loggable : ∀ entry ∈ entries, Loggable format options entry)
    (few : count + entries.length < 2 ^ 31) :
    ∃ next, session.writeAll level env format entries = some next ∧
      NodeOnDisk.Backed level env format options
        ⟨{ node with storage := node.storage.writeAll entries }, next⟩
        (count + entries.length) := by
  induction entries generalizing node session count with
  | nil => exact ⟨session, rfl, backed⟩
  | cons entry entries ih =>
    rw [List.forall_mem_cons] at loggable
    rw [List.length_cons] at few
    obtain ⟨middle, wrote, backed'⟩ := backed.write sized loggable.1 (by omega)
    obtain ⟨last, wrote', backed''⟩ := ih backed' loggable.2 (by omega)
    refine ⟨last, ?_, ?_⟩
    · rw [MapSession.writeAll, wrote]
      exact wrote'
    · rw [List.length_cons, ← Nat.add_assoc, Nat.add_right_comm]
      exact backed''

/-- Only the log of a node is backed. -/
theorem NodeOnDisk.Backed.congr {other : Node}
    (backed : NodeOnDisk.Backed level env format options ⟨node, session⟩ count)
    (same : other.storage = node.storage) :
    NodeOnDisk.Backed level env format options ⟨other, session⟩ count := by
  obtain ⟨contents, layout, held, maps, placed, started, reads⟩ := backed
  refine ⟨contents, layout, held, maps, placed, started, fun instanceId => ?_⟩
  rw [reads]
  exact congrArg (PaxStore.readLog · instanceId) same.symm

/-- A process that starts again finds what it has left. -/
theorem NodeOnDisk.Backed.reopen (usable : options.Usable) (enough : options.segmentMaxSize < fuel)
    (backed : NodeOnDisk.Backed level env format options ⟨node, session⟩ count)
    (few : count < 2 ^ 31) (many : 2 * count + 1 < calls) :
    ∃ next, session.step level env fuel calls options (.reopen .restarted) =
        some (.returned true, next) ∧
      NodeOnDisk.Backed level env format options ⟨node, next⟩ count := by
  obtain ⟨contents, layout, held, maps, rfl, started, reads⟩ := backed
  have many' : layout.placed.length + layout.closed.length + 1 < calls := by omega
  have counted := maps.counted_reopen usable.sized (Nat.lt_of_le_of_lt started few) .restarted
  obtain ⟨next, stepped, maps'⟩ := maps.reopen_present usable enough counted many' not_false
  exact ⟨next, stepped, contents, layout, held, maps', rfl, started, reads⟩

/-- The records that are written while a node goes from one state to another. -/
def recordsBetween (before after : Node) : List PaxosLogEntry :=
  Node.written (Node.callsSince before after)

/-- One event on the disk is one event of the node. -/
theorem NodeOnDisk.Backed.step (usable : options.Usable) (enough : options.segmentMaxSize < fuel)
    (backed : NodeOnDisk.Backed level env format options ⟨node, session⟩ count)
    (event : NumberReuse.Event)
    (loggable : ∀ entry ∈ recordsBetween node (NumberReuse.step node event),
      Loggable format options entry)
    (few : count + (recordsBetween node (NumberReuse.step node event)).length < 2 ^ 31)
    (many : 2 * count + 1 < calls) :
    ∃ next, NodeOnDisk.step level env format fuel calls options ⟨node, session⟩ event =
        some ⟨NumberReuse.step node event, next⟩ ∧
      NodeOnDisk.Backed level env format options ⟨NumberReuse.step node event, next⟩
        (count + (recordsBetween node (NumberReuse.step node event)).length) := by
  have logs : (NumberReuse.step node event).storage =
      node.storage.writeAll (recordsBetween node (NumberReuse.step node event)) := by
    obtain ⟨later, appended, storage⟩ := NumberReuse.logs_step node event
    rw [storage, recordsBetween, Node.callsSince_of_append appended]
  have writes : (∃ next, session.writeAll level env format
      (recordsBetween node (NumberReuse.step node event)) = some next ∧ _) :=
    backed.writeAll usable.sized loggable few
  cases event with
  | restart instanceInSM memory =>
    obtain ⟨later, appended, none, storage⟩ := written_restart node instanceInSM memory
    have nothing : recordsBetween node (PaxController.restart node instanceInSM memory) = [] := by
      rw [recordsBetween, Node.callsSince_of_append appended, none]
    have few' : count < 2 ^ 31 := by omega
    obtain ⟨next, stepped, backed'⟩ := backed.reopen usable enough few' many
    refine ⟨next, ?_, ?_⟩
    · simp only [NodeOnDisk.step, stepped]
      rfl
    · have counted := backed'.congr storage
      simp only [NumberReuse.step, nothing]
      exact counted
  | receive routing message =>
    obtain ⟨next, wrote, backed'⟩ := writes
    refine ⟨next, ?_, backed'.congr logs⟩
    simp only [NodeOnDisk.step]
    rw [← recordsBetween, wrote]
    rfl
  | act activity =>
    obtain ⟨next, wrote, backed'⟩ := writes
    refine ⟨next, ?_, backed'.congr logs⟩
    simp only [NodeOnDisk.step]
    rw [← recordsBetween, wrote]
    rfl

/-- What is written in two parts of a run is written in both together. -/
theorem recordsBetween_append {first second third : Node} (before : Logs first second)
    (after : Logs second third) :
    recordsBetween first third = recordsBetween first second ++ recordsBetween second third := by
  obtain ⟨early, appended, -⟩ := before
  obtain ⟨late, appended', -⟩ := after
  have both : third.calls = first.calls ++ (early ++ late) := by
    rw [appended', appended, List.append_assoc]
  rw [recordsBetween, recordsBetween, recordsBetween, Node.callsSince_of_append appended,
    Node.callsSince_of_append appended', Node.callsSince_of_append both, Node.written_append]

/-- The log of a node after a run is the one before with the records written. -/
theorem NumberReuse.logs_run (node : Node) (events : List NumberReuse.Event) :
    Logs node (Runs.run NumberReuse.step node events) := by
  induction events generalizing node with
  | nil => exact logs_of_eq rfl rfl
  | cons event events ih => exact (NumberReuse.logs_step node event).trans (ih _)

/-- A run on the disk; nothing when the process does not come to its end. -/
def NodeOnDisk.run (level : LevelDb δ) (env : Environment) (format : EntryFormat)
    (fuel calls : Nat) (options : LogStorageOptions) (start : NodeOnDisk δ)
    (events : List NumberReuse.Event) : Option (NodeOnDisk δ) :=
  Runs.run
    (fun state event => state.bind (NodeOnDisk.step level env format fuel calls options · event))
    (some start) events

/-- A run on the disk is a run of the node. -/
theorem NodeOnDisk.Backed.run (usable : options.Usable) (enough : options.segmentMaxSize < fuel)
    (events : List NumberReuse.Event)
    (backed : NodeOnDisk.Backed level env format options ⟨node, session⟩ count)
    (loggable : ∀ entry ∈ recordsBetween node (Runs.run NumberReuse.step node events),
      Loggable format options entry)
    (few : count + (recordsBetween node (Runs.run NumberReuse.step node events)).length < 2 ^ 31)
    (many : 2 * (count + (recordsBetween node (Runs.run NumberReuse.step node events)).length) + 1 <
      calls) :
    ∃ last total, NodeOnDisk.run level env format fuel calls options ⟨node, session⟩ events =
        some ⟨Runs.run NumberReuse.step node events, last⟩ ∧
      NodeOnDisk.Backed level env format options ⟨Runs.run NumberReuse.step node events, last⟩
        total := by
  induction events generalizing node session count with
  | nil => exact ⟨session, count, rfl, backed⟩
  | cons event events ih =>
    have split := recordsBetween_append (NumberReuse.logs_step node event)
      (NumberReuse.logs_run (NumberReuse.step node event) events)
    rw [Runs.run_cons, split, List.length_append] at few many
    rw [Runs.run_cons, split, List.forall_mem_append] at loggable
    have before : 2 * count + 1 < calls := by omega
    obtain ⟨next, stepped, backed'⟩ :=
      backed.step usable enough event loggable.1 (by omega) before
    obtain ⟨last, total, ran, backed''⟩ := ih backed' loggable.2 (by omega) (by omega)
    refine ⟨last, total, ?_, backed''⟩
    rw [NodeOnDisk.run, Runs.run_cons, Option.bind_some, stepped]
    exact ran

/-- What the log storage finds is what the log of the node holds. -/
theorem NodeOnDisk.Backed.readLog (sized : options.Sized)
    (backed : NodeOnDisk.Backed level env format options ⟨node, session⟩ count)
    (instanceId : InstanceId) :
    session.readLog level env format instanceId = some (node.storage.readLog instanceId) := by
  obtain ⟨contents, layout, held, maps, -, -, reads⟩ := backed
  obtain ⟨_, stepped, -⟩ : ∃ next, session.step level env 0 0 options
      (.get (logKey instanceId)) = some (.found (contents.lookup (logKey instanceId)), next) ∧ _ :=
    maps.get sized (logKey instanceId)
  rw [MapSession.readLog_eq stepped]
  exact congrArg some (reads instanceId)

/-- A node that is started for the first time, with nothing in its log. -/
def firstStart (pax : PaxosOptions) (instanceInSM memory : InstanceId) : Node :=
  NumberReuse.launched pax (fun _ => none) instanceInSM memory

/-- A node that has not written anything is backed by an empty storage. -/
theorem NodeOnDisk.backed_start (level : LevelDb δ) (format : EntryFormat) (sized : options.Sized)
    {disk : Disk FileName} (fresh : Fresh disk) (fuel calls : Nat) (pax : PaxosOptions)
    (instanceInSM memory : InstanceId) :
    ∃ session, MapSession.start level env fuel calls options disk = some session ∧
      NodeOnDisk.Backed level env format options ⟨firstStart pax instanceInSM memory, session⟩
        0 := by
  obtain ⟨session, started, maps⟩ : ∃ session, MapSession.start level env fuel calls options disk =
    some session ∧ _ := fresh.maps level sized fuel calls
  obtain ⟨_, _, same, -⟩ :=
    PaxController.restart_eq (Node.fresh pax memory) instanceInSM memory
  have storage : (firstStart pax instanceInSM memory).storage = fun _ => none :=
    congrArg Node.storage same
  refine ⟨session, started, _, _, _, maps, rfl, le_rfl, fun instanceId => ?_⟩
  rw [storage]
  rfl

/-- A node after a run from its first start on. -/
def nodeAfter (pax : PaxosOptions) (instanceInSM memory : InstanceId)
    (events : List NumberReuse.Event) : Node :=
  Runs.run NumberReuse.step (firstStart pax instanceInSM memory) events

/-- Records that a log storage takes, whose scans end after so many calls of `ReplayLog`. -/
structure Fitting (format : EntryFormat) (options : LogStorageOptions) (calls : Nat)
    (records : List PaxosLogEntry) : Prop where
  loggable : ∀ entry ∈ records, Loggable format options entry
  few : records.length < 2 ^ 31
  many : 2 * records.length + 1 < calls

/-- **A node runs on its disk.** Whatever messages come, timers fire and values are submitted, and
however often the process is started again, the log storage under the players finds at the end, and
so at every moment, for each instance exactly the record that the log of the node holds. -/
theorem node_runs_on_disk (level : LevelDb δ) (env : Environment) (format : EntryFormat)
    (usable : options.Usable) {disk : Disk FileName} (fresh : Fresh disk)
    (enough : options.segmentMaxSize < fuel) (pax : PaxosOptions)
    (instanceInSM memory : InstanceId) (events : List NumberReuse.Event)
    (fitting : Fitting format options calls (recordsBetween (firstStart pax instanceInSM memory)
      (nodeAfter pax instanceInSM memory events))) :
    ∃ session last, MapSession.start level env fuel calls options disk = some session ∧
      NodeOnDisk.run level env format fuel calls options
          ⟨firstStart pax instanceInSM memory, session⟩ events =
        some ⟨nodeAfter pax instanceInSM memory events, last⟩ ∧
      ∀ instanceId, last.readLog level env format instanceId =
        some ((nodeAfter pax instanceInSM memory events).storage.readLog instanceId) := by
  obtain ⟨session, started, backed⟩ : ∃ session,
      MapSession.start level env fuel calls options disk = some session ∧ _ :=
    NodeOnDisk.backed_start level format usable.sized fresh fuel calls pax instanceInSM memory
  have few := fitting.few
  have many := fitting.many
  rw [← Nat.zero_add (recordsBetween _ _).length] at few many
  obtain ⟨last, _, ran, backed'⟩ := backed.run usable enough events fitting.loggable few many
  exact ⟨session, last, started, ran, backed'.readLog usable.sized⟩

/-- A prepare request, a crash with the start after it, and an accept request. -/
def oneDigitEvents : List NumberReuse.Event :=
  [.receive .handlers
      { PaxMessage.new 7 .proposeBroadcast with proposalId := 3, proposingNodeId := 7 },
    .restart 0 5,
    .receive .handlers
      { PaxMessage.new 7 .acceptBroadcast with
        proposalId := 4, proposingNodeId := 7, proposedLogValue := [42] }]

/-- A node of instance five promises, starts again and accepts. -/
theorem node_runs_on_disk_restart :
    ∃ session last, MapSession.start LevelDb.table zlib 65 6 oneDigit Disk.empty =
        some session ∧
      NodeOnDisk.run LevelDb.table zlib .proto3 65 6 oneDigit
          ⟨firstStart ⟨1, 1 / 2, 3, 0⟩ 0 5, session⟩ oneDigitEvents =
        some ⟨nodeAfter ⟨1, 1 / 2, 3, 0⟩ 0 5 oneDigitEvents, last⟩ ∧
      ∀ instanceId, last.readLog LevelDb.table zlib .proto3 instanceId =
        some ((nodeAfter ⟨1, 1 / 2, 3, 0⟩ 0 5 oneDigitEvents).storage.readLog instanceId) :=
  node_runs_on_disk LevelDb.table zlib .proto3 ⟨by decide, by decide, by decide⟩ fresh_empty
    (by decide) ⟨1, 1 / 2, 3, 0⟩ 0 5 oneDigitEvents
    ⟨by decide +kernel, by decide +kernel, by decide +kernel⟩

end Paxosme

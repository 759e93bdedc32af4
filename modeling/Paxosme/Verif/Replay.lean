import Paxosme.Core.KvStateMachine

/-!
# Replaying the log

The state machine reports instance zero for ever, so after a restart `PushSMByState` executes
the whole log again. A put that failed at first names some version, and where its key has that
version in the end the put succeeds in the replay. From then on the version of the key has moved
and does not come back within the log.
-/

namespace Paxosme
namespace Replay

open PaxController KVStatemachine

/-- The executions of a log in instance order, from some instance on. -/
def executionsFrom (start : Nat) (log : List LogValue) : List Call :=
  (log.zipIdx start).map fun (value, index) => .execute (UInt64.ofNat index) value

/-- The executions of a log in instance order. -/
def executions (log : List LogValue) : List Call := executionsFrom 0 log

/-- The records of a node hold a log as their accepted values. -/
def Holds (node : Node) (log : List LogValue) : Prop :=
  ∀ index value, log[index]? = some value →
    (node.readState (UInt64.ofNat index)).acceptedValue = value

/-- The state machine on an open, initially empty database, after it has executed a log. -/
def executed (parse : LogValue → PaxosKVPB) (dbpath : String) (log : List LogValue) :
    KVStatemachine :=
  serve parse ⟨⟨dbpath, fun _ => none⟩⟩ (executions log)

/-- What `PushSMByState` makes the state machine execute, from the instance that it reports on. -/
def replay (parse : LogValue → PaxosKVPB) (machine : KVStatemachine) (node : Node)
    (target : InstanceId) : KVStatemachine :=
  machine.serve parse
    (Node.callsSince node (pushSMByState node machine.getSMInstanceId target))

/-- The replay leaves the value and the version of every key. -/
def ReplayKeeps (parse : LogValue → PaxosKVPB) (machine : KVStatemachine) (node : Node)
    (target : InstanceId) : Prop :=
  (replay parse machine node target).kv.leveldb = machine.kv.leveldb

/-- The replay executes the log up to the target. -/
theorem callsSince_pushSMByState (node : Node) (log : List LogValue) (holds : Holds node log)
    (target : InstanceId) (within : target.toNat ≤ log.length) :
    Node.callsSince node (pushSMByState node 0 target) = executions (log.take target.toNat) := by
  rw [pushSMByState, executeStored_eq, Node.callsSince_of_append rfl]
  apply List.ext_getElem?
  intro index
  simp only [storedExecutions, executions, executionsFrom, List.getElem?_map, List.getElem?_zipIdx,
    UInt64.zero_add, UInt64.toNat_zero, Nat.sub_zero, Nat.zero_add]
  by_cases inside : index < target.toNat
  · have present : log[index]? = some log[index] := List.getElem?_eq_getElem (by omega)
    rw [List.getElem?_range inside, List.getElem?_take, if_pos inside, present, Option.map_some,
      Option.map_some, Option.map_some, holds index _ present]
  · rw [List.getElem?_take, if_neg inside, List.getElem?_eq_none]
    · rfl
    · rw [List.length_range]
      omega

section Execution

variable (parse : LogValue → PaxosKVPB)

/-- The state machine executes the first value of a log and then the others. -/
theorem serve_executionsFrom (machine : KVStatemachine) (start : Nat) (value : LogValue)
    (log : List LogValue) :
    machine.serve parse (executionsFrom start (value :: log)) =
      (machine.execute parse (UInt64.ofNat start) value).1.serve parse
        (executionsFrom (start + 1) log) := by
  simp only [executionsFrom, List.zipIdx_cons, List.map_cons]
  exact serve_execute ..

/-- The database stays open. -/
theorem execute_dbpath (machine : KVStatemachine) (isOpen : machine.kv.dbpath ≠ "")
    (instanceId : InstanceId) (value : LogValue) :
    (machine.execute parse instanceId value).1.kv.dbpath = machine.kv.dbpath := by
  rw [execute_open parse machine isOpen]
  split
  · rfl
  · rfl

/-- The database stays open while a log is executed. -/
theorem serve_dbpath (machine : KVStatemachine) (isOpen : machine.kv.dbpath ≠ "") (start : Nat)
    (log : List LogValue) :
    (machine.serve parse (executionsFrom start log)).kv.dbpath = machine.kv.dbpath := by
  induction log generalizing machine start with
  | nil => rfl
  | cons value log ih =>
    have still := execute_dbpath parse machine isOpen (UInt64.ofNat start) value
    rw [serve_executionsFrom parse, ih _ (by rw [still]; exact isOpen), still]

/-- One execution adds one to the version of its key, or leaves every version as it is. -/
theorem version_execute (machine : KVStatemachine) (isOpen : machine.kv.dbpath ≠ "")
    (instanceId : InstanceId) (value key : LogValue) :
    (machine.execute parse instanceId value).1.kv.version key =
      if Stores parse machine value ∧ (parse value).key = key then machine.kv.version key + 1
      else machine.kv.version key := by
  rw [execute_open parse machine isOpen]
  by_cases stores : Stores parse machine value
  · rw [if_pos stores]
    refine (KV.version_update machine.kv isOpen _ key _).trans ?_
    by_cases same : (parse value).key = key
    · rw [if_pos same, if_pos ⟨stores, same⟩, ← same, stores.2]
    · rw [if_neg same, if_neg (fun both => same both.2)]
  · rw [if_neg stores, if_neg (fun both => stores both.1)]

/-- A log in which no value stores leaves the state machine as it is. -/
theorem serve_unstored (machine : KVStatemachine) (isOpen : machine.kv.dbpath ≠ "") (start : Nat)
    (log : List LogValue) (unstored : ∀ value ∈ log, ¬ Stores parse machine value) :
    machine.serve parse (executionsFrom start log) = machine := by
  induction log generalizing start with
  | nil => rfl
  | cons value log ih =>
    have idle : (machine.execute parse (UInt64.ofNat start) value).1 = machine := by
      rw [execute_open parse machine isOpen, if_neg (unstored value List.mem_cons_self)]
    rw [serve_executionsFrom parse, idle]
    exact ih _ fun other member => unstored other (List.mem_cons_of_mem _ member)

/-- A log adds to the version of a key no more than its length. -/
theorem version_serve (machine : KVStatemachine) (isOpen : machine.kv.dbpath ≠ "") (start : Nat)
    (log : List LogValue) (key : LogValue) :
    ∃ count ≤ log.length, (machine.serve parse (executionsFrom start log)).kv.version key =
      machine.kv.version key + UInt64.ofNat count := by
  induction log generalizing machine start with
  | nil => exact ⟨0, le_rfl, (UInt64.add_zero _).symm⟩
  | cons value log ih =>
    have still := execute_dbpath parse machine isOpen (UInt64.ofNat start) value
    obtain ⟨count, bound, grown⟩ := ih (machine.execute parse (UInt64.ofNat start) value).1
      (by rw [still]; exact isOpen) (start + 1)
    rw [serve_executionsFrom parse, grown, version_execute parse machine isOpen]
    split
    · refine ⟨count + 1, Nat.succ_le_succ bound, ?_⟩
      rw [UInt64.ofNat_add, UInt64.add_comm (UInt64.ofNat count), ← UInt64.add_assoc]
      rfl
    · exact ⟨count, Nat.le_succ_of_le bound, rfl⟩

/-- A log that holds a value that stores moves the version of a key: of the first such value. -/
theorem version_moves (machine : KVStatemachine) (isOpen : machine.kv.dbpath ≠ "") (start : Nat)
    (log : List LogValue) (short : log.length < 2 ^ 64) (value : LogValue) (member : value ∈ log)
    (stores : Stores parse machine value) :
    ∃ key, (machine.serve parse (executionsFrom start log)).kv.version key ≠
      machine.kv.version key := by
  induction log generalizing start with
  | nil => exact absurd member List.not_mem_nil
  | cons first log ih =>
    rw [List.length_cons] at short
    by_cases now : Stores parse machine first
    · -- the first value stores: what follows cannot bring the version back
      have still := execute_dbpath parse machine isOpen (UInt64.ofNat start) first
      obtain ⟨count, bound, grown⟩ := version_serve parse
        (machine.execute parse (UInt64.ofNat start) first).1 (by rw [still]; exact isOpen)
        (start + 1) log (parse first).key
      refine ⟨(parse first).key, ?_⟩
      rw [serve_executionsFrom parse, grown, version_execute parse machine isOpen, if_pos ⟨now, rfl⟩,
        UInt64.add_assoc]
      intro same
      have zero : (1 : UInt64) + UInt64.ofNat count = 0 :=
        (UInt64.add_right_inj (machine.kv.version (parse first).key)).mp
          (same.trans (UInt64.add_zero _).symm)
      have wrapped := congrArg UInt64.toNat zero
      simp only [UInt64.toNat_add, UInt64.toNat_ofNat', UInt64.reduceToNat] at wrapped
      omega
    · have idle : (machine.execute parse (UInt64.ofNat start) first).1 = machine := by
        rw [execute_open parse machine isOpen, if_neg now]
      have later : value ∈ log := by
        rcases List.mem_cons.mp member with rfl | later
        · exact absurd stores now
        · exact later
      rw [serve_executionsFrom parse, idle]
      exact ih _ (by omega) later

end Execution

/-- **The replay leaves the database as it is exactly when it holds no put that names the version
that its key has in the end.** -/
theorem replayKeeps_iff (parse : LogValue → PaxosKVPB) (dbpath : String) (isOpen : dbpath ≠ "")
    (node : Node) (log : List LogValue) (holds : Holds node log) (target : InstanceId)
    (within : target.toNat ≤ log.length) :
    ReplayKeeps parse (executed parse dbpath log) node target ↔
      ∀ value ∈ log.take target.toNat, (parse value).method = .PUT →
        (parse value).ver ≠ (executed parse dbpath log).kv.version (parse value).key := by
  have still : (executed parse dbpath log).kv.dbpath ≠ "" := by
    rw [executed, executions, serve_dbpath parse _ isOpen]
    exact isOpen
  have replayed : replay parse (executed parse dbpath log) node target =
      (executed parse dbpath log).serve parse (executionsFrom 0 (log.take target.toNat)) := by
    rw [replay, getSMInstanceId, callsSince_pushSMByState node log holds target within]
    rfl
  rw [ReplayKeeps, replayed]
  constructor
  · intro keeps value member put named
    have short : (log.take target.toNat).length < 2 ^ 64 := by
      have bound := target.toNat_lt
      rw [List.length_take]
      omega
    obtain ⟨key, moved⟩ := version_moves parse (executed parse dbpath log) still 0 _ short value member
      ⟨put, named.symm⟩
    refine moved ?_
    rw [KV.version_open _ still, ← keeps, KV.version_open]
    rw [serve_dbpath parse _ still]
    exact still
  · intro unnamed
    rw [serve_unstored parse (executed parse dbpath log) still]
    intro value member stores
    exact unnamed value member stores.1 stores.2.symm

/-- Two requests as protobuf writes them: under key `k` put `a` in place of version 1, and put `b`
in place of version 0. -/
def sampleLog : List LogValue :=
  [[0x0A, 1, 107, 0x12, 1, 97, 0x18, 1, 0x20, 1], [0x0A, 1, 107, 0x12, 1, 98, 0x20, 1]]

/-- The parser on the two requests. -/
def sampleParse (value : LogValue) : PaxosKVPB :=
  if value = [0x0A, 1, 107, 0x12, 1, 97, 0x18, 1, 0x20, 1] then
    { key := [107], value := [97], ver := 1, method := .PUT }
  else if value = [0x0A, 1, 107, 0x12, 1, 98, 0x20, 1] then
    { key := [107], value := [98], method := .PUT }
  else {}

/-- A node whose first two records hold a log of two values. -/
def sampleNode (first second : LogValue) : Node :=
  { Node.fresh ⟨7, 1 / 2, 3, 0⟩ 2 with
    storage := PaxStore.writeLog (PaxStore.writeLog (fun _ => none)
      { instanceId := 0, acceptedValue := first }) { instanceId := 1, acceptedValue := second } }

/-- Such a node holds the log. -/
theorem holds_sampleNode (first second : LogValue) :
    Holds (sampleNode first second) [first, second] := by
  intro index value present
  match index with
  | 0 =>
    rw [Node.readState, sampleNode, PaxStore.readLog_writeLog_of_ne _ _ _
      (show UInt64.ofNat 0 ≠ 1 by decide)]
    rw [show UInt64.ofNat 0 = (⟨0, 0, 0, 0, 0, first, 0⟩ : PaxosLogEntry).instanceId from rfl,
      PaxStore.readLog_writeLog]
    exact Option.some.inj present
  | 1 =>
    rw [Node.readState, sampleNode]
    rw [show UInt64.ofNat 1 = (⟨1, 0, 0, 0, 0, second, 0⟩ : PaxosLogEntry).instanceId from rfl,
      PaxStore.readLog_writeLog]
    exact Option.some.inj present

/-- The other way round both puts succeed, and the replay changes nothing. -/
theorem replayKeeps_reverse :
    ReplayKeeps sampleParse (executed sampleParse "kv" sampleLog.reverse)
      (sampleNode sampleLog.reverse[0] sampleLog.reverse[1]) 2 :=
  (replayKeeps_iff sampleParse "kv" (by decide) _ sampleLog.reverse (holds_sampleNode _ _) 2
    (by decide)).mpr (by decide)

/-- A put that fails at first succeeds in the replay. -/
theorem replay_overwrites :
    ¬ ReplayKeeps sampleParse (executed sampleParse "kv" sampleLog)
      (sampleNode sampleLog[0] sampleLog[1]) 2 := by
  intro keeps
  exact absurd (congrFun keeps [107]) (by decide)

end Replay
end Paxosme

import Paxosme.Core.Recovery

/-!
# The key-value state machine

`KVStatemachine` parses a learned value as a request and lets `KV` serve it over a leveldb. A
stored value carries a version; a put names the version that it replaces. The instance id that
the state machine reports is always zero. Serialized values are read back as they were written,
so the leveldb is a map from keys to stored values; the parser of requests is a parameter.
-/

namespace Paxosme

/-- `version_id`. -/
abbrev VersionId := UInt64

/-- `PaxosKVPB_KVMethod`. -/
inductive KVMethod where
  | GET
  | PUT
  deriving DecidableEq, Repr

/-- `PaxosKVPB`, a request. -/
structure PaxosKVPB where
  /-- `key`. -/
  key : List UInt8 := []
  /-- `value`. -/
  value : List UInt8 := []
  /-- `ver`. -/
  ver : VersionId := 0
  /-- `method`. -/
  method : KVMethod := .GET
  deriving DecidableEq, Repr

/-- `ValuePB`, a stored value. -/
structure ValuePB where
  /-- `value`. -/
  value : List UInt8
  /-- `ver`. -/
  ver : VersionId
  deriving DecidableEq, Repr

/-- `KV`. -/
structure KV where
  /-- `dbpath_`. -/
  dbpath : String
  /-- `leveldb_`. -/
  leveldb : List UInt8 → Option ValuePB := fun _ => none

namespace KV

/-- `KV::Get` — the returned flag and what it leaves in `value` and in `ver`. The value is not
assigned. -/
def get (kv : KV) (key value : List UInt8) (ver : VersionId) : Bool × List UInt8 × VersionId :=
  if kv.dbpath = "" then (false, value, ver)
  else match kv.leveldb key with
    | none => (false, value, ver)
    | some stored => (true, value, stored.ver)

/-- `KV::Put` — `memory` is what `ver_db` holds before `Get`. -/
def put (kv : KV) (key value : List UInt8) (ver memory : VersionId) : KV × Bool :=
  if kv.dbpath = "" then (kv, false)
  else
    let (_, _, verDb) := kv.get key [] memory
    if verDb ≠ ver then (kv, false)
    else ({ kv with leveldb := Function.update kv.leveldb key (some ⟨value, ver + 1⟩) }, true)

/-- The version of a key: what `Get` delivers, zero for a key that is absent. -/
def version (kv : KV) (key : List UInt8) : VersionId := (kv.get key [] 0).2.2

/-- On an open database a put succeeds if it names the version of its key, and does nothing
otherwise. -/
theorem put_open (kv : KV) (isOpen : kv.dbpath ≠ "") (key value : List UInt8) (ver : VersionId) :
    kv.put key value ver 0 =
      if kv.version key = ver then
        ({ kv with leveldb := Function.update kv.leveldb key (some ⟨value, ver + 1⟩) }, true)
      else (kv, false) := by
  have read : (kv.get key [] 0).2.2 = kv.version key := rfl
  simp only [put, if_neg isOpen, read]
  by_cases same : kv.version key = ver
  · rw [if_neg (not_not_intro same), if_pos same]
  · rw [if_pos same, if_neg same]

/-- On an open database the version is that of the stored value. -/
theorem version_open (kv : KV) (isOpen : kv.dbpath ≠ "") (key : List UInt8) :
    kv.version key = ((kv.leveldb key).map ValuePB.ver).getD 0 := by
  rw [version, get, if_neg isOpen]
  cases kv.leveldb key with
  | none => rfl
  | some stored => rfl

/-- A write gives its key the version written and leaves the versions of the other keys. -/
theorem version_update (kv : KV) (isOpen : kv.dbpath ≠ "") (key other : List UInt8)
    (stored : ValuePB) :
    version { kv with leveldb := Function.update kv.leveldb key (some stored) } other =
      if key = other then stored.ver else kv.version other := by
  have written : version { kv with leveldb := Function.update kv.leveldb key (some stored) } other =
      ((Function.update kv.leveldb key (some stored) other).map ValuePB.ver).getD 0 :=
    version_open { kv with leveldb := Function.update kv.leveldb key (some stored) } isOpen other
  rw [written, version_open kv isOpen]
  by_cases same : key = other
  · rw [if_pos same, ← same, Function.update_self]
    rfl
  · rw [if_neg same, Function.update_of_ne (Ne.symm same)]

end KV

/-- `KVStatemachine`. -/
structure KVStatemachine where
  /-- `kv_`. -/
  kv : KV

namespace KVStatemachine

/-- `KVStatemachine::GetSMInstanceId`. -/
def getSMInstanceId (_machine : KVStatemachine) : InstanceId := 0

/-- `KVStatemachine::SetSmInstanceId`. -/
def setSmInstanceId (machine : KVStatemachine) (_instanceId : InstanceId) :
    KVStatemachine × Bool := (machine, true)

variable (parse : LogValue → PaxosKVPB)

/-- `KVStatemachine::Execute`. The version of an absent key is taken as zero. -/
def execute (machine : KVStatemachine) (instanceId : InstanceId) (paxosValue : LogValue) :
    KVStatemachine × Bool :=
  let paxosKvpb := parse paxosValue
  let (machine, execution) := match paxosKvpb.method with
    | .GET => (machine, (machine.kv.get paxosKvpb.key [] 0).1)
    | .PUT =>
      let (kv, done) := machine.kv.put paxosKvpb.key paxosKvpb.value paxosKvpb.ver 0
      ({ machine with kv }, done)
  if execution then ((machine.setSmInstanceId instanceId).1, true) else (machine, false)

/-- The state machine serves the executions among some calls of a node, in their order. -/
def serve (machine : KVStatemachine) (calls : List Call) : KVStatemachine :=
  calls.foldl (fun machine call => match call with
    | .execute instanceId value => (machine.execute parse instanceId value).1
    | _ => machine) machine

@[simp] theorem serve_nil (machine : KVStatemachine) : machine.serve parse [] = machine := rfl

@[simp] theorem serve_execute (machine : KVStatemachine) (instanceId : InstanceId)
    (value : LogValue) (calls : List Call) :
    machine.serve parse (.execute instanceId value :: calls) =
      (machine.execute parse instanceId value).1.serve parse calls := rfl

/-- A request that would store a value: a put that names the version of its key. -/
def Stores (machine : KVStatemachine) (value : LogValue) : Prop :=
  (parse value).method = .PUT ∧ machine.kv.version (parse value).key = (parse value).ver

instance instDecidableStores (machine : KVStatemachine) (value : LogValue) :
    Decidable (Stores parse machine value) :=
  inferInstanceAs (Decidable (_ ∧ _))

/-- What one execution does on an open database: a request that stores replaces the value of its
key by its own, under the next version, and no other request changes anything. -/
theorem execute_open (machine : KVStatemachine) (isOpen : machine.kv.dbpath ≠ "")
    (instanceId : InstanceId) (value : LogValue) :
    (machine.execute parse instanceId value).1 =
      if Stores parse machine value then
        { machine with
          kv := { machine.kv with
            leveldb := Function.update machine.kv.leveldb (parse value).key
              (some ⟨(parse value).value, (parse value).ver + 1⟩) } }
      else machine := by
  by_cases put : (parse value).method = .PUT
  · simp only [execute, put, KV.put_open machine.kv isOpen]
    by_cases same : machine.kv.version (parse value).key = (parse value).ver
    · rw [if_pos same, if_pos (show Stores parse machine value from ⟨put, same⟩)]
      rfl
    · rw [if_neg same, if_neg (show ¬ Stores parse machine value from fun stores =>
        same stores.2)]
      rfl
  · have get : (parse value).method = .GET := by
      cases kind : (parse value).method with
      | GET => rfl
      | PUT => exact absurd kind put
    rw [if_neg (show ¬ Stores parse machine value from fun stores => put stores.1)]
    simp only [execute, get, setSmInstanceId]
    split
    · rfl
    · rfl

end KVStatemachine

end Paxosme

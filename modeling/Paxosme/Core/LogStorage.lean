import Paxosme.Core.Node
import Paxosme.Core.SegmentStore
import Paxosme.Lib.Proto3

/-!
# The log storage

`DataBaseLogStorage` appends each record to the segment store and notes its `SegmentIndex` under
its key in a leveldb database, which `LogIndexDB` wraps. `Init` lets the database catch up with
the segments: it replays them from the record of the last key on.

A leveldb database is a parameter that carries what leveldb promises of its calls, all of which
go through. It stays on the disk when the process ends.
-/

namespace Paxosme

open Posix

/-- `leveldb::DB`, whose keys are ordered by their bytes. -/
structure LevelDb (δ : Type) where
  /-- A database that has just been created. -/
  created : δ
  /-- `Get`; nothing when the status is not ok. -/
  get : δ → List UInt8 → Option (List UInt8)
  /-- `Put`, and whether its status is ok. -/
  put : δ → List UInt8 → List UInt8 → Bool × δ
  /-- `Delete`, and whether its status is ok. -/
  delete : δ → List UInt8 → Bool × δ
  /-- The key of an iterator after `SeekToLast`; nothing when it is not valid. -/
  seekToLast : δ → Option (List UInt8)
  get_created : ∀ key, get created key = none
  put_ok : ∀ db key value, (put db key value).1 = true
  get_put : ∀ db key value,
    get (put db key value).2 = Function.update (get db) key (some value)
  delete_ok : ∀ db key, (delete db key).1 = true
  get_delete : ∀ db key, get (delete db key).2 = Function.update (get db) key none
  seekToLast_none : ∀ db, seekToLast db = none ↔ ∀ key, get db key = none
  seekToLast_some : ∀ db last, seekToLast db = some last →
    (get db last).isSome ∧ ∀ key, (get db key).isSome → ¬ last < key

namespace LevelDb

/-- The largest of some keys. -/
def largest : List (List UInt8) → Option (List UInt8)
  | [] => none
  | key :: keys => match largest keys with
    | none => some key
    | some best => some (if best < key then key else best)

theorem largest_eq_none {keys : List (List UInt8)} : largest keys = none ↔ keys = [] := by
  cases keys with
  | nil => simp [largest]
  | cons key keys =>
    refine iff_of_false ?_ (List.cons_ne_nil _ _)
    rw [largest]
    cases largest keys with
    | none => exact Option.some_ne_none _
    | some best => exact Option.some_ne_none _

theorem largest_eq_some {keys : List (List UInt8)} {last : List UInt8}
    (found : largest keys = some last) : last ∈ keys ∧ ∀ key ∈ keys, ¬ last < key := by
  induction keys generalizing last with
  | nil => cases found
  | cons first keys ih =>
    rw [largest] at found
    cases rest : largest keys with
    | none =>
      rw [rest] at found
      obtain rfl := Option.some.inj found
      rw [largest_eq_none.mp rest]
      simp
    | some best =>
      rw [rest] at found
      obtain ⟨member, top⟩ := ih rest
      obtain rfl := Option.some.inj found
      split
      · rename_i above
        refine ⟨List.mem_cons_self, fun key inside larger => ?_⟩
        rcases List.mem_cons.mp inside with rfl | inside
        · exact List.lt_irrefl _ larger
        · exact top key inside (List.lt_trans above larger)
      · rename_i below
        refine ⟨List.mem_cons_of_mem _ member, fun key inside => ?_⟩
        rcases List.mem_cons.mp inside with rfl | inside
        · exact below
        · exact top key inside

/-- What a table without the entries of a key holds. -/
theorem lookup_without (db : List (List UInt8 × List UInt8)) (key other : List UInt8) :
    (db.filter fun entry => entry.1 != key).lookup other =
      if other = key then none else db.lookup other := by
  induction db with
  | nil => simp
  | cons entry db ih =>
    obtain ⟨first, value⟩ := entry
    by_cases same : first = key
    · rw [List.filter_cons_of_neg (by simp [same]), ih, List.lookup_cons]
      split
      · rfl
      · rename_i apart
        rw [beq_false_of_ne (by rw [same]; exact apart)]
    · rw [List.filter_cons_of_pos (by simp [same]), List.lookup_cons, List.lookup_cons, ih]
      by_cases here : other = first
      · rw [here]
        simp [same]
      · rw [beq_false_of_ne here]

/-- A database whose entries are kept in a list. -/
def table : LevelDb (List (List UInt8 × List UInt8)) where
  created := []
  get db key := db.lookup key
  put db key value := (true, (key, value) :: db.filter fun entry => entry.1 != key)
  delete db key := (true, db.filter fun entry => entry.1 != key)
  seekToLast db := largest (db.map Prod.fst)
  get_created _ := rfl
  put_ok _ _ _ := rfl
  get_put db key value := by
    funext other
    rw [List.lookup_cons, lookup_without]
    by_cases same : other = key
    · rw [beq_iff_eq.mpr same, same, Function.update_self]
    · rw [beq_false_of_ne same, if_neg same, Function.update_of_ne same]
  delete_ok _ _ := rfl
  get_delete db key := by
    funext other
    rw [lookup_without]
    by_cases same : other = key
    · rw [if_pos same, same, Function.update_self]
    · rw [if_neg same, Function.update_of_ne same]
  seekToLast_none db := by
    rw [largest_eq_none, List.map_eq_nil_iff]
    constructor
    · rintro rfl key
      rfl
    · intro empty
      cases db with
      | nil => rfl
      | cons entry db => exact absurd (empty entry.1) (by simp)
  seekToLast_some db last found := by
    obtain ⟨member, top⟩ := largest_eq_some found
    simp only [List.lookup_isSome_iff, beq_iff_eq]
    refine ⟨?_, fun key held => ?_⟩
    · obtain ⟨entry, inside, rfl⟩ := List.mem_map.mp member
      exact ⟨entry, inside, rfl⟩
    · obtain ⟨entry, inside, rfl⟩ := held
      exact top _ (List.mem_map_of_mem inside)

end LevelDb

variable {δ : Type} (level : LevelDb δ) (env : Environment)

namespace LogIndexDB

/-- `LogIndexDB::GetIndex`. -/
def getIndex (db : δ) (idxKey : List UInt8) : Option SegmentIndex := level.get db idxKey

/-- `LogIndexDB::PutIndex`. -/
def putIndex (db : δ) (idxKey : List UInt8) (idxVal : SegmentIndex) : Bool × δ :=
  level.put db idxKey idxVal

/-- `LogIndexDB::DelIndex`. -/
def delIndex (db : δ) (idxKey : List UInt8) : Bool × δ := level.delete db idxKey

/-- `LogIndexDB::GetLastIndex` — the last key and the index under it. -/
def getLastIndex (db : δ) : Option (List UInt8 × SegmentIndex) := do
  let idxKey ← level.seekToLast db
  let idxVal ← getIndex level db idxKey
  pure (idxKey, idxVal)

end LogIndexDB

/-- `DataBaseLogStorage`. -/
structure DataBaseLogStorage (δ : Type) where
  /-- `log_index_db_`. -/
  logIndexDb : δ
  /-- `segment_store_`. -/
  segmentStore : LogSegmentStore

namespace DataBaseLogStorage

/-- `DataBaseLogStorage::ToIndexKey`. -/
def toIndexKey (logEntryKey : List UInt8) : List UInt8 := logEntryKey

/-- `DataBaseLogStorage::Put`. -/
def put (storage : DataBaseLogStorage δ) (key value : List UInt8) :
    Sys FileName (Bool × DataBaseLogStorage δ) := do
  let (logIndex, segmentStore) ← storage.segmentStore.append env key value
  match logIndex with
  | none => pure (false, { storage with segmentStore })
  | some logIndex =>
    let (writeLogIndex, logIndexDb) :=
      LogIndexDB.putIndex level storage.logIndexDb (toIndexKey key) logIndex
    if !writeLogIndex then pure (false, ⟨logIndexDb, segmentStore⟩)
    else pure (true, ⟨logIndexDb, segmentStore⟩)

/-- `DataBaseLogStorage::Get` — the value, if it returns true. Its log line reads the eight bytes
of an `instance_id_t` from the start of the key. -/
def get (storage : DataBaseLogStorage δ) (key : List UInt8) :
    Sys FileName (Option (List UInt8)) := do
  let indexKey := toIndexKey key
  match LogIndexDB.getIndex level storage.logIndexDb indexKey with
  | none => pure none
  | some segmentIndex =>
    touch (key.length + 1) 8
    match ← storage.segmentStore.read env segmentIndex with
    | none => pure none
    | some (keyInSegment, value) =>
      if keyInSegment ≠ indexKey then pure none else pure (some value)

/-- `DataBaseLogStorage::Delete`, with the segments for which `RemoveAsync` gives `scheduler_` an
event. -/
def delete (storage : DataBaseLogStorage δ) (logEntryKey : List UInt8) :
    Sys FileName (Bool × List SegmentId × DataBaseLogStorage δ) := do
  let idxKey := toIndexKey logEntryKey
  match LogIndexDB.getIndex level storage.logIndexDb idxKey with
  | none => pure (false, [], storage)
  | some segmentIndex =>
    let (removed, events) ← LogSegmentStore.removeAsync segmentIndex
    if !removed then pure (false, events, storage)
    else
      let (deleted, logIndexDb) := LogIndexDB.delIndex level storage.logIndexDb idxKey
      if !deleted then pure (false, events, { storage with logIndexDb })
      else pure (true, events, { storage with logIndexDb })

/-- The loop of `DataBaseLogStorage::AlignIndexWithSegmentStore`, from an offset of a segment on.
A loop that has not come to an end after so many calls of `ReplayLog` gives no result. -/
def replayLoop (segmentStore : LogSegmentStore) :
    Nat → δ → SegmentId → Int → Sys FileName δ
  | 0, _, _, _ => Sys.stop
  | calls + 1, logIndexDb, segmentId, segmentOffset => do
    let (segmentOffset, next) ← segmentStore.replayLog env segmentId segmentOffset
    if segmentOffset = 0 then replayLoop segmentStore calls logIndexDb (segmentId + 1) 0
    else if segmentOffset < 0 then pure logIndexDb
    else
      let logIndexDb := match next with
        | none => logIndexDb
        | some (nextIndexKey, nextLogIndex) =>
          (LogIndexDB.putIndex level logIndexDb nextIndexKey nextLogIndex).2
      replayLoop segmentStore calls logIndexDb segmentId segmentOffset

/-- `DataBaseLogStorage::AlignIndexWithSegmentStore`. -/
def alignIndexWithSegmentStore (calls : Nat) (storage : DataBaseLogStorage δ) :
    Sys FileName (Bool × DataBaseLogStorage δ) :=
  match LogIndexDB.getLastIndex level storage.logIndexDb with
  | none => pure (true, storage)
  | some (_, existLogIndex) => do
    let (dbSegmentId, segmentOffset, _) := LogSegmentStore.parseSegmentIndex existLogIndex
    if storage.segmentStore.getLastSegmentId < dbSegmentId then pure (false, storage)
    else
      let logIndexDb ← replayLoop level env storage.segmentStore calls storage.logIndexDb
        dbSegmentId segmentOffset
      pure (true, { storage with logIndexDb })

/-- `DataBaseLogStorage::Init` of a new object, which opens the database of its path. -/
def init (fuel calls : Nat) (logIndexDb : δ) (options : LogStorageOptions) :
    Sys FileName (Bool × DataBaseLogStorage δ) := do
  let (ready, segmentStore) ← LogSegmentStore.init env fuel {} options
  if !ready then pure (false, ⟨logIndexDb, segmentStore⟩)
  else
    let (aligned, storage) ←
      alignIndexWithSegmentStore level env calls ⟨logIndexDb, segmentStore⟩
    if !aligned then pure (false, storage) else pure (true, storage)

end DataBaseLogStorage

/-- `SerializeAsString` and `ParseFromString` of a `PaxosLogEntry`, which lose nothing. -/
structure EntryFormat where
  /-- `SerializeAsString`. -/
  serializeAsString : PaxosLogEntry → List UInt8
  /-- `ParseFromString`. -/
  parseFromString : List UInt8 → PaxosLogEntry
  parse_serialize : ∀ entry, parseFromString (serializeAsString entry) = entry

/-- The records as protobuf encodes them. -/
def EntryFormat.proto3 : EntryFormat where
  serializeAsString entry := Proto3.encode 1
    [.uint entry.instanceId.toNat, .uint entry.promisedProposalId.toNat,
      .uint entry.promisedNodeId.toNat, .uint entry.acceptedProposalId.toNat,
      .uint entry.acceptedNodeId.toNat, .bytes entry.acceptedValue, .uint entry.proposerId.toNat]
  parseFromString message :=
    match Proto3.decode 1 [.uint, .uint, .uint, .uint, .uint, .bytes, .uint] message with
    | some [.uint instanceId, .uint promisedProposalId, .uint promisedNodeId,
        .uint acceptedProposalId, .uint acceptedNodeId, .bytes acceptedValue, .uint proposerId] =>
      ⟨.ofNat instanceId, .ofNat promisedProposalId, .ofNat promisedNodeId,
        .ofNat acceptedProposalId, .ofNat acceptedNodeId, acceptedValue, .ofNat proposerId⟩
    | _ => {}
  parse_serialize entry := by
    have fields : ∀ values : List Proto3.Value, values.length = 7 →
        Proto3.decode 1 (values.map Proto3.Value.kind) (Proto3.encode 1 values) = some values :=
      fun values length => Proto3.decode_encode (by omega)
    have read := fields [.uint entry.instanceId.toNat, .uint entry.promisedProposalId.toNat,
      .uint entry.promisedNodeId.toNat, .uint entry.acceptedProposalId.toNat,
      .uint entry.acceptedNodeId.toNat, .bytes entry.acceptedValue,
      .uint entry.proposerId.toNat] rfl
    simp only [List.map_cons, List.map_nil, Proto3.Value.kind] at read
    simp only [read, UInt64.ofNat_toNat]

namespace DataBaseLogStorage

/-- The bytes of `std::to_string` of an instance id. -/
def logKey (instanceId : InstanceId) : List UInt8 :=
  (PaxStore.key instanceId).toList.map Char.toUInt8

variable (format : EntryFormat)

/-- `PaxStore::WriteLog` — whether it returns one. -/
def writeLog (storage : DataBaseLogStorage δ) (value : PaxosLogEntry) :
    Sys FileName (Bool × DataBaseLogStorage δ) :=
  storage.put level env (logKey value.instanceId) (format.serializeAsString value)

/-- `PaxStore::ReadLog` — the record, if it returns one. -/
def readLog (storage : DataBaseLogStorage δ) (instanceId : InstanceId) :
    Sys FileName (Option PaxosLogEntry) := do
  match ← storage.get level env (logKey instanceId) with
  | none => pure none
  | some logEntryValue => pure (some (format.parseFromString logEntryValue))

end DataBaseLogStorage

end Paxosme

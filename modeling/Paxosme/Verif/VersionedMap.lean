import Paxosme.Core.KvStateMachine
import Paxosme.Lib.Runs

/-!
# The key-value store as a map with versions

A map keeps for each key the last value that was put there and how often one was. A put names the
version that it replaces, zero for a key that was never written. `KV` does the same except where
it leaves an out-parameter as it was: `Get` does not assign the value, and `Put` of a key that was
never written compares the version with what a local variable happens to hold.
-/

namespace Paxosme

/-- A call of `KV`. -/
inductive KvCall where
  /-- `Put`, whose `ver_db` holds `memory` before it is assigned. -/
  | put (key value : List UInt8) (ver memory : VersionId)
  /-- `Get`, whose out-parameters hold `value` and `ver` before the call. -/
  | get (key value : List UInt8) (ver : VersionId)
  deriving DecidableEq, Repr

/-- The last value put under each key, and its version. -/
abbrev VersionedMap := List UInt8 → Option (List UInt8 × VersionId)

namespace VersionedMap

/-- The version of a key, zero when it was never written. -/
def version (map : VersionedMap) (key : List UInt8) : VersionId :=
  ((map key).map Prod.snd).getD 0

/-- A put of the version that is there. -/
def put (map : VersionedMap) (key value : List UInt8) (ver : VersionId) : VersionedMap × Bool :=
  if map.version key = ver then (Function.update map key (some (value, ver + 1)), true)
  else (map, false)

/-- The map after a call. -/
def step (map : VersionedMap) : KvCall → VersionedMap
  | .put key value ver _ => (map.put key value ver).1
  | .get .. => map

end VersionedMap

/-- The map that a database holds. -/
def KV.contents (kv : KV) : VersionedMap :=
  fun key => (kv.leveldb key).map fun stored => (stored.value, stored.ver)

/-- A database and the map that it is to hold. -/
structure KvSession where
  kv : KV
  map : VersionedMap

namespace KvSession

/-- One call. -/
def step (session : KvSession) : KvCall → KvSession
  | .put key value ver memory =>
    ⟨(session.kv.put key value ver memory).1, (session.map.put key value ver).1⟩
  | .get .. => session

/-- A database that has just been created. -/
def start (dbpath : String) : KvSession := ⟨⟨dbpath, fun _ => none⟩, fun _ => none⟩

/-- A call does what it does on the map: a put succeeds or fails with it and leaves its contents, a
get succeeds exactly when the key was written and delivers its value and its version. -/
def Agrees (session : KvSession) : KvCall → Prop
  | .put key value ver memory =>
    (session.kv.put key value ver memory).2 = (session.map.put key value ver).2 ∧
      (session.kv.put key value ver memory).1.contents = (session.map.put key value ver).1
  | .get key value ver =>
    match session.map key with
    | none => (session.kv.get key value ver).1 = false
    | some stored => session.kv.get key value ver = (true, stored)

/-- The out-parameters hold what the call does not assign: a get of a written key starts with its
value, and a put of a key never written finds a version that is right or wrong like zero. -/
def Prepared (session : KvSession) : KvCall → Prop
  | .put key _ ver memory => session.map key = none → (memory = ver ↔ ver = 0)
  | .get key value _ => ∀ stored ∈ session.map key, value = stored.1

/-- An open database holds its map. -/
structure Holds (session : KvSession) : Prop where
  isOpen : session.kv.dbpath ≠ ""
  contents : session.kv.contents = session.map

variable {session : KvSession}

/-- What `Get` returns and assigns. -/
theorem Holds.get (holds : session.Holds) (key value : List UInt8) (ver : VersionId) :
    session.kv.get key value ver = match session.map key with
      | none => (false, value, ver)
      | some stored => (true, value, stored.2) := by
  rw [KV.get, if_neg holds.isOpen, ← holds.contents, KV.contents]
  cases session.kv.leveldb key with
  | none => rfl
  | some stored => rfl

/-- What `Put` compares the version with. -/
theorem Holds.put (holds : session.Holds) (key value : List UInt8) (ver memory : VersionId) :
    session.kv.put key value ver memory =
      if ((session.map key).map Prod.snd).getD memory = ver then
        ({ session.kv with
          leveldb := Function.update session.kv.leveldb key (some ⟨value, ver + 1⟩) }, true)
      else (session.kv, false) := by
  have read : (session.kv.get key [] memory).2.2 =
      ((session.map key).map Prod.snd).getD memory := by
    rw [holds.get]
    cases session.map key with
    | none => rfl
    | some stored => rfl
  rw [KV.put, if_neg holds.isOpen]
  by_cases same : ((session.map key).map Prod.snd).getD memory = ver
  · rw [if_pos same]
    exact if_neg (not_not_intro (read.trans same))
  · rw [if_neg same]
    exact if_pos fun equal => same (read.symm.trans equal)

/-- A value is stored in the database as in the map. -/
theorem contents_update (kv : KV) (key value : List UInt8) (ver : VersionId) :
    KV.contents { kv with leveldb := Function.update kv.leveldb key (some ⟨value, ver⟩) } =
      Function.update kv.contents key (some (value, ver)) := by
  funext other
  by_cases same : other = key
  · subst same
    simp [KV.contents]
  · simp [KV.contents, Function.update_of_ne same]

/-- A put agrees with the map exactly when both find the version right or both find it wrong. -/
theorem Holds.put_agrees_iff (holds : session.Holds) (key value : List UInt8)
    (ver memory : VersionId) : session.Agrees (.put key value ver memory) ↔
      (((session.map key).map Prod.snd).getD memory = ver ↔ session.map.version key = ver) := by
  rw [Agrees, holds.put, VersionedMap.put]
  by_cases same : ((session.map key).map Prod.snd).getD memory = ver
  · rw [if_pos same]
    by_cases right : session.map.version key = ver
    · rw [if_pos right]
      refine iff_of_true ⟨rfl, ?_⟩ (iff_of_true same right)
      rw [contents_update, holds.contents]
    · rw [if_neg right]
      refine iff_of_false (fun agrees => Bool.noConfusion agrees.1) fun both => ?_
      exact right (both.mp same)
  · rw [if_neg same]
    by_cases right : session.map.version key = ver
    · rw [if_pos right]
      refine iff_of_false (fun agrees => Bool.noConfusion agrees.1) fun both => ?_
      exact same (both.mpr right)
    · rw [if_neg right]
      exact iff_of_true ⟨rfl, holds.contents⟩ (iff_of_false same right)

/-- A call does what it does on the map exactly when its out-parameters are prepared for it. -/
theorem Holds.agrees_iff (holds : session.Holds) (call : KvCall) :
    session.Agrees call ↔ session.Prepared call := by
  cases call with
  | put key value ver memory =>
    rw [holds.put_agrees_iff, Prepared, VersionedMap.version]
    cases stored : session.map key with
    | none =>
      simp only [Option.map_none, Option.getD_none, true_implies]
      exact iff_congr Iff.rfl eq_comm
    | some found => simp
  | get key value ver =>
    rw [Agrees, Prepared, holds.get]
    cases stored : session.map key with
    | none => simp
    | some found =>
      constructor
      · intro delivered other same
        obtain rfl := Option.some.inj same
        exact congrArg (fun result => result.2.1) delivered
      · intro prepared
        rw [prepared found rfl]

/-- A call that agrees with the map keeps the database holding it. -/
theorem Holds.step (holds : session.Holds) {call : KvCall} (agrees : session.Agrees call) :
    (session.step call).Holds := by
  cases call with
  | get key value ver => exact holds
  | put key value ver memory =>
    refine ⟨?_, agrees.2⟩
    show (session.kv.put key value ver memory).1.dbpath ≠ ""
    rw [holds.put]
    split
    · exact holds.isOpen
    · exact holds.isOpen

end KvSession

open KvSession

/-- Every call of a run does what it does on the map exactly when the out-parameters of every call
are prepared for it. -/
theorem kv_is_versioned_map_iff {dbpath : String} (isOpen : dbpath ≠ "") (calls : List KvCall) :
    Runs.Along step Agrees (start dbpath) calls ↔
      Runs.Along step Prepared (start dbpath) calls :=
  Runs.along_congr (fun _ call holds => Holds.agrees_iff holds call)
    (fun _ call holds prepared => Holds.step holds ((Holds.agrees_iff holds call).mpr prepared))
    _ _ (⟨isOpen, rfl⟩ : Holds (start dbpath))

/-- A value is put and read into a variable that holds it already. -/
theorem kv_is_versioned_map_prepared :
    Runs.Along step Agrees (start "db") [.put [1] [2] 0 0, .get [1] [2] 0] ↔
      Runs.Along step Prepared (start "db") [.put [1] [2] 0 0, .get [1] [2] 0] :=
  kv_is_versioned_map_iff (by decide) _

/-- `Get` of a key that was put leaves its variable empty, and a first `Put` of version zero fails
when its local variable holds another number. -/
theorem kv_is_no_versioned_map :
    ¬ Runs.Along step Agrees (start "db") [.put [1] [2] 0 0, .get [1] [] 0] ∧
      ¬ Runs.Along step Agrees (start "db") [.put [1] [2] 0 7] := by
  constructor
  · rintro ⟨-, agrees, -⟩
    exact absurd (congrArg (fun result => result.2.1) agrees) (by decide)
  · rintro ⟨⟨agrees, -⟩, -⟩
    exact absurd agrees (by decide)

end Paxosme

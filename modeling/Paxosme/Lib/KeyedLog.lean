import Mathlib.Data.List.Basic
import Mathlib.Logic.Function.Basic

/-!
# A log of keyed records and its index

Records are appended to a log, and an index leads from a key to the latest record of the key. The
index is rebuilt by a replay: each record of a part of the log is entered again under its key. A
replay from anywhere before the records that the index misses leaves the latest record under each
key, for it enters every record behind the older ones; and it enters again each key of which that
part of the log holds a record, whether or not the index held the key before.
-/

namespace KeyedLog

variable {ρ κ : Type*} [DecidableEq κ] (key : ρ → κ)

/-- The latest record of a key. -/
def latest : List ρ → κ → Option ρ
  | [], _ => none
  | record :: log, k => (latest log k).or (if key record = k then some record else none)

/-- The log from the latest record of a key on; nothing when the key has no record. -/
def since (k : κ) : List ρ → List ρ
  | [] => []
  | record :: log => if key record = k ∧ latest key log k = none then record :: log else since k log

/-- The index after each record of a log has been entered. -/
def replay (index : κ → Option ρ) (log : List ρ) : κ → Option ρ :=
  log.foldl (fun index record => Function.update index (key record) (some record)) index

variable {key} {log first second : List ρ} {record : ρ} {k : κ}

@[simp] theorem latest_nil : latest key [] k = none := rfl

/-- The later part of a log decides. -/
theorem latest_append :
    latest key (first ++ second) k = (latest key second k).or (latest key first k) := by
  induction first with
  | nil => simp
  | cons record first ih => rw [List.cons_append, latest, latest, ih, Option.or_assoc]

/-- A record that is appended is the latest of its key. -/
theorem latest_concat :
    latest key (log ++ [record]) k = if key record = k then some record else latest key log k := by
  rw [latest_append, latest, latest_nil, Option.none_or]
  split
  · rfl
  · rfl

/-- A key has no latest record exactly when it has no record. -/
theorem latest_eq_none : latest key log k = none ↔ ∀ record ∈ log, key record ≠ k := by
  induction log with
  | nil => simp
  | cons record log ih =>
    rw [latest, Option.or_eq_none_iff, ih, List.forall_mem_cons, and_comm]
    simp

/-- Where the latest record of a key stands. -/
theorem latest_eq_some : latest key log k = some record ↔
    ∃ before after, log = before ++ record :: after ∧ key record = k ∧
      ∀ later ∈ after, key later ≠ k := by
  constructor
  · intro found
    induction log with
    | nil => simp at found
    | cons head log ih =>
      cases rest : latest key log k with
      | some later =>
        rw [latest, rest, Option.some_or] at found
        obtain ⟨before, after, split, same, others⟩ := ih (rest.trans found)
        exact ⟨head :: before, after, by rw [split, List.cons_append], same, others⟩
      | none =>
        rw [latest, rest, Option.none_or] at found
        split at found
        · rename_i same
          obtain rfl := Option.some.inj found
          exact ⟨[], log, rfl, same, latest_eq_none.mp rest⟩
        · cases found
  · rintro ⟨before, after, rfl, same, others⟩
    rw [latest_append, latest, latest_eq_none.mpr others, if_pos same]
    rfl

/-- The latest record of a key is one of the log and has the key. -/
theorem mem_of_latest (found : latest key log k = some record) :
    record ∈ log ∧ key record = k := by
  obtain ⟨before, after, rfl, same, -⟩ := latest_eq_some.mp found
  exact ⟨by simp, same⟩

/-- The latest record of a log whose records are made of others. -/
theorem latest_map {σ : Type*} (make : σ → ρ) (log : List σ) :
    latest key (log.map make) k = (latest (fun source => key (make source)) log k).map make := by
  induction log with
  | nil => rfl
  | cons source log ih =>
    rw [List.map_cons, latest, latest, ih, Option.map_or]
    split
    · rfl
    · rfl

/-- Only the keys of the records matter. -/
theorem latest_congr {key' : ρ → κ} (same : ∀ record ∈ log, key' record = key record) :
    latest key' log k = latest key log k := by
  induction log with
  | nil => rfl
  | cons record log ih =>
    rw [List.forall_mem_cons] at same
    rw [latest, latest, ih same.2, same.1]

/-- A log is cut before the latest record of a key. -/
theorem since_split (found : latest key log k = some record) :
    ∃ before after, log = before ++ since key k log ∧ since key k log = record :: after := by
  induction log with
  | nil => simp at found
  | cons head log ih =>
    cases rest : latest key log k with
    | some later =>
      rw [latest, rest, Option.some_or] at found
      obtain ⟨before, after, split, start⟩ := ih (rest.trans found)
      rw [since, if_neg (by simp [rest])]
      exact ⟨head :: before, after, by rw [List.cons_append, ← split], start⟩
    | none =>
      rw [latest, rest, Option.none_or] at found
      split at found
      · rename_i same
        obtain rfl := Option.some.inj found
        rw [since, if_pos ⟨same, rest⟩]
        exact ⟨[], log, rfl, rfl⟩
      · cases found

/-- What is cut off a log is part of it. -/
theorem mem_of_since (inside : record ∈ since key k log) : record ∈ log := by
  induction log with
  | nil => cases inside
  | cons head log ih =>
    rw [since] at inside
    split at inside
    · exact inside
    · exact List.mem_cons_of_mem _ (ih inside)

/-- What is cut off a log whose records are made of others. -/
theorem since_map {σ : Type*} (make : σ → ρ) (log : List σ) :
    since key k (log.map make) = (since (fun source => key (make source)) k log).map make := by
  induction log with
  | nil => rfl
  | cons source log ih =>
    have same : key (make source) = k ∧ latest key (log.map make) k = none ↔
        key (make source) = k ∧ latest (fun source => key (make source)) log k = none := by
      rw [latest_map, Option.map_eq_none_iff]
    rw [List.map_cons, since, since, if_congr same rfl rfl, ih]
    split
    · rfl
    · rfl

/-- A replay leaves the latest record of a key that it enters, and other keys as they were. -/
theorem replay_apply (index : κ → Option ρ) (log : List ρ) (k : κ) :
    replay key index log k = (latest key log k).or (index k) := by
  induction log generalizing index with
  | nil => rfl
  | cons record log ih =>
    have entered : replay key index (record :: log) =
        replay key (Function.update index (key record) (some record)) log := rfl
    rw [entered, ih, latest, Option.or_assoc]
    by_cases same : key record = k
    · rw [← same, Function.update_self, if_pos rfl, Option.some_or]
    · rw [Function.update_of_ne (Ne.symm same), if_neg same, Option.none_or]

/-- An index of a part of a log catches up by a replay from within that part. -/
theorem replay_catches_up {before early : List ρ} (missed : List ρ)
    (index : κ → Option ρ) (indexed : index k = latest key (before ++ early) k) :
    replay key index (early ++ missed) k = latest key (before ++ (early ++ missed)) k := by
  simp only [replay_apply, indexed, latest_append, Option.or_assoc]
  cases latest key early k with
  | none => simp
  | some record => simp

/-! ## Keys that are held -/

/-- The latest records of the keys that are held, in the order of the log. -/
def lives (key : ρ → κ) (held : κ → Bool) : List ρ → List ρ
  | [] => []
  | record :: log =>
    if held (key record) ∧ latest key log (key record) = none then record :: lives key held log
    else lives key held log

/-- From the first live record on the log has records of held keys only. -/
def Tidy (key : ρ → κ) (held : κ → Bool) : List ρ → Prop
  | [] => True
  | record :: log =>
    if held (key record) ∧ latest key log (key record) = none then
      ∀ later ∈ log, held (key later)
    else Tidy key held log

variable {held : κ → Bool}

/-- A log of held keys is tidy. -/
theorem tidy_of_held (all : ∀ record ∈ log, held (key record)) : Tidy key held log := by
  induction log with
  | nil => trivial
  | cons record log ih =>
    obtain ⟨_, rest⟩ := List.forall_mem_cons.mp all
    rw [Tidy]
    split
    · exact rest
    · exact ih rest

/-- The live records are those that lookups find. -/
theorem lookup_lives {ν : Type*} [BEq κ] [LawfulBEq κ] (value : ρ → ν) (log : List ρ) (k : κ) :
    ((lives key held log).map fun record => (key record, value record)).lookup k =
      if held k then (latest key log k).map value else none := by
  induction log with
  | nil => simp [lives]
  | cons record log ih =>
    rw [lives, latest]
    by_cases live : held (key record) ∧ latest key log (key record) = none
    · have ⟨holds, last⟩ := live
      rw [if_pos live, List.map_cons, List.lookup_cons]
      by_cases same : k = key record
      · rw [same, beq_self_eq_true, last, if_pos rfl, if_pos holds]
        rfl
      · have differs : (k == key record) = false := beq_eq_false_iff_ne.mpr same
        rw [differs, if_neg (Ne.symm same), Option.or_none]
        exact ih
    · rw [if_neg live, ih]
      by_cases same : key record = k
      · rw [same] at live
        by_cases holds : held k
        · have found : latest key log k ≠ none := fun none => live ⟨holds, none⟩
          obtain ⟨later, later_⟩ := Option.ne_none_iff_exists'.mp found
          rw [later_, Option.some_or]
        · rw [if_neg holds, if_neg holds]
      · rw [if_neg same, Option.or_none]

/-- A live record is one of the log. -/
theorem mem_of_lives (live : record ∈ lives key held log) : record ∈ log := by
  induction log with
  | nil => cases live
  | cons first log ih =>
    rw [lives] at live
    split at live
    next =>
      rcases List.mem_cons.mp live with here | later
      · rw [here]
        exact List.mem_cons_self
      · exact List.mem_cons_of_mem _ (ih later)
    next => exact List.mem_cons_of_mem _ (ih live)

/-- The latest record of a held key is live. -/
theorem mem_lives (found : latest key log k = some record) (holds : held k) :
    record ∈ lives key held log := by
  induction log with
  | nil => cases found
  | cons first log ih =>
    rw [latest] at found
    rw [lives]
    cases rest : latest key log k with
    | some later =>
      rw [rest, Option.some_or] at found
      have live := ih (rest.trans found)
      split
      · exact List.mem_cons_of_mem _ live
      · exact live
    | none =>
      rw [rest, Option.none_or] at found
      split at found
      next same =>
        obtain rfl := Option.some.inj found
        rw [same, if_pos ⟨holds, rest⟩]
        exact List.mem_cons_self
      next => cases found

/-- No record is live when no key is held. -/
theorem lives_none (log : List ρ) : lives key (fun _ => false) log = [] := by
  induction log with
  | nil => rfl
  | cons record log ih =>
    rw [lives, if_neg (by simp)]
    exact ih

/-- A key that is no longer held loses its live record. -/
theorem lives_release (log : List ρ) (k : κ) :
    lives key (Function.update held k false) log =
      (lives key held log).filter fun record => decide (key record ≠ k) := by
  induction log with
  | nil => rfl
  | cons record log ih =>
    rw [lives, lives, ih]
    by_cases same : key record = k
    · rw [same, Function.update_self, if_neg (by simp)]
      split
      · rw [List.filter_cons_of_neg (by simp [same])]
      · rfl
    · rw [Function.update_of_ne same]
      split
      · rw [List.filter_cons_of_pos (by simp [same])]
      · rfl

/-- A record that is appended is the last live one, and the only one of its key. -/
theorem lives_concat (log : List ρ) (record : ρ) :
    lives key (Function.update held (key record) true) (log ++ [record]) =
      ((lives key held log).filter fun other => decide (key other ≠ key record)) ++ [record] := by
  induction log with
  | nil => simp [lives]
  | cons first log ih =>
    rw [List.cons_append, lives, lives, ih, latest_concat]
    by_cases same : key record = key first
    · rw [if_pos same, if_neg (by simp)]
      split
      · rw [List.filter_cons_of_neg (by simp [same])]
      · rfl
    · rw [if_neg same, Function.update_of_ne (Ne.symm same)]
      split
      · rw [List.filter_cons_of_pos (by simp [Ne.symm same]), List.cons_append]
      · rfl

/-- A log is tidy when no key is held. -/
theorem tidy_none (log : List ρ) : Tidy key (fun _ => false) log := by
  induction log with
  | nil => trivial
  | cons record log ih =>
    rw [Tidy, if_neg (by simp)]
    exact ih

/-- The log stays tidy when a record is appended. -/
theorem Tidy.concat (tidy : Tidy key held log) (record : ρ) :
    Tidy key (Function.update held (key record) true) (log ++ [record]) := by
  have wider {other : ρ} (holds : held (key other)) :
      Function.update held (key record) true (key other) = true := by
    by_cases same : key other = key record
    · rw [same, Function.update_self]
    · rw [Function.update_of_ne same]
      exact holds
  induction log with
  | nil =>
    apply tidy_of_held
    simp
  | cons first log ih =>
    rw [List.cons_append, Tidy, latest_concat]
    rw [Tidy] at tidy
    by_cases same : key record = key first
    · rw [if_pos same, if_neg (by simp)]
      split at tidy
      next live =>
        apply tidy_of_held
        intro later member
        rcases List.mem_append.mp member with old | new
        · exact wider (tidy later old)
        · rw [List.mem_singleton.mp new, Function.update_self]
      next => exact ih tidy
    · rw [if_neg same, Function.update_of_ne (Ne.symm same)]
      split at tidy
      next live =>
        rw [if_pos live]
        intro later member
        rcases List.mem_append.mp member with old | new
        · exact wider (tidy later old)
        · rw [List.mem_singleton.mp new, Function.update_self]
      next dead =>
        rw [if_neg dead]
        exact ih tidy

/-- The first live record: all live ones behind it are live in the log behind it. -/
theorem lives_split {rest : List ρ} (starts : lives key held log = record :: rest) :
    ∃ early later, log = early ++ record :: later ∧ rest = lives key held later ∧
      held (key record) ∧ latest key later (key record) = none ∧
      (Tidy key held log → ∀ other ∈ later, held (key other)) := by
  induction log with
  | nil => cases starts
  | cons head log ih =>
    rw [lives] at starts
    split at starts
    next live =>
      obtain ⟨same, others⟩ := List.cons.inj starts
      subst same
      refine ⟨[], log, rfl, others.symm, live.1, live.2, fun tidy => ?_⟩
      rw [Tidy, if_pos live] at tidy
      exact tidy
    next dead =>
      obtain ⟨early, later, split, others, holds, last, tidies⟩ := ih starts
      refine ⟨head :: early, later, by rw [split, List.cons_append], others, holds, last,
        fun tidy => ?_⟩
      rw [Tidy, if_neg dead] at tidy
      exact tidies tidy

/-- The log stays tidy when the key of the first live record is no longer held. -/
theorem Tidy.release (tidy : Tidy key held log) {rest : List ρ}
    (starts : lives key held log = record :: rest) :
    Tidy key (Function.update held (key record) false) log := by
  induction log with
  | nil => trivial
  | cons head log ih =>
    rw [lives] at starts
    rw [Tidy] at tidy ⊢
    split at starts
    next live =>
      obtain ⟨same, _⟩ := List.cons.inj starts
      subst same
      rw [Function.update_self, if_neg (by simp)]
      rw [if_pos live] at tidy
      apply tidy_of_held
      intro later member
      rw [Function.update_of_ne (latest_eq_none.mp live.2 later member)]
      exact tidy later member
    next dead =>
      rw [if_neg dead] at tidy
      have dead' : ¬ (Function.update held (key record) false (key head) ∧
          latest key log (key head) = none) := by
        intro live
        by_cases same : key head = key record
        · rw [same, Function.update_self] at live
          exact absurd live.1 (by decide)
        · rw [Function.update_of_ne same] at live
          exact dead live
      rw [if_neg dead']
      exact ih tidy starts

/-- Behind the latest record of a held key all keys are held. -/
theorem Tidy.held_since (tidy : Tidy key held log) (holds : held k) {other : ρ}
    (member : other ∈ since key k log) : held (key other) := by
  induction log with
  | nil => cases member
  | cons head log ih =>
    rw [since] at member
    rw [Tidy] at tidy
    split at member
    next last =>
      obtain ⟨same, newest⟩ := last
      rw [same, if_pos ⟨holds, newest⟩] at tidy
      rcases List.mem_cons.mp member with here | later
      · rw [here, same]
        exact holds
      · exact tidy other later
    next =>
      split at tidy
      next => exact tidy other (mem_of_since member)
      next => exact ih tidy member

/-- A replay from the latest record of a held key on changes no index of the held keys. -/
theorem Tidy.replay_since (tidy : Tidy key held log) (holds : held k)
    (found : latest key log k = some record) (other : κ) :
    (latest key (since key k log) other).or (if held other then latest key log other else none) =
      if held other then latest key log other else none := by
  cases entered : latest key (since key k log) other with
  | none => rw [Option.none_or]
  | some later =>
    obtain ⟨member, same⟩ := mem_of_latest entered
    obtain ⟨before, after, split, _⟩ := since_split found
    have whole : latest key log other = some later := by
      rw [split, latest_append, entered, Option.some_or]
    have holds' : held other := by
      rw [← same]
      exact tidy.held_since holds member
    rw [if_pos holds', whole, Option.some_or]

end KeyedLog

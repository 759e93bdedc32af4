import Mathlib.Data.List.Perm.Basic

/-!
# Completion queues

Operations are started under tags and complete in any order; a completion is taken with the tag of
its operation and with whether that succeeded. Nothing may be started on a queue that has been shut
down.
-/

/-- A queue on which operations complete. -/
structure CompletionQueue (τ κ : Type*) where
  /-- What has been started and is not complete. -/
  operations : List (τ × κ) := []
  /-- What is complete and has not been taken. -/
  completed : List (τ × Bool) := []
  isShutdown : Bool := false
  deriving DecidableEq, Repr

namespace CompletionQueue

variable {τ κ : Type*} {queue after : CompletionQueue τ κ} {tag : τ} {operation : κ} {ok : Bool}

/-- An operation is started; undefined once the queue has been shut down. -/
def start (queue : CompletionQueue τ κ) (tag : τ) (operation : κ) :
    Option (CompletionQueue τ κ) :=
  if queue.isShutdown then none
  else some { queue with operations := queue.operations ++ [(tag, operation)] }

/-- The tags under which something has been started and not been taken yet. -/
def tags (queue : CompletionQueue τ κ) : List τ :=
  queue.operations.map Prod.fst ++ queue.completed.map Prod.fst

theorem mem_tags_of_operation (started : (tag, operation) ∈ queue.operations) :
    tag ∈ queue.tags :=
  List.mem_append_left _ (List.mem_map_of_mem started)

theorem mem_tags_of_completed (complete : (tag, ok) ∈ queue.completed) : tag ∈ queue.tags :=
  List.mem_append_right _ (List.mem_map_of_mem complete)

theorem start_of_open (running : queue.isShutdown = false) (tag : τ) (operation : κ) :
    queue.start tag operation =
      some { queue with operations := queue.operations ++ [(tag, operation)] } :=
  if_neg (Bool.eq_false_iff.mp running)

/-- A tag is in use once more. -/
theorem tags_start (started : queue.start tag operation = some after) :
    after.tags.Perm (tag :: queue.tags) := by
  rw [start] at started
  split at started
  · cases started
  · obtain rfl := Option.some.inj started
    simp [tags]

/-- A tag is in use once less. -/
theorem tags_take (perm : queue.completed.Perm ((tag, ok) :: after.completed))
    (same : after.operations = queue.operations) : queue.tags.Perm (tag :: after.tags) := by
  rw [tags, tags, same]
  exact ((perm.map Prod.fst).append_left _).trans List.perm_middle

variable [DecidableEq τ]

/-- An operation completes. -/
def complete (queue : CompletionQueue τ κ) (tag : τ) (ok : Bool) : CompletionQueue τ κ :=
  { queue with
    operations := queue.operations.eraseP fun entry => entry.1 = tag
    completed := queue.completed ++ [(tag, ok)] }

/-- A completion is taken, if there is one under the tag. -/
def take (queue : CompletionQueue τ κ) (tag : τ) : Option (Bool × CompletionQueue τ κ) :=
  (queue.completed.lookup tag).map fun ok =>
    (ok, { queue with completed := queue.completed.eraseP fun entry => entry.1 = tag })

/-- The first entry under a key, and the entries without it. -/
theorem perm_eraseP {α : Type*} {entries : List (τ × α)} (key : τ)
    (found : key ∈ entries.map Prod.fst) :
    ∃ value, entries.lookup key = some value ∧
      entries.Perm ((key, value) :: entries.eraseP fun entry => entry.1 = key) := by
  induction entries with
  | nil => simp at found
  | cons entry entries ih =>
    by_cases same : entry.1 = key
    · subst same
      refine ⟨entry.2, by rw [List.lookup_cons, beq_self_eq_true], ?_⟩
      rw [List.eraseP_cons_of_pos (by simp)]
    · obtain ⟨value, looked, perm⟩ := ih (by simpa [Ne.symm same] using found)
      refine ⟨value, ?_, ?_⟩
      · rw [List.lookup_cons, beq_eq_false_iff_ne.mpr (Ne.symm same)]
        exact looked
      · rw [List.eraseP_cons_of_neg (by simpa using same)]
        exact (perm.cons entry).trans (List.Perm.swap _ _ _)

/-- A tag stays in use when its operation completes. -/
theorem tags_complete (started : (tag, operation) ∈ queue.operations) :
    (queue.complete tag ok).tags.Perm queue.tags := by
  obtain ⟨value, -, perm⟩ := perm_eraseP tag (List.mem_map_of_mem started)
  have tags := (perm.map Prod.fst).append_right (queue.completed.map Prod.fst)
  rw [complete, CompletionQueue.tags, CompletionQueue.tags, List.map_append, ← List.append_assoc]
  exact (List.perm_append_singleton _ _).trans tags.symm

/-- A completion can be taken when there is one under the tag. -/
theorem take_completed (found : tag ∈ queue.completed.map Prod.fst) :
    ∃ ok after, queue.take tag = some (ok, after) ∧
      queue.completed.Perm ((tag, ok) :: after.completed) ∧
      after.operations = queue.operations ∧ after.isShutdown = queue.isShutdown := by
  obtain ⟨ok, looked, perm⟩ := perm_eraseP tag found
  refine ⟨ok, { queue with completed := queue.completed.eraseP fun entry => entry.1 = tag }, ?_,
    perm, rfl, rfl⟩
  rw [take, looked, Option.map_some]

end CompletionQueue

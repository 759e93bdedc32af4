import Mathlib.Data.List.Sort

/-!
# Heaps in a range

A heap is a range in which no item has a greater key than the item at its parent position, so
that the first item has a greatest key. The two functions that keep a range a heap are known by
what they promise: putting in order a heap with one more item at its end, and moving the first
item of a heap to the end and putting the others in order. In which order items of one key come
out is left open.
-/

namespace Heap

variable {α κ : Type*} [LinearOrder κ]

/-- No item has a greater key than the item at its parent position. -/
def IsHeap (key : α → κ) (items : List α) : Prop :=
  ∀ (i : Nat) (child parent : α), 0 < i → items[i]? = some child →
    items[(i - 1) / 2]? = some parent → key child ≤ key parent

/-- The functions that keep a range a heap. -/
structure Functions (key : α → κ) where
  /-- Puts in order a heap with one more item at the end. -/
  pushHeap : List α → List α
  /-- Moves the first item of a heap to the end and puts the others in order. -/
  popHeap : List α → List α
  pushHeap_perm : ∀ items, (pushHeap items).Perm items
  pushHeap_isHeap : ∀ items item, IsHeap key items → IsHeap key (pushHeap (items ++ [item]))
  popHeap_parts : ∀ first rest, IsHeap key (first :: rest) →
    ∃ left, popHeap (first :: rest) = left ++ [first] ∧ left.Perm rest ∧ IsHeap key left

variable {key : α → κ}

theorem isHeap_nil : IsHeap key [] := by
  intro i child parent _ found _
  simp at found

/-- The first item of a heap has a greatest key. -/
theorem IsHeap.le_first {first : α} {rest : List α} (heap : IsHeap key (first :: rest)) :
    ∀ item ∈ first :: rest, key item ≤ key first := by
  have positions : ∀ (i : Nat) (item : α), (first :: rest)[i]? = some item → key item ≤ key first := by
    intro i
    induction i using Nat.strongRecOn with
    | ind i ih =>
      intro item found
      rcases Nat.eq_zero_or_pos i with zero | positive
      · rw [zero, List.getElem?_cons_zero] at found
        exact le_of_eq (congrArg key (Option.some.inj found).symm)
      · have inside := (List.getElem?_eq_some_iff.mp found).1
        have above : (i - 1) / 2 < i := by omega
        have there : (i - 1) / 2 < (first :: rest).length := by omega
        have parent := List.getElem?_eq_getElem there
        exact (heap i item _ positive found parent).trans (ih _ above _ parent)
  intro item member
  obtain ⟨i, found⟩ := List.mem_iff_getElem?.mp member
  exact positions i item found

/-- A range in descending order is a heap. -/
theorem isHeap_of_descending {items : List α}
    (descending : items.Pairwise fun first second => key second ≤ key first) :
    IsHeap key items := by
  intro i child parent positive found above
  obtain ⟨inside, rfl⟩ := List.getElem?_eq_some_iff.mp found
  obtain ⟨inside', rfl⟩ := List.getElem?_eq_some_iff.mp above
  exact List.pairwise_iff_getElem.mp descending _ _ inside' inside (by omega)

/-- The items in descending order of their keys. -/
def descend (key : α → κ) (items : List α) : List α :=
  items.insertionSort fun first second => key second ≤ key first

theorem isHeap_descend (items : List α) : IsHeap key (descend key items) := by
  have total : Std.Total fun first second : α => key second ≤ key first :=
    ⟨fun first second => le_total (key second) (key first)⟩
  have trans : IsTrans α fun first second => key second ≤ key first :=
    ⟨fun _ _ _ before after => after.trans before⟩
  exact isHeap_of_descending (List.pairwise_insertionSort _ items)

/-- Functions that keep the whole range in descending order. -/
def descending (key : α → κ) : Functions key where
  pushHeap items := descend key items
  popHeap
    | [] => []
    | first :: rest => descend key rest ++ [first]
  pushHeap_perm items := List.perm_insertionSort _ items
  pushHeap_isHeap _ _ _ := isHeap_descend _
  popHeap_parts _ rest _ := ⟨descend key rest, rfl, List.perm_insertionSort _ rest,
    isHeap_descend rest⟩

end Heap

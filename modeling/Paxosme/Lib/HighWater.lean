import Mathlib.Order.Bounds.Basic
import Mathlib.Order.MinMax
import Mathlib.Data.List.Induction
import Mathlib.Data.List.Nodup

/-!
# High-water marks

A register holds a mark in a linear order. Items are offered to it one after the other; an
item is taken when its key lies strictly above the mark, and the mark then rises to that key.
The mark is the maximum of its start and of every key offered, so which items are taken is
decided by the keys alone: an item is taken exactly when its key exceeds the start and every
key offered before it. The last item taken is the first one that attains the mark, and where no
two keys are equal it does not depend on the order of the offers.
-/

namespace HighWater

variable {α β : Type*} [LinearOrder α] (key : β → α)

/-- One offer: the mark rises to the key of an item above it. -/
def offer (mark : α) (item : β) : α := if mark < key item then key item else mark

/-- The mark after a list of offers. -/
def mark (start : α) (items : List β) : α := items.foldl (offer key) start

/-- The items taken from a list of offers, in order. -/
def taken (start : α) : List β → List β
  | [] => []
  | item :: items =>
    if start < key item then item :: taken (key item) items else taken start items

/-- An offer leaves the larger of the mark and the key. -/
theorem offer_eq_max (start : α) (item : β) : offer key start item = max start (key item) := by
  unfold offer
  split
  · rename_i above
    exact (max_eq_right above.le).symm
  · rename_i below
    exact (max_eq_left (not_lt.mp below)).symm

@[simp] theorem mark_nil (start : α) : mark key start [] = start := rfl

@[simp] theorem mark_cons (start : α) (item : β) (items : List β) :
    mark key start (item :: items) = mark key (offer key start item) items := rfl

/-- A bound on the mark is a bound on the start and on every key offered. -/
theorem mark_le_iff (start bound : α) (items : List β) :
    mark key start items ≤ bound ↔ start ≤ bound ∧ ∀ item ∈ items, key item ≤ bound := by
  induction items generalizing start with
  | nil => simp
  | cons item items ih =>
    rw [mark_cons, ih, offer_eq_max, max_le_iff]
    simp only [List.mem_cons, forall_eq_or_imp, and_assoc]

/-- The mark never falls. -/
theorem start_le_mark (start : α) (items : List β) : start ≤ mark key start items :=
  ((mark_le_iff key start _ items).mp le_rfl).1

/-- The mark is its start or a key offered. -/
theorem mark_mem (start : α) (items : List β) :
    mark key start items = start ∨ ∃ item ∈ items, mark key start items = key item := by
  induction items generalizing start with
  | nil => exact .inl rfl
  | cons item items ih =>
    rw [mark_cons]
    rcases ih (offer key start item) with kept | ⟨later, offered, same⟩
    · rw [kept, offer]
      split
      · exact .inr ⟨item, List.mem_cons_self, rfl⟩
      · exact .inl rfl
    · exact .inr ⟨later, List.mem_cons_of_mem _ offered, same⟩

/-- No key offered lies above the mark. -/
theorem key_le_mark (start : α) (items : List β) (item : β) (offered : item ∈ items) :
    key item ≤ mark key start items :=
  ((mark_le_iff key start _ items).mp le_rfl).2 item offered

@[simp] theorem taken_nil (start : α) : taken key start [] = [] := rfl

/-- The items taken when one offer comes first. -/
theorem taken_cons (start : α) (item : β) (items : List β) :
    taken key start (item :: items) =
      if start < key item then item :: taken key (offer key start item) items
      else taken key (offer key start item) items := by
  unfold offer
  conv_lhs => unfold taken
  split
  · rfl
  · rfl

/-- The items taken from two lists of offers. -/
theorem taken_append (start : α) (first second : List β) :
    taken key start (first ++ second) =
      taken key start first ++ taken key (mark key start first) second := by
  induction first generalizing start with
  | nil => rfl
  | cons item items ih =>
    rw [List.cons_append, taken_cons, taken_cons, mark_cons, ih]
    split
    · rw [List.cons_append]
    · rfl

/-- Every item taken has a key above the start. -/
theorem start_lt_of_taken (start : α) (items : List β) (item : β)
    (kept : item ∈ taken key start items) : start < key item := by
  induction items generalizing start with
  | nil => simp at kept
  | cons first items ih =>
    rw [taken_cons] at kept
    split at kept
    · rename_i above
      rcases List.mem_cons.mp kept with rfl | later
      · exact above
      · exact lt_of_le_of_lt (start_le_mark key start [first]) (ih _ later)
    · exact lt_of_le_of_lt (start_le_mark key start [first]) (ih _ kept)

/-- Every item taken was offered. -/
theorem taken_sublist (start : α) (items : List β) : (taken key start items).Sublist items := by
  induction items generalizing start with
  | nil => exact List.Sublist.refl _
  | cons item items ih =>
    unfold taken
    split
    · exact (ih (key item)).cons_cons item
    · exact (ih start).cons item

/-- The mark is decided by the items taken. -/
theorem mark_taken (start : α) (items : List β) :
    mark key start (taken key start items) = mark key start items := by
  induction items generalizing start with
  | nil => rfl
  | cons item items ih =>
    unfold taken
    split
    · rename_i above
      simp only [mark_cons, offer, if_pos above]
      exact ih (key item)
    · rename_i below
      simp only [mark_cons, offer, if_neg below]
      exact ih start

/-- A bound on every item taken bounds the mark. -/
theorem mark_le_of_taken (start bound : α) (items : List β) (low : start ≤ bound)
    (bounded : ∀ item ∈ taken key start items, key item ≤ bound) :
    mark key start items ≤ bound := by
  rw [← mark_taken, mark_le_iff]
  exact ⟨low, bounded⟩

/-- The mark is the greatest of its start and the keys offered. -/
theorem mark_isGreatest (start : α) (items : List β) :
    IsGreatest (insert start {bound | ∃ item ∈ items, key item = bound})
      (mark key start items) := by
  constructor
  · rcases mark_mem key start items with kept | ⟨item, offered, same⟩
    · exact .inl kept
    · exact .inr ⟨item, offered, same.symm⟩
  · rintro bound (rfl | ⟨item, offered, rfl⟩)
    · exact start_le_mark key bound items
    · exact key_le_mark key start items item offered

/-- A key lies above the mark exactly when it lies above the start and every key offered. -/
theorem mark_lt_iff (start bound : α) (items : List β) :
    mark key start items < bound ↔ start < bound ∧ ∀ item ∈ items, key item < bound := by
  constructor
  · intro above
    exact ⟨lt_of_le_of_lt (start_le_mark key start items) above,
      fun item offered => lt_of_le_of_lt (key_le_mark key start items item offered) above⟩
  · rintro ⟨low, lower⟩
    rcases mark_mem key start items with kept | ⟨item, offered, same⟩
    · rw [kept]
      exact low
    · rw [same]
      exact lower item offered

/-- A mark that has not risen has taken nothing. -/
theorem taken_eq_nil {start : α} {items : List β} (kept : mark key start items = start) :
    taken key start items = [] := by
  have below := (mark_le_iff key start start items).mp kept.le
  refine List.eq_nil_iff_forall_not_mem.mpr fun item member => ?_
  have above := start_lt_of_taken key start items item member
  have offered := (taken_sublist key start items).subset member
  exact absurd (below.2 item offered) (not_le.mpr above)

/-- A mark that has risen is attained by some item first, and that is the last item taken. -/
theorem first_attaining {start : α} {items : List β} (risen : start < mark key start items) :
    ∃ earlier item later, items = earlier ++ item :: later ∧ key item = mark key start items ∧
      (∀ other ∈ earlier, key other < key item) ∧
      (taken key start items).getLast? = some item := by
  induction items using List.reverseRecOn with
  | nil => exact absurd risen (lt_irrefl start)
  | append_singleton items last ih =>
    have step : mark key start (items ++ [last]) = offer key (mark key start items) last := by
      rw [mark, List.foldl_append]
      rfl
    have grows : taken key start (items ++ [last]) =
        taken key start items ++ taken key (mark key start items) [last] :=
      taken_append key start items [last]
    rw [step] at risen ⊢
    rw [grows]
    by_cases above : mark key start items < key last
    · have bounds := (mark_lt_iff key start (key last) items).mp above
      refine ⟨items, last, [], rfl, ?_, bounds.2, ?_⟩
      · rw [offer, if_pos above]
      · rw [taken, if_pos above, taken_nil, List.getLast?_concat]
    · rw [offer, if_neg above] at risen ⊢
      obtain ⟨earlier, item, later, split, attains, first, taken_⟩ := ih risen
      refine ⟨earlier, item, later ++ [last], ?_, attains, first, ?_⟩
      · rw [split, List.append_assoc, List.cons_append]
      · rw [taken, if_neg above, taken_nil, List.append_nil]
        exact taken_

/-- The mark does not depend on the order of the offers. -/
theorem mark_perm (start : α) {items other : List β} (same : items.Perm other) :
    mark key start items = mark key start other := by
  refine eq_of_forall_ge_iff fun bound => ?_
  rw [mark_le_iff, mark_le_iff]
  simp only [same.mem_iff]

/-- Where no two keys are equal, neither does the last item taken. -/
theorem getLast_taken_perm (start : α) {items other : List β} (same : items.Perm other)
    (distinct : (items.map key).Nodup) :
    (taken key start items).getLast? = (taken key start other).getLast? := by
  have marks := mark_perm key start same
  rcases (start_le_mark key start items).eq_or_lt with kept | risen
  · rw [taken_eq_nil key kept.symm, taken_eq_nil key (marks.symm.trans kept.symm)]
  · obtain ⟨earlier, item, later, split, attains, -, last⟩ := first_attaining key risen
    obtain ⟨earlier', item', later', split', attains', -, last'⟩ :=
      first_attaining key (marks ▸ risen)
    have here : item ∈ items := by
      rw [split]
      simp
    have there : item' ∈ items := by
      refine same.mem_iff.mpr ?_
      rw [split']
      simp
    have equal : item = item' := by
      refine List.inj_on_of_nodup_map distinct here there ?_
      rw [attains, attains', marks]
    rw [last, last', equal]

end HighWater

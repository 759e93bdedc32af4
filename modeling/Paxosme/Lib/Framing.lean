import Paxosme.Lib.Bytes

/-!
# Records behind their lengths

A log of records is a file in which each record stands behind its length, a number in a field of
a fixed width. A reader takes records off the front for as long as it finds a length that is not
zero and that many bytes behind it. It finds every record that was written, and goes on reading
whatever stands behind the last one: what it must not find there is stated by `Ends`. A failed read
is reported by the largest number of the field, which therefore must not stand there either.
-/

namespace Framing

open Bytes

/-- A record behind its length. -/
def frame (width : Nat) (body : List UInt8) : List UInt8 :=
  littleEndian width body.length ++ body

/-- Records one behind the other. -/
def frames (width : Nat) (bodies : List (List UInt8)) : List UInt8 :=
  (bodies.map (frame width)).flatten

/-- The first record that a reader finds in bytes, and the bytes behind it. -/
def unframe (width : Nat) (bytes : List UInt8) : Option (List UInt8 × List UInt8) :=
  let count := ofLittleEndian (bytes.take width)
  let rest := bytes.drop width
  if bytes.length < width ∨ count = 0 ∨ rest.length < count then none
  else some (rest.take count, rest.drop count)

/-- A reader finds no record in bytes, and no length that reads as a failed read. -/
def Ends (width : Nat) (bytes : List UInt8) : Prop :=
  unframe width bytes = none ∧ ofLittleEndian (bytes.take width) + 1 < 256 ^ width

/-- A record that can be told from the end of the log and whose length fits its field. -/
def Framed (width : Nat) (body : List UInt8) : Prop := body ≠ [] ∧ body.length < 256 ^ width

variable {width : Nat}

@[simp] theorem length_frame (body : List UInt8) :
    (frame width body).length = width + body.length := by
  simp [frame]

@[simp] theorem frames_nil : frames width [] = [] := rfl

@[simp] theorem frames_cons (body : List UInt8) (bodies : List (List UInt8)) :
    frames width (body :: bodies) = frame width body ++ frames width bodies := by
  simp [frames]

@[simp] theorem frames_append (first second : List (List UInt8)) :
    frames width (first ++ second) = frames width first ++ frames width second := by
  simp [frames]

/-- A reader finds the record that was written. -/
theorem unframe_frame {body : List UInt8} (framed : Framed width body) (rest : List UInt8) :
    unframe width (frame width body ++ rest) = some (body, rest) := by
  obtain ⟨filled, fits⟩ := framed
  have length : ofLittleEndian (littleEndian width body.length) = body.length :=
    ofLittleEndian_littleEndian_of_lt fits
  have positive : body.length ≠ 0 := by simpa using filled
  have head : (frame width body ++ rest).take width = littleEndian width body.length := by
    simp [frame]
  have tail : (frame width body ++ rest).drop width = body ++ rest := by
    simp [frame, List.append_assoc]
  simp only [unframe, head, length, tail]
  rw [if_neg]
  · simp
  · simp only [List.length_append, length_frame]
    omega

/-- What a reader takes stands behind its length, and is not empty. -/
theorem unframe_parts {bytes body rest : List UInt8}
    (found : unframe width bytes = some (body, rest)) :
    width ≤ bytes.length ∧ ofLittleEndian (bytes.take width) = body.length ∧ body.length ≠ 0 ∧
      bytes.drop width = body ++ rest := by
  simp only [unframe] at found
  split at found
  · contradiction
  · rename_i inside
    obtain ⟨rfl, rfl⟩ := Prod.mk.inj (Option.some.inj found)
    rw [List.length_take, List.take_append_drop]
    refine ⟨by omega, by omega, by omega, rfl⟩

/-- A reader finds no record in fewer bytes than a length takes. -/
theorem ends_of_short {bytes : List UInt8} (short : bytes.length < width) : Ends width bytes := by
  refine ⟨if_pos (Or.inl short), ?_⟩
  obtain ⟨before, rfl⟩ : ∃ before, width = before + 1 := ⟨width - 1, by omega⟩
  have bound := ofLittleEndian_lt (bytes.take (before + 1))
  have power : 256 ^ (bytes.take (before + 1)).length ≤ 256 ^ before :=
    Nat.pow_le_pow_right (by decide) (by rw [List.length_take]; omega)
  have positive : 0 < 256 ^ before := Nat.pow_pos (by decide)
  rw [Nat.pow_succ]
  omega

/-- A reader finds no record in zeros. -/
theorem ends_zeros (positive : 0 < width) (count : Nat) :
    Ends width (List.replicate count 0) := by
  have zero : ofLittleEndian ((List.replicate count 0).take width) = 0 := by
    rw [List.take_replicate, ofLittleEndian_zeros]
  refine ⟨if_pos (Or.inr (Or.inl zero)), ?_⟩
  rw [zero]
  exact Nat.one_lt_pow (by omega) (by decide)

/-- The bytes end the log exactly when no full length is left, or it is zero, or it reaches past
the last byte and is not the largest number. -/
theorem ends_iff (bytes : List UInt8) :
    Ends width bytes ↔ (bytes.length < width ∨ ofLittleEndian (bytes.take width) = 0 ∨
      (bytes.drop width).length < ofLittleEndian (bytes.take width)) ∧
        ofLittleEndian (bytes.take width) + 1 < 256 ^ width := by
  refine and_congr_left fun _ => ?_
  rw [unframe]
  split <;> simp_all

end Framing

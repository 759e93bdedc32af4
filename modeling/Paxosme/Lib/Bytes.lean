import Mathlib.Data.List.Basic
import Mathlib.Logic.Function.Iterate
import Mathlib.Tactic.Ring

/-!
# Bytes in memory and in a file

An unsigned number of a fixed width is kept as its bytes, the least significant first; a number
too large for the width loses its high bytes. A file is the list of its bytes: writing behind its
end fills the gap with zeros, and changing its length cuts it or fills it up with zeros.
-/

namespace Bytes

/-- The bytes of a number in a field of a width. -/
def littleEndian : Nat → Nat → List UInt8
  | 0, _ => []
  | width + 1, value => UInt8.ofNat value :: littleEndian width (value / 256)

/-- The number that bytes stand for. -/
def ofLittleEndian : List UInt8 → Nat
  | [] => 0
  | byte :: bytes => byte.toNat + 256 * ofLittleEndian bytes

@[simp] theorem length_littleEndian (width value : Nat) :
    (littleEndian width value).length = width := by
  induction width generalizing value with
  | zero => rfl
  | succ width ih => simp only [littleEndian, List.length_cons, ih]

/-- Bytes read back as the number, less what the width does not hold. -/
theorem ofLittleEndian_littleEndian (width value : Nat) :
    ofLittleEndian (littleEndian width value) = value % 256 ^ width := by
  induction width generalizing value with
  | zero => simp [littleEndian, ofLittleEndian, Nat.mod_one]
  | succ width ih =>
    have low : (UInt8.ofNat value).toNat = value % 256 := UInt8.toNat_ofNat'
    rw [littleEndian, ofLittleEndian, ih, low, Nat.pow_succ', Nat.mod_mul]

/-- The low bytes of a field are the field of the same number that has no more. -/
theorem take_littleEndian (width more value : Nat) :
    (littleEndian (width + more) value).take width = littleEndian width value := by
  induction width generalizing value with
  | zero => simp [littleEndian]
  | succ width ih =>
    rw [Nat.add_right_comm, littleEndian, List.take_succ_cons, ih, littleEndian]

/-- A number that fits its field is read back. -/
theorem ofLittleEndian_littleEndian_of_lt {width value : Nat} (fits : value < 256 ^ width) :
    ofLittleEndian (littleEndian width value) = value := by
  rw [ofLittleEndian_littleEndian, Nat.mod_eq_of_lt fits]

/-- Bytes stand for a number below the bound of their width. -/
theorem ofLittleEndian_lt (bytes : List UInt8) : ofLittleEndian bytes < 256 ^ bytes.length := by
  induction bytes with
  | nil => simp [ofLittleEndian]
  | cons byte bytes ih =>
    have small : byte.toNat < 256 := byte.toNat_lt
    rw [ofLittleEndian, List.length_cons, Nat.pow_succ]
    omega

/-- Zero bytes stand for zero. -/
theorem ofLittleEndian_zeros (count : Nat) : ofLittleEndian (List.replicate count 0) = 0 := by
  induction count with
  | zero => rfl
  | succ count ih => simp [List.replicate_succ, ofLittleEndian, ih]

/-! ## Contents of a file -/

/-- The bytes found at a position, at most so many. -/
def readAt (contents : List UInt8) (position count : Nat) : List UInt8 :=
  (contents.drop position).take count

/-- A file of another length: cut, or filled up with zeros. -/
def resize (contents : List UInt8) (length : Nat) : List UInt8 :=
  contents.take length ++ List.replicate (length - contents.length) 0

/-- A file after bytes have been written at a position. Writing no byte changes nothing, even
behind the end. -/
def writeAt (contents : List UInt8) (position : Nat) (bytes : List UInt8) : List UInt8 :=
  if bytes = [] then contents
  else resize contents position ++ bytes ++ contents.drop (position + bytes.length)

@[simp] theorem length_resize (contents : List UInt8) (length : Nat) :
    (resize contents length).length = length := by
  simp only [resize, List.length_append, List.length_take, List.length_replicate]
  omega

@[simp] theorem resize_append_length (first rest : List UInt8) :
    resize (first ++ rest) first.length = first := by
  simp [resize]

@[simp] theorem resize_self (contents : List UInt8) : resize contents contents.length = contents := by
  simp [resize]

@[simp] theorem writeAt_nil (contents : List UInt8) (position : Nat) :
    writeAt contents position [] = contents := by
  simp [writeAt]

/-- Bytes written behind the first part of a file cover as much of the rest. -/
theorem writeAt_append (first rest bytes : List UInt8) :
    writeAt (first ++ rest) first.length bytes = first ++ (bytes ++ rest.drop bytes.length) := by
  by_cases empty : bytes = []
  · simp [empty]
  · simp [writeAt, empty, List.drop_append, List.append_assoc]

/-- Bytes written over the start of a file cover as much of it. -/
theorem writeAt_zero (contents bytes : List UInt8) :
    writeAt contents 0 bytes = bytes ++ contents.drop bytes.length := by
  simpa using writeAt_append [] contents bytes

/-- Bytes written in a file make it no longer than to their end. -/
theorem length_writeAt_le {contents bytes : List UInt8} {position limit : Nat}
    (short : contents.length ≤ limit) (inside : position + bytes.length ≤ limit) :
    (writeAt contents position bytes).length ≤ limit := by
  rw [writeAt]
  split
  · exact short
  · simp only [List.length_append, length_resize, List.length_drop]
    omega

/-- A byte written at the end of a length makes an empty file that long. -/
theorem writeAt_last {length : Nat} (positive : 0 < length) :
    writeAt [] (length - 1) [0] = List.replicate length 0 := by
  obtain ⟨short, rfl⟩ : ∃ short, length = short + 1 := ⟨length - 1, by omega⟩
  simp [writeAt, resize, List.replicate_succ']

/-- A file of another length keeps its first bytes. -/
theorem take_prefix_resize (contents : List UInt8) (length : Nat) :
    contents.take length <+: resize contents length := List.prefix_append _ _

/-- Bytes written at a position leave those before it. -/
theorem take_prefix_writeAt (contents : List UInt8) (position : Nat) (bytes : List UInt8) :
    contents.take position <+: writeAt contents position bytes := by
  rw [writeAt]
  split
  · exact List.take_prefix _ _
  · rw [List.append_assoc]
    exact (take_prefix_resize contents position).trans (List.prefix_append _ _)

/-- Bytes that have been written stand where they were written. -/
theorem drop_writeAt (contents : List UInt8) (position : Nat) (bytes : List UInt8)
    (some : bytes ≠ []) : (writeAt contents position bytes).drop position =
      bytes ++ contents.drop (position + bytes.length) := by
  rw [writeAt, if_neg some, List.append_assoc, List.drop_left' (length_resize contents position)]

/-- Bytes that stand before a position stay where they are when those before it do. -/
theorem drop_of_take_prefix {contents other part rest : List UInt8} {offset position : Nat}
    (kept : contents.take position <+: other) (stands : contents.drop offset = part ++ rest)
    (before : offset + part.length ≤ position) : ∃ rest', other.drop offset = part ++ rest' := by
  cases part with
  | nil => exact ⟨other.drop offset, rfl⟩
  | cons byte part =>
    have inside : offset < contents.length := by
      have length := congrArg List.length stands
      rw [List.length_drop, List.length_append, List.length_cons] at length
      omega
    have first : contents.take (offset + (byte :: part).length) =
        contents.take offset ++ (byte :: part) := by
      rw [List.take_add, stands, List.take_left]
    obtain ⟨rest', split⟩ := (List.take_prefix_take_left before).trans kept
    refine ⟨rest', ?_⟩
    rw [← split, first, List.append_assoc, List.drop_left' (List.length_take_of_le inside.le)]

/-- The remainder moved by one bit. -/
def crcShift (sum : UInt32) : UInt32 :=
  if sum &&& 1 = 1 then (sum >>> 1) ^^^ 0xEDB88320 else sum >>> 1

/-- The remainder moved over a byte. -/
def crcByte (sum : UInt32) (byte : UInt8) : UInt32 := crcShift^[8] (sum ^^^ byte.toUInt32)

/-- CRC-32, the least significant bit of each byte first. -/
def crc32 (bytes : List UInt8) : UInt32 := bytes.foldl crcByte 0xFFFFFFFF ^^^ 0xFFFFFFFF

example : crc32 [0x31, 0x32, 0x33, 0x34, 0x35, 0x36, 0x37, 0x38, 0x39] = 0xCBF43926 := by
  decide +kernel

end Bytes

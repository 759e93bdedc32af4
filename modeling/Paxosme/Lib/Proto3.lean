import Mathlib.Data.List.Basic

/-!
# Messages of numbers and bytes

The proto3 encoding of a message whose fields are unsigned numbers and bytes, in the order of
their numbers. A field stands behind a tag, its number and its kind in one byte; one that is zero
or empty is left out. What is written is read back field by field, for the tag that comes next
tells whether a field is there.
-/

namespace Proto3

/-- The groups of seven bits of a number, lowest first, all but the last one marked. -/
def groups : Nat → Nat → List UInt8
  | 0, number => [UInt8.ofNat number]
  | more + 1, number =>
    if number < 128 then [UInt8.ofNat number]
    else UInt8.ofNat (number % 128 + 128) :: groups more (number / 128)

/-- A number. -/
def varint (number : Nat) : List UInt8 := groups number number

/-- The number at the start of some bytes, and the bytes behind it. -/
def readVarint : List UInt8 → Option (Nat × List UInt8)
  | [] => none
  | byte :: bytes =>
    if byte.toNat < 128 then some (byte.toNat, bytes)
    else (readVarint bytes).map fun (high, rest) => (byte.toNat - 128 + 128 * high, rest)

theorem readVarint_groups {more number : Nat} (enough : number ≤ more) (rest : List UInt8) :
    readVarint (groups more number ++ rest) = some (number, rest) := by
  induction more generalizing number with
  | zero =>
    obtain rfl : number = 0 := by omega
    rfl
  | succ more ih =>
    rw [groups]
    split
    · rename_i small
      have byte : (UInt8.ofNat number).toNat = number := by
        rw [UInt8.toNat_ofNat']
        omega
      rw [List.singleton_append, readVarint, byte, if_pos small]
    · rename_i large
      have byte : (UInt8.ofNat (number % 128 + 128)).toNat = number % 128 + 128 := by
        rw [UInt8.toNat_ofNat']
        omega
      have whole : number % 128 + 128 - 128 + 128 * (number / 128) = number := by omega
      rw [List.cons_append, readVarint, byte, if_neg (by omega), ih (by omega), Option.map_some]
      exact congrArg (fun total => some (total, rest)) whole

/-- A number is read back. -/
theorem readVarint_varint (number : Nat) (rest : List UInt8) :
    readVarint (varint number ++ rest) = some (number, rest) := readVarint_groups (Nat.le_refl _) rest

/-- The kinds of fields. -/
inductive Kind where
  | uint
  | bytes
  deriving DecidableEq, Repr

/-- What a field holds. -/
inductive Value where
  | uint (number : Nat)
  | bytes (content : List UInt8)
  deriving DecidableEq, Repr

namespace Value

/-- The kind of a field that holds a value. -/
def kind : Value → Kind
  | .uint _ => .uint
  | .bytes _ => .bytes

/-- What stands behind the tag of a field. -/
def encode : Value → List UInt8
  | .uint number => varint number
  | .bytes content => varint content.length ++ content

end Value

namespace Kind

/-- The wire type of a kind. -/
def wireType : Kind → Nat
  | .uint => 0
  | .bytes => 2

/-- What a field holds that is not there. -/
def unset : Kind → Value
  | .uint => .uint 0
  | .bytes => .bytes []

/-- What a field holds that is there, and the bytes behind it. -/
def decode (kind : Kind) (message : List UInt8) : Option (Value × List UInt8) :=
  match kind with
  | .uint => (readVarint message).map fun (number, rest) => (.uint number, rest)
  | .bytes => (readVarint message).map fun (count, rest) =>
    (.bytes (rest.take count), rest.drop count)

/-- The tag of a field. -/
def tag (kind : Kind) (field : Nat) : UInt8 := UInt8.ofNat (8 * field + kind.wireType)

theorem decode_encode (value : Value) (rest : List UInt8) :
    value.kind.decode (value.encode ++ rest) = some (value, rest) := by
  cases value with
  | uint number =>
    change (readVarint (varint number ++ rest)).map _ = _
    rw [readVarint_varint]
    rfl
  | bytes content =>
    change (readVarint ((varint content.length ++ content) ++ rest)).map _ = _
    rw [List.append_assoc, readVarint_varint, Option.map_some]
    simp only [List.take_left, List.drop_left]

theorem wireType_lt (kind : Kind) : kind.wireType < 8 := by
  cases kind with
  | uint => decide
  | bytes => decide

theorem toNat_tag (kind : Kind) {field : Nat} (single : field < 32) :
    (kind.tag field).toNat = 8 * field + kind.wireType := by
  have small := kind.wireType_lt
  rw [tag, UInt8.toNat_ofNat']
  omega

end Kind

/-- The fields of a message, numbered from one on. -/
def encode : Nat → List Value → List UInt8
  | _, [] => []
  | field, value :: values =>
    (if value = value.kind.unset then [] else value.kind.tag field :: value.encode) ++
      encode (field + 1) values

/-- What the fields of a message hold, whose kinds are known. -/
def decode : Nat → List Kind → List UInt8 → Option (List Value)
  | _, [], _ => some []
  | field, kind :: kinds, message =>
    if message.head? = some (kind.tag field) then do
      let (value, rest) ← kind.decode message.tail
      let values ← decode (field + 1) kinds rest
      pure (value :: values)
    else (decode (field + 1) kinds message).map fun values => kind.unset :: values

/-- The tags of a message are those of its fields. -/
theorem head_encode {field : Nat} {values : List Value} (single : field + values.length ≤ 32) :
    ∀ first ∈ (encode field values).head?, 8 * field ≤ first.toNat := by
  induction values generalizing field with
  | nil => exact fun _ none => by cases none
  | cons value values ih =>
    rw [List.length_cons] at single
    rw [encode]
    split
    · intro first same
      have later := ih (by omega) first same
      omega
    · intro first same
      obtain rfl := Option.mem_some.mp same
      rw [Kind.toNat_tag _ (by omega)]
      omega

/-- A message is read back. -/
theorem decode_encode {field : Nat} {values : List Value} (single : field + values.length ≤ 32) :
    decode field (values.map Value.kind) (encode field values) = some values := by
  induction values generalizing field with
  | nil => rfl
  | cons value values ih =>
    rw [List.length_cons] at single
    rw [List.map_cons, decode, encode]
    split
    · rename_i unset
      have other : (encode (field + 1) values).head? ≠ some (value.kind.tag field) := by
        intro same
        have later := head_encode (by omega) _ same
        have small := value.kind.wireType_lt
        rw [Kind.toNat_tag _ (by omega)] at later
        omega
      rw [List.nil_append, if_neg other, ih (by omega), Option.map_some, ← unset]
    · rw [List.cons_append, List.head?_cons, if_pos rfl, List.tail_cons, Kind.decode_encode,
        Option.bind_eq_bind, Option.bind_some]
      dsimp only
      rw [ih (by omega)]
      rfl

end Proto3

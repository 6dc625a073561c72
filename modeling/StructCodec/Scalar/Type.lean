/-!
# Scalar types

The fixed-width types that a field of a format can have: eight integer types,
given by signedness and width, and the boolean type.  Each has a one-character
tag, by which formats name it, and a range of representable integers.
-/

namespace StructCodec

/-- Whether an integer type represents negative integers. -/
inductive Signedness where
  | signed
  | unsigned
deriving DecidableEq

/-- The widths that an integer type can have. -/
inductive IntegerWidth where
  | one
  | two
  | four
  | eight
deriving DecidableEq

/-- The number of bytes that a width stands for. -/
def IntegerWidth.bytes : IntegerWidth → Nat
  | .one => 1
  | .two => 2
  | .four => 4
  | .eight => 8

/-- A fixed-width integer type. -/
structure IntegerType where
  signedness : Signedness
  width : IntegerWidth
deriving DecidableEq

/-- The type of one field. -/
inductive ScalarType where
  | integer (type : IntegerType)
  | boolean
deriving DecidableEq

/-- The three sorts of scalar types. -/
inductive ScalarKind where
  | signedInteger
  | unsignedInteger
  | boolean
deriving DecidableEq

/-- The name under which a sort of types is printed. -/
def ScalarKind.name : ScalarKind → String
  | .signedInteger => "signed-int"
  | .unsignedInteger => "unsigned-int"
  | .boolean => "bool"

namespace IntegerType

/-- The number of bits of an integer type. -/
def bits (type : IntegerType) : Nat :=
  8 * type.width.bytes

/-- The smallest integer that an integer type represents. -/
def minimum (type : IntegerType) : Int :=
  match type.signedness with
  | .signed => -(1 <<< (type.bits - 1))
  | .unsigned => 0

/-- The largest integer that an integer type represents. -/
def maximum (type : IntegerType) : Int :=
  match type.signedness with
  | .signed => (1 <<< (type.bits - 1)) - 1
  | .unsigned => (1 <<< type.bits) - 1

end IntegerType

namespace ScalarType

/-- Every scalar type once, in the order in which the types are listed. -/
def all : List ScalarType :=
  [.integer ⟨.signed, .one⟩, .integer ⟨.unsigned, .one⟩,
    .integer ⟨.signed, .two⟩, .integer ⟨.unsigned, .two⟩,
    .integer ⟨.signed, .four⟩, .integer ⟨.unsigned, .four⟩,
    .integer ⟨.signed, .eight⟩, .integer ⟨.unsigned, .eight⟩,
    .boolean]

/-- The sort that a scalar type belongs to. -/
def kind : ScalarType → ScalarKind
  | .integer ⟨.signed, _⟩ => .signedInteger
  | .integer ⟨.unsigned, _⟩ => .unsignedInteger
  | .boolean => .boolean

/-- The number of bytes that a scalar of the type occupies. -/
def width : ScalarType → Nat
  | .integer type => type.width.bytes
  | .boolean => 1

/-- The number of bits that a scalar of the type occupies. -/
def bits (type : ScalarType) : Nat :=
  8 * type.width

/-- Signed types are the integer types that represent negative integers. -/
def isSigned : ScalarType → Bool
  | .integer ⟨.signed, _⟩ => true
  | .integer ⟨.unsigned, _⟩ => false
  | .boolean => false

/-- The smallest representable integer; a boolean counts from 0. -/
def minimum : ScalarType → Int
  | .integer type => type.minimum
  | .boolean => 0

/-- The largest representable integer; a boolean counts to 1. -/
def maximum : ScalarType → Int
  | .integer type => type.maximum
  | .boolean => 1

/-- An integer is in range if the type represents it. -/
def InRange (type : ScalarType) (number : Int) : Prop :=
  type.minimum ≤ number ∧ number ≤ type.maximum

instance (type : ScalarType) (number : Int) : Decidable (type.InRange number) :=
  inferInstanceAs (Decidable (_ ∧ _))

/-- The name of a scalar type in messages and descriptions. -/
def name : ScalarType → String
  | .integer ⟨.signed, .one⟩ => "INT8"
  | .integer ⟨.unsigned, .one⟩ => "UINT8"
  | .integer ⟨.signed, .two⟩ => "INT16"
  | .integer ⟨.unsigned, .two⟩ => "UINT16"
  | .integer ⟨.signed, .four⟩ => "INT32"
  | .integer ⟨.unsigned, .four⟩ => "UINT32"
  | .integer ⟨.signed, .eight⟩ => "INT64"
  | .integer ⟨.unsigned, .eight⟩ => "UINT64"
  | .boolean => "BOOL"

/-- The character by which a format names a scalar type: a lower-case letter
for a signed type and the same letter in upper case for the unsigned one. -/
def tag : ScalarType → Char
  | .integer ⟨.signed, .one⟩ => 'b'
  | .integer ⟨.unsigned, .one⟩ => 'B'
  | .integer ⟨.signed, .two⟩ => 'h'
  | .integer ⟨.unsigned, .two⟩ => 'H'
  | .integer ⟨.signed, .four⟩ => 'i'
  | .integer ⟨.unsigned, .four⟩ => 'I'
  | .integer ⟨.signed, .eight⟩ => 'q'
  | .integer ⟨.unsigned, .eight⟩ => 'Q'
  | .boolean => '?'

/-- The scalar type that a name stands for. -/
def ofName? (name : String) : Option ScalarType :=
  all.find? (fun type => type.name == name)

/-- The scalar type that a tag stands for. -/
def ofTag? (tag : Char) : Option ScalarType :=
  all.find? (fun type => type.tag == tag)

/-- Every scalar type is listed. -/
theorem mem_all (type : ScalarType) : type ∈ all := by
  cases type with
  | integer type =>
      obtain ⟨signedness, width⟩ := type
      cases signedness <;> cases width <;> decide
  | boolean => decide

/-- The tag of a type stands for that type. -/
@[simp] theorem ofTag?_tag (type : ScalarType) : ofTag? type.tag = some type := by
  cases type with
  | integer type =>
      obtain ⟨signedness, width⟩ := type
      cases signedness <;> cases width <;> decide
  | boolean => decide

/-- A tag stands for a type exactly if it is the tag of that type. -/
theorem ofTag?_eq_some_iff {tag : Char} {type : ScalarType} :
    ofTag? tag = some type ↔ type.tag = tag := by
  constructor
  · intro found
    have holds := List.find?_some found
    simpa using holds
  · intro equality
    subst equality
    exact ofTag?_tag type

/-- A scalar occupies at least one byte. -/
theorem width_pos (type : ScalarType) : 0 < type.width := by
  cases type with
  | integer type =>
      obtain ⟨signedness, width⟩ := type
      cases width <;> simp [ScalarType.width, IntegerWidth.bytes]
  | boolean => decide

end ScalarType

end StructCodec

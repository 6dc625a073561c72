import StructCodec.Scalar.Codec
import StructCodec.Scalar.Coercion

/-!
# Output slots

A slot says how the datum of one field is delivered.  Callers ask for slots by
slot types, and may ask for something that is no slot type.
-/

namespace StructCodec

/-- How one datum is delivered. -/
inductive Slot where
  /-- As it was decoded. -/
  | asDecoded
  /-- As an integer, where truth counts as 1. -/
  | integer
  /-- As a boolean, which the field must hold. -/
  | boolean
  /-- As a datum of a scalar type. -/
  | scalar (type : ScalarType)
deriving DecidableEq

/-- A slot is boolean if the field must hold a boolean. -/
def Slot.isBoolean : Slot → Bool
  | .boolean | .scalar .boolean => true
  | _ => false

/-- What a caller asks for in place of a slot. -/
inductive SlotRequest where
  | slot (slot : Slot)
  /-- A class that is no slot type, by its name. -/
  | className (name : String)
  | value (value : Value)

namespace SlotRequest

/-- The form in which messages show what was asked for. -/
def shown : SlotRequest → String
  | .slot .asDecoded => "None"
  | .slot .integer => "<class 'int'>"
  | .slot .boolean => "<class 'bool'>"
  | .slot (.scalar type) => Value.showScalarType type
  | .className name => "<class '" ++ name ++ "'>"
  | .value given => given.shown

/-- Whether messages can show what was asked for. -/
def isWritable : SlotRequest → Bool
  | .slot _ | .className _ => true
  | .value given => given.isWritable

/-- The slot that was asked for, if it is one. -/
def slot? : SlotRequest → Option Slot
  | .slot asked => some asked
  | .value .nothing => some .asDecoded
  | _ => none

end SlotRequest

end StructCodec

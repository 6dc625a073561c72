import StructCodec.Number.Decimal
import StructCodec.Scalar.Datum
import StructCodec.Text.Quoted

/-!
# Values

What callers hand over to be packed, validated or used as an argument: values
whose type is known only when the program runs.  Integers, booleans, scalars and
objects that stand for an integer can be packed; the others exist to be refused
with a message that shows them.
-/

namespace StructCodec

/-- A floating-point number, held as the text that identifies it. -/
structure FloatLiteral where
  text : String
deriving DecidableEq

/-- A value whose type is known only when the program runs. -/
inductive Value where
  | nothing
  | boolean (truth : Bool)
  | integer (number : Int)
  | float (literal : FloatLiteral)
  | text (content : String)
  | bytes (content : List UInt8)
  | list (items : List Value)
  /-- A register, of which only the integer it stands for is known. -/
  | register (number : Int)
  | scalar (scalar : Scalar)

/-- A datum as a value. -/
def Datum.toValue : Datum → Value
  | .integer number => .integer number
  | .boolean truth => .boolean truth

namespace Value

/-- The name of a value's type in messages. -/
def typeName : Value → String
  | .nothing => "NoneType"
  | .boolean _ => "bool"
  | .integer _ => "int"
  | .float _ => "float"
  | .text _ => "str"
  | .bytes _ => "bytes"
  | .list _ => "list"
  | .register _ => "Register"
  | .scalar _ => "Scalar"

/-- The written form of a truth value. -/
def showTruth (truth : Bool) : String :=
  if truth then "True" else "False"

/-- The written form of a datum. -/
def showDatum : Datum → String
  | .integer number => toString number
  | .boolean truth => showTruth truth

/-- The written form of a scalar type with its kind and width. -/
def showScalarType (type : ScalarType) : String :=
  let kind := match type.kind with
    | .signedInteger => "SIGNED_INT"
    | .unsignedInteger => "UNSIGNED_INT"
    | .boolean => "BOOL"
  "<ScalarType." ++ type.name ++ ": (<ScalarKind." ++ kind ++ ": '" ++ type.kind.name ++
    "'>, " ++ toString type.width ++ ")>"

mutual

/-- The form in which messages show a value. -/
def shown : Value → String
  | .nothing => "None"
  | .boolean truth => showTruth truth
  | .integer number => toString number
  | .float literal => literal.text
  | .text content => Text.quoted content
  | .bytes content => Text.quotedBytes content
  | .list items => "[" ++ String.intercalate ", " (shownList items) ++ "]"
  | .register number => "Register(" ++ toString number ++ ")"
  | .scalar declared =>
      "Scalar(type=" ++ showScalarType declared.type ++ ", value=" ++
        showDatum declared.datum ++ ")"

/-- The forms in which messages show the items of a list. -/
def shownList : List Value → List String
  | [] => []
  | item :: items => item.shown :: shownList items

end

mutual

/-- Whether messages can show a value: all the integers in it can be written.  A scalar
holds an integer of a few bytes. -/
def isWritable : Value → Bool
  | .integer number | .register number => Decimal.isWritable number
  | .list items => areWritable items
  | .nothing | .boolean _ | .float _ | .text _ | .bytes _ | .scalar _ => true

/-- Whether messages can show the items of a list. -/
def areWritable : List Value → Bool
  | [] => true
  | item :: items => item.isWritable && areWritable items

end

/-- The text of a value: text itself, and what messages show of anything else. -/
def toText : Value → String
  | .text content => content
  | value => value.shown

/-- The integer that a value stands for, if it is integral: a boolean counts as
0 or 1. -/
def integral? : Value → Option Int
  | .boolean truth => some (if truth then 1 else 0)
  | .integer number => some number
  | .register number => some number
  | _ => none

/-- What stands for an integer is shown by it, if it is no truth value. -/
theorem isWritable_of_integral {value : Value} {number : Int}
    (integral : value.integral? = some number) :
    Decimal.isWritable number = value.isWritable := by
  cases value with
  | boolean truth =>
      cases integral
      cases truth <;> exact Decimal.isWritable_of_natAbs_le (by decide)
  | integer | register =>
      cases integral
      rfl
  | nothing | float | text | bytes | list | scalar => cases integral

end Value

end StructCodec

import StructCodec.Number.Numeral
import StructCodec.Number.Rounding
import StructCodec.Record.Class
import StructCodec.Record.Problem
import StructCodec.Value.Equality

/-!
# Checking the values of fields

An integer field takes what stands for an integer: integers and booleans,
floating-point numbers without a fractional part, and numerals.  A boolean field
takes what stands for a truth value, and any other field any value.  Bounds are
checked last.  Only the bounds of integer fields are integers of any size: when any
other bound is exceeded, it is reported as a 64-bit integer or else as a floating-point
number, and cannot be reported at all if it is too large for that.
-/

namespace StructCodec

namespace FieldProblem

/-- A floating-point number that is an integer, which must need fewer than 64 bits. -/
def readIntegral (number : Int) : Except FieldProblem Int :=
  if -(1 <<< 63) < number ∧ number < 1 <<< 63 then .ok number else .error .tooLarge

/-- A floating-point number as an integer. -/
def readFloat (number : Float) : Except FieldProblem Int :=
  match Binary64.exactValue number with
  | .quotient numerator denominator =>
      match (ExactValue.quotient numerator denominator).integer? with
      | some value => readIntegral value
      | none => .error .fractional
  | _ => .error .notFinite

/-- A register as an integer: the floating-point number nearest to the integer that
it stands for is read in its place. -/
def readRegister (number : Int) : Except FieldProblem Int :=
  match Binary64.nearestInt? number with
  | some nearest => readIntegral nearest
  | none => .error .notInteger

/-- Text as an integer. -/
def readNumeral (text : String) : Except FieldProblem Int :=
  match Numeral.readInt text.toList with
  | .ok number => .ok number
  | .error .malformed => .error .notIntegerText
  | .error .tooLong => .error .tooLarge

/-- A value as an integer.  Bytes are read as text. -/
def readInteger : Value → Except FieldProblem Int
  | .integer number => .ok number
  | .boolean truth => .ok (if truth then 1 else 0)
  | .float literal => readFloat literal.toFloat
  | .text content => readNumeral content
  | .bytes content =>
      match String.fromUTF8? ⟨content.toArray⟩ with
      | some text => readNumeral text
      | none => .error .notIntegerText
  | .register number => readRegister number
  | .nothing | .list _ | .scalar _ => .error .notInteger

/-- The words for a truth value, in lower case. -/
def truthOfWord (word : String) : Option Bool :=
  if ["0", "off", "f", "false", "n", "no"].contains word then some false
  else if ["1", "on", "t", "true", "y", "yes"].contains word then some true
  else none

/-- Text as a truth value, whatever the case of its ASCII letters. -/
def readWord (text : String) : Except FieldProblem Bool :=
  match truthOfWord (String.ofList (text.toList.map Char.toLower)) with
  | some truth => .ok truth
  | none => .error .notBooleanText

/-- An integer as a truth value; one that needs more than 64 bits is no truth value
to speak of. -/
def readIntegerTruth (number : Int) : Except FieldProblem Bool :=
  if number = 0 then .ok false
  else if number = 1 then .ok true
  else if -(1 <<< 63) ≤ number ∧ number < 1 <<< 63 then .error .notBooleanText
  else .error .notBoolean

/-- A floating-point number as a truth value: it must stand for an integer. -/
def readFloatTruth (number : Float) : Except FieldProblem Bool :=
  match readFloat number with
  | .ok value => readIntegerTruth value
  | .error _ => .error .notBoolean

/-- A value as a truth value.  Bytes are read as text, and a register as the
integer that it stands for. -/
def readTruth : Value → Except FieldProblem Bool
  | .boolean truth => .ok truth
  | .integer number => readIntegerTruth number
  | .float literal => readFloatTruth literal.toFloat
  | .text content => readWord content
  | .bytes content =>
      match String.fromUTF8? ⟨content.toArray⟩ with
      | some text => readWord text
      | none => .error .notBooleanText
  | .register number => readIntegerTruth number
  | .nothing | .list _ | .scalar _ => .error .notBoolean

end FieldProblem

namespace FieldDeclaration

/-- Checks an integer against the upper bound of an integer field. -/
def checkLargest (field : FieldDeclaration) (number : Int) : Except FieldProblem Unit :=
  match field.maximum? with
  | some maximum => if maximum < number then .error (.aboveMaximum maximum) else .ok ()
  | none => .ok ()

/-- Checks an integer against the lower bound of an integer field. -/
def checkSmallest (field : FieldDeclaration) (number : Int) : Except FieldProblem Unit :=
  match field.minimum? with
  | some minimum => if number < minimum then .error (.belowMinimum minimum) else .ok ()
  | none => .ok ()

/-- A bound as it is reported: as it is if it fits 64 bits, else as the shortest
decimal of the nearest floating-point number. -/
def reportedBound? (bound : Int) : Option Int :=
  if -(1 <<< 63) ≤ bound ∧ bound < 1 <<< 63 then some bound else Binary64.shortestInt? bound

/-- Refuses a value that exceeds a bound, if the bound can be reported. -/
def exceeds (bound : Bound) (limit : Int) (value : Value) : ValueRefusal :=
  match reportedBound? limit, bound with
  | some reported, .minimum => .problem (.belowMinimum reported)
  | some reported, .maximum => .problem (.aboveMaximum reported)
  | none, _ => .incomparable ⟨bound, value⟩

/-- Checks a value against the lower bound of a field that is no integer field. -/
def checkMinimum (field : FieldDeclaration) (value : Value) : Except ValueRefusal Unit :=
  match field.minimum?, value.exactValue? with
  | none, _ => .ok ()
  | some _, none => .error (.incomparable ⟨.minimum, value⟩)
  | some minimum, some exact =>
      if exact.atLeast minimum then .ok () else .error (exceeds .minimum minimum value)

/-- Checks a value against the upper bound of a field that is no integer field. -/
def checkMaximum (field : FieldDeclaration) (value : Value) : Except ValueRefusal Unit :=
  match field.maximum?, value.exactValue? with
  | none, _ => .ok ()
  | some _, none => .error (.incomparable ⟨.maximum, value⟩)
  | some maximum, some exact =>
      if exact.atMost maximum then .ok () else .error (exceeds .maximum maximum value)

/-- A value as an integer field holds it: the upper bound is checked first. -/
def validateInteger (field : FieldDeclaration) (value : Value) : Except FieldProblem Value := do
  let number ← FieldProblem.readInteger value
  field.checkLargest number
  field.checkSmallest number
  return .integer number

/-- A value as a field holds it.  Unless it is an integer field, its lower bound is
checked first. -/
def validate (field : FieldDeclaration) (value : Value) : Except ValueRefusal Value :=
  match field.annotation with
  | .integer => (field.validateInteger value).mapError .problem
  | .boolean => do
      let truth ← (FieldProblem.readTruth value).mapError .problem
      field.checkMinimum (.boolean truth)
      field.checkMaximum (.boolean truth)
      return .boolean truth
  | _ => do
      field.checkMinimum value
      field.checkMaximum value
      return value

end FieldDeclaration

end StructCodec

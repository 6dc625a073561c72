import StructCodec.Value

/-!
# Narrowing integers

Fitting an integer of any size into the range of a scalar type.  Wrapping keeps
the low-order bits, read in two's complement; the strict policy refuses what is
out of range.  An integer in range is never changed.
-/

namespace StructCodec

/-- What happens to an integer that is out of range. -/
inductive NarrowingPolicy where
  | wrap
  | strict
deriving DecidableEq

/-- Why a value cannot stand for a scalar of some type. -/
inductive ValueFault where
  /-- An integer is out of the range of its type. -/
  | outOfRange (number : Int) (type : ScalarType)
  /-- A scalar is declared with another type than its field's. -/
  | typeMismatch (declared expected : ScalarType)
  /-- A value stands for no integer. -/
  | notIntegral (value : Value) (expected : ScalarType)
  /-- A scalar is declared boolean and its value is no boolean. -/
  | notBoolean (value : Value)
  /-- A scalar is declared with an integer type and its value is no integer. -/
  | notInteger (value : Value) (declared : ScalarType)

namespace ValueFault

/-- Whether the message of a fault can be written: the value that it shows can. -/
def isWritable : ValueFault → Bool
  | .outOfRange number _ => Decimal.isWritable number
  | .notIntegral value _ => value.isWritable
  | .typeMismatch .. | .notBoolean _ | .notInteger .. => true

/-- What a fault says once its message can be written. -/
def text : ValueFault → String
  | .outOfRange number type =>
      s!"Value {number} out of range for {type.name} [{type.minimum}, {type.maximum}]"
  | .typeMismatch declared expected =>
      s!"{declared.name} scalar does not match {expected.name} field"
  | .notIntegral value expected =>
      s!"Cannot coerce {value.typeName} value {value.shown} to {expected.name}"
  | .notBoolean value => s!"BOOL scalar requires a bool value, got {value.typeName}"
  | .notInteger value declared =>
      s!"{declared.name} scalar requires an int value, got {value.typeName}"

/-- The message of a fault. -/
def message (fault : ValueFault) : String :=
  Decimal.message fault.isWritable fault.text

/-- Whether the fault is that an integer is out of range. -/
def isOutOfRange : ValueFault → Bool
  | .outOfRange .. => true
  | _ => false

end ValueFault

namespace ScalarType

/-- The integer that the low-order bits of an integer stand for in two's
complement. -/
def wrap (type : ScalarType) (number : Int) : Int :=
  let residue := number % (1 <<< type.bits)
  if type.isSigned ∧ type.maximum < residue then residue - (1 <<< type.bits) else residue

/-- An integer fitted into the range of a scalar type. -/
def narrow (policy : NarrowingPolicy) (type : ScalarType) (number : Int) :
    Except ValueFault Int :=
  if type.InRange number then
    .ok number
  else
    match policy with
    | .wrap => .ok (type.wrap number)
    | .strict => .error (.outOfRange number type)

/-- An integer in range is kept under either policy. -/
theorem narrow_of_inRange (policy : NarrowingPolicy) {type : ScalarType} {number : Int}
    (inRange : type.InRange number) : type.narrow policy number = .ok number := by
  simp [narrow, inRange]

/-- A datum fitted into the range of a scalar type: a boolean is in every range
and stays a boolean. -/
def narrowDatum (policy : NarrowingPolicy) (type : ScalarType) :
    Datum → Except ValueFault Datum
  | .boolean truth => .ok (.boolean truth)
  | .integer number => (type.narrow policy number).map .integer

end ScalarType

end StructCodec

/-!
# Classes of errors

The classes under which the library reports errors form a tree: whoever handles
a class handles its descendants too.
-/

namespace StructCodec

/-- A class of errors. -/
inductive ErrorClass where
  | base
  | format
  | unknownFormatChar
  | schema
  | encode
  | insufficientValues
  | excessValues
  | unsupportedValueType
  | valueOutOfRange
  | decode
  | arityMismatch
  | insufficientOutputSlots
  | bufferUnderrun
  | slotType
deriving DecidableEq

namespace ErrorClass

/-- Every class once, each after its parent. -/
def all : List ErrorClass :=
  [.base, .format, .unknownFormatChar, .schema, .encode, .insufficientValues,
    .excessValues, .unsupportedValueType, .valueOutOfRange, .decode, .arityMismatch,
    .insufficientOutputSlots, .bufferUnderrun, .slotType]

/-- The name of a class. -/
def name : ErrorClass → String
  | .base => "StructPackerError"
  | .format => "FormatError"
  | .unknownFormatChar => "UnknownFormatCharError"
  | .schema => "SchemaError"
  | .encode => "EncodeError"
  | .insufficientValues => "InsufficientValuesError"
  | .excessValues => "ExcessValuesError"
  | .unsupportedValueType => "UnsupportedValueTypeError"
  | .valueOutOfRange => "ValueOutOfRangeError"
  | .decode => "DecodeError"
  | .arityMismatch => "ArityMismatchError"
  | .insufficientOutputSlots => "InsufficientOutputSlotsError"
  | .bufferUnderrun => "BufferUnderrunError"
  | .slotType => "SlotTypeError"

/-- The class with a given name. -/
def ofName? (name : String) : Option ErrorClass :=
  all.find? (fun errorClass => errorClass.name == name)

/-- The ancestors of a class, nearest first. -/
def ancestors : ErrorClass → List ErrorClass
  | .base => []
  | .format | .schema | .encode | .decode | .valueOutOfRange => [.base]
  | .unknownFormatChar => [.format, .base]
  | .insufficientValues | .excessValues | .unsupportedValueType => [.encode, .base]
  | .arityMismatch | .bufferUnderrun | .slotType => [.decode, .base]
  | .insufficientOutputSlots => [.arityMismatch, .decode, .base]

end ErrorClass

/-- The sort of an error: one of the classes of the library, or one of the
general sorts of errors that any program can meet. -/
inductive ErrorKind where
  | library (errorClass : ErrorClass)
  | invalidArgument
  | wrongType
  | unknownKey
  | outOfBounds
  | overflow
  | outOfMemory
  | attribute
  | validation
  | noRecord
deriving DecidableEq

/-- The kind of an error that is raised with a message: if the message cannot be written,
that is the error. -/
def ErrorKind.raised (writable : Bool) (kind : ErrorKind) : ErrorKind :=
  if writable then kind else .invalidArgument

@[simp] theorem ErrorKind.raised_true (kind : ErrorKind) : raised true kind = kind := rfl

@[simp] theorem ErrorKind.raised_false (kind : ErrorKind) :
    raised false kind = .invalidArgument := rfl

end StructCodec

import StructCodec.Bytes.Order
import StructCodec.Bytes.Reader
import StructCodec.ErrorClass
import StructCodec.Slot

/-!
# Errors of packing and unpacking

Every way in which reading a format, packing and unpacking can fail, as causes
that hold what the message speaks of.  Each cause has a kind and a message, which are
others if the message cannot be written.
-/

namespace StructCodec

/-- The class under which a fault of a value is reported. -/
def ValueFault.errorClass (fault : ValueFault) : ErrorClass :=
  if fault.isOutOfRange then .valueOutOfRange else .unsupportedValueType

/-- The kind of a fault of a value. -/
def ValueFault.kind (fault : ValueFault) : ErrorKind :=
  .raised fault.isWritable (.library fault.errorClass)

namespace ValueFault

variable {fault : ValueFault}

theorem kind_of_isWritable (writable : fault.isWritable = true) :
    fault.kind = .library fault.errorClass := by
  rw [kind, writable, ErrorKind.raised_true]

theorem kind_of_not_isWritable (unwritable : fault.isWritable = false) :
    fault.kind = .invalidArgument := by
  rw [kind, unwritable, ErrorKind.raised_false]

theorem message_of_not_isWritable (unwritable : fault.isWritable = false) :
    fault.message = Decimal.limitMessage := by
  rw [message, unwritable, Decimal.message_false]

end ValueFault

/-- The kind of a fault of a scalar codec. -/
def ScalarCodecFault.kind : ScalarCodecFault → ErrorKind
  | .negativeForUnsigned | .tooBig => .overflow
  | .noByte => .outOfBounds

/-- The kind of a failed step of a reader. -/
def ReadFault.kind : ReadFault → ErrorKind
  | .negativeCount _ => .invalidArgument
  | .pastEnd shortage => .raised shortage.isWritable .outOfBounds

/-- Why reading a format, packing or unpacking fails. -/
inductive CodecError where
  /-- The narrowing policy is neither of the two. -/
  | invalidNarrowing (given : Value)
  /-- Whether to ignore whitespace is not said by a boolean. -/
  | invalidIgnoreWhitespace (given : Value)
  /-- A format is no text. -/
  | formatNotText (given : Value)
  /-- A character of a format is no directive. -/
  | unknownFormatChar (char : Char) (position : Nat) (format : String)
  /-- No byte order has the given marker. -/
  | unknownByteOrder (given : Value)
  /-- No scalar type has the given tag. -/
  | unknownTag (tag : String)
  /-- A value stands for no scalar. -/
  | value (fault : ValueFault)
  /-- Bytes or integers do not fit a scalar type. -/
  | scalarCodec (fault : ScalarCodecFault)
  /-- The value of a field stands for no datum of its type. -/
  | field (index : Nat) (type : ScalarType) (fault : ValueFault)
  /-- A field has no value left. -/
  | insufficientValues (format : String) (provided : Nat)
  /-- Values are left after the last field. -/
  | excessValues (format : String) (fields provided : Nat)
  /-- A negative number of slots is declared. -/
  | negativeArity (arity : Int)
  /-- More slots are declared than any list can have. -/
  | arityTooLarge
  /-- More slots are declared than there is memory for. -/
  | arityBeyondMemory
  /-- Text or bytes are given for a shape. -/
  | textualShape (given : Value)
  /-- Something without items is given for a shape. -/
  | shapeNotIterable (given : Value)
  /-- A shape holds something that is no slot type. -/
  | unsupportedSlot (index : Nat) (request : SlotRequest)
  /-- A format has more fields than slots are declared. -/
  | insufficientSlots (format : String) (slots : Nat)
  /-- The buffer ends before a pad byte. -/
  | truncatedPad (shortage : Shortage)
  /-- The buffer ends within a field. -/
  | truncatedField (index : Nat) (type : ScalarType) (shortage : Shortage)
  /-- A boolean slot receives an integer. -/
  | slotNotBoolean (index : Nat)
  /-- A datum does not fit the type of its slot. -/
  | slotValue (index : Nat) (fault : ValueFault)
  /-- A format has fewer fields than slots are declared. -/
  | arityMismatch (format : String) (produced declared : Nat)

namespace CodecError

/-- Whether the message of an error can be written: what the caller has given and the message
shows can.  Whatever else a message shows are positions, counts and integers of a few bytes. -/
def isWritable : CodecError → Bool
  | .invalidNarrowing given | .unknownByteOrder given | .textualShape given => given.isWritable
  | .value fault | .field _ _ fault | .slotValue _ fault => fault.isWritable
  | .negativeArity arity => Decimal.isWritable arity
  | .unsupportedSlot _ request => request.isWritable
  | _ => true

/-- The kind under which an error is reported once its message can be written. -/
def reportedKind : CodecError → ErrorKind
  | .invalidNarrowing _ | .invalidIgnoreWhitespace _ | .unknownByteOrder _ => .invalidArgument
  | .formatNotText _ | .shapeNotIterable _ => .wrongType
  | .unknownFormatChar .. => .library .unknownFormatChar
  | .unknownTag _ => .unknownKey
  | .value fault | .field _ _ fault | .slotValue _ fault => .library fault.errorClass
  | .scalarCodec fault => fault.kind
  | .insufficientValues .. => .library .insufficientValues
  | .excessValues .. => .library .excessValues
  | .negativeArity _ | .textualShape _ | .unsupportedSlot .. => .library .schema
  | .arityTooLarge => .overflow
  | .arityBeyondMemory => .outOfMemory
  | .insufficientSlots .. => .library .insufficientOutputSlots
  | .truncatedPad _ | .truncatedField .. => .library .bufferUnderrun
  | .slotNotBoolean _ => .library .slotType
  | .arityMismatch .. => .library .arityMismatch

/-- The kind of an error. -/
def kind (error : CodecError) : ErrorKind :=
  .raised error.isWritable error.reportedKind

/-- What an error says once its message can be written. -/
def text : CodecError → String
  | .invalidNarrowing given =>
      s!"narrowing must be 'wrap' or 'strict', got {given.shown}"
  | .invalidIgnoreWhitespace given =>
      s!"ignore_whitespace must be a bool, got {given.typeName}"
  | .formatNotText (.list _) => "unhashable type: 'list'"
  | .formatNotText given => s!"Format must be a str, got {given.typeName}"
  | .unknownFormatChar char position format =>
      s!"Unknown format char {Text.quoted char.toString} at position {position} in {Text.quoted format}"
  | .unknownByteOrder given => s!"{given.shown} is not a valid ByteOrder"
  | .unknownTag tag => Text.quoted tag
  | .value fault => fault.text
  | .scalarCodec fault => fault.message
  | .field index type fault => s!"Field {index} ('{type.tag}'): {fault.text}"
  | .insufficientValues format provided =>
      s!"Format {Text.quoted format} needs more than the {provided} values provided"
  | .excessValues format fields provided =>
      s!"Format {Text.quoted format} has {fields} fields but {provided} values were provided"
  | .negativeArity arity => s!"Output arity must be >= 0, got {arity}"
  | .arityTooLarge => "cannot fit 'int' into an index-sized integer"
  | .arityBeyondMemory => ""
  | .textualShape given => s!"Invalid output shape {given.shown}"
  | .shapeNotIterable given => s!"'{given.typeName}' object is not iterable"
  | .unsupportedSlot index request =>
      s!"Slot {index}: unsupported slot type {request.shown}"
  | .insufficientSlots format slots =>
      s!"Format {Text.quoted format} has more fields than the {slots} declared slots"
  | .truncatedPad shortage =>
      s!"Truncated data at pad byte offset {shortage.offset}: {shortage.message}"
  | .truncatedField index type shortage =>
      s!"Truncated data while decoding field {index} ('{type.tag}') at offset {shortage.offset}: {shortage.message}"
  | .slotNotBoolean index => s!"Slot {index}: boolean slot requires a '?' field, got int"
  | .slotValue index fault => s!"Slot {index}: {fault.text}"
  | .arityMismatch format produced declared =>
      s!"Format {Text.quoted format} produced {produced} values but {declared} were declared"

/-- The message of an error. -/
def message (error : CodecError) : String :=
  Decimal.message error.isWritable error.text

section

variable {error : CodecError}

theorem kind_of_isWritable (writable : error.isWritable = true) :
    error.kind = error.reportedKind := by
  rw [kind, writable, ErrorKind.raised_true]

theorem message_of_isWritable (writable : error.isWritable = true) :
    error.message = error.text := by
  rw [message, writable, Decimal.message_true]

theorem kind_of_not_isWritable (unwritable : error.isWritable = false) :
    error.kind = .invalidArgument := by
  rw [kind, unwritable, ErrorKind.raised_false]

theorem message_of_not_isWritable (unwritable : error.isWritable = false) :
    error.message = Decimal.limitMessage := by
  rw [message, unwritable, Decimal.message_false]

theorem not_isWritable_of_kind (failed : error.kind = .invalidArgument)
    (reported : error.reportedKind ≠ .invalidArgument) : error.isWritable = false := by
  cases writable : error.isWritable with
  | true => exact absurd ((kind_of_isWritable writable).symm.trans failed) reported
  | false => rfl

theorem isWritable_of_kind_ne (other : error.kind ≠ .invalidArgument) :
    error.isWritable = true := by
  cases writable : error.isWritable with
  | true => rfl
  | false => exact absurd (kind_of_not_isWritable writable) other

end

end CodecError

namespace ScalarType

/-- The scalar type that a tag stands for; the tag is given as text. -/
def ofTagText (tag : String) : Except CodecError ScalarType :=
  match tag.toList with
  | [char] =>
      match ofTag? char with
      | some type => .ok type
      | none => .error (.unknownTag tag)
  | _ => .error (.unknownTag tag)

end ScalarType

/-- The byte order whose marker is given. -/
def ByteOrder.ofValue (given : Value) : Except CodecError ByteOrder :=
  match given with
  | .text "<" => .ok .little
  | .text ">" => .ok .big
  | _ => .error (.unknownByteOrder given)

end StructCodec

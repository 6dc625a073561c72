import StructCodec.Error

/-!
# Errors of records

What can be wrong with the values of a record's fields, with its class as a shape
of data, and with packing and unpacking it.
-/

namespace StructCodec

/-- What is wrong with one value. -/
inductive FieldProblem where
  | missing
  | unexpected
  | noSuchAttribute (name : String)
  | notInteger
  | notIntegerText
  | notFinite
  | fractional
  | tooLarge
  | belowMinimum (minimum : Int)
  | aboveMaximum (maximum : Int)
  | notBoolean
  | notBooleanText
deriving DecidableEq

namespace FieldProblem

/-- The short name of a problem. -/
def code : FieldProblem → String
  | .missing => "missing"
  | .unexpected => "extra_forbidden"
  | .noSuchAttribute _ => "no_such_attribute"
  | .notInteger => "int_type"
  | .notIntegerText => "int_parsing"
  | .notFinite => "finite_number"
  | .fractional => "int_from_float"
  | .tooLarge => "int_parsing_size"
  | .belowMinimum _ => "greater_than_equal"
  | .aboveMaximum _ => "less_than_equal"
  | .notBoolean => "bool_type"
  | .notBooleanText => "bool_parsing"

/-- The message of a problem. -/
def message : FieldProblem → String
  | .missing => "Field required"
  | .unexpected => "Extra inputs are not permitted"
  | .noSuchAttribute name => s!"Object has no attribute '{name}'"
  | .notInteger => "Input should be a valid integer"
  | .notIntegerText =>
      "Input should be a valid integer, unable to parse string as an integer"
  | .notFinite => "Input should be a finite number"
  | .fractional => "Input should be a valid integer, got a number with a fractional part"
  | .tooLarge => "Unable to parse input string as an integer, exceeded maximum size"
  | .belowMinimum minimum => s!"Input should be greater than or equal to {minimum}"
  | .aboveMaximum maximum => s!"Input should be less than or equal to {maximum}"
  | .notBoolean => "Input should be a valid boolean"
  | .notBooleanText => "Input should be a valid boolean, unable to interpret input"

end FieldProblem

/-- One of the two bounds of a field. -/
inductive Bound where
  | minimum
  | maximum
deriving DecidableEq

/-- The short name of a bound. -/
def Bound.code : Bound → String
  | .minimum => "ge"
  | .maximum => "le"

/-- A value that cannot be compared with a bound of its field. -/
structure IncomparableValue where
  bound : Bound
  value : Value

/-- The message about a value that cannot be compared with a bound. -/
def IncomparableValue.message (refused : IncomparableValue) : String :=
  "Unable to apply constraint '" ++ refused.bound.code ++ "' to supplied value " ++
    refused.value.toText

/-- Why a field does not take a value: there is a problem with it, to be reported
along with the problems of other fields, or it cannot even be checked. -/
inductive ValueRefusal where
  | problem (problem : FieldProblem)
  | incomparable (refused : IncomparableValue)

/-- A problem with the value of a field. -/
structure FieldError where
  field : String
  problem : FieldProblem
deriving DecidableEq

/-- Why values make no record. -/
inductive ConstructionFault where
  /-- They are not valid for their fields. -/
  | invalid (errors : List FieldError)
  /-- One of them cannot be compared with a bound. -/
  | incomparable (refused : IncomparableValue)

/-- Why a field gives no slot. -/
inductive SchemaFault where
  | unannotated
  | compositeType (shown : String)
  | severalScalarTypes
  | booleanDeclaredAs (type : ScalarType)
  | integerDeclaredBoolean
  | unsupportedType (shown : String)
deriving DecidableEq

/-- The message about a field that gives no slot. -/
def SchemaFault.message (field : String) : SchemaFault → String
  | .unannotated => s!"Field {field} has no type annotation"
  | .compositeType shown =>
      s!"Field {field}: unsupported annotation {shown}. Supported: int, bool."
  | .severalScalarTypes => s!"Field {field}: more than one scalar type declared"
  | .booleanDeclaredAs type => s!"Field {field}: bool field declared as {type.name}"
  | .integerDeclaredBoolean => s!"Field {field}: int field declared as BOOL"
  | .unsupportedType shown =>
      s!"Field {field}: unsupported type {shown}. Supported: int, bool."

/-- Why something that is asked of a record fails. -/
inductive RecordError where
  /-- Reading the format, packing or unpacking fails. -/
  | codec (error : CodecError)
  /-- A field of the class gives no slot. -/
  | schema (field : String) (fault : SchemaFault)
  /-- Neither the caller nor the class gives a format. -/
  | noFormat (className : String)
  /-- The values for a record are not valid. -/
  | invalid (errors : List FieldError)
  /-- A value for a record cannot be compared with a bound. -/
  | incomparable (refused : IncomparableValue)
  /-- The unpacked data are not valid for a record of the class. -/
  | notConstructed (className : String) (errors : List FieldError)
  /-- The format belongs to the class and not to a record. -/
  | classVariable (className : String)
  /-- A plain record has no such field. -/
  | unknownField (className field : String)
  /-- There is no record yet. -/
  | noRecord

namespace RecordError

/-- The kind of an error. -/
def kind : RecordError → ErrorKind
  | .codec error => error.kind
  | .schema .. | .noFormat _ => .library .schema
  | .invalid _ => .validation
  | .incomparable _ => .wrongType
  | .notConstructed .. => .library .decode
  | .classVariable _ => .attribute
  | .unknownField .. => .invalidArgument
  | .noRecord => .noRecord

/-- The message of an error; invalid values speak for themselves. -/
def message : RecordError → String
  | .codec error => error.message
  | .schema field fault => fault.message field
  | .noFormat className => s!"{className} has no struct_format; pass a format explicitly"
  | .invalid _ => ""
  | .incomparable refused => refused.message
  | .notConstructed className _ => s!"Failed to construct {className}: "
  | .classVariable className =>
      "'struct_format' is a ClassVar of \x60" ++ className ++
        "\x60 and cannot be set on an instance. " ++
        "If you want to set a value on the class, use \x60" ++ className ++
        ".struct_format = value\x60."
  | .unknownField className field =>
      "\"" ++ className ++ "\" object has no field \"" ++ field ++ "\""
  | .noRecord => ""

/-- The error of values that make no record. -/
def ofFault : ConstructionFault → RecordError
  | .invalid errors => .invalid errors
  | .incomparable refused => .incomparable refused

/-- The error of unpacked data that make no record. -/
def ofConstruction (className : String) : ConstructionFault → RecordError
  | .invalid errors => .notConstructed className errors
  | .incomparable refused => .incomparable refused

end RecordError

end StructCodec

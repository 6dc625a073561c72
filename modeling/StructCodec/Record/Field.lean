import StructCodec.Value

/-!
# Fields of records

A field is declared with an annotation, and perhaps with scalar types, bounds and
a default.
-/

namespace StructCodec

/-- What a field is annotated with. -/
inductive Annotation where
  | integer
  | boolean
  /-- A class that no field of a format can hold, by its name. -/
  | otherClass (name : String)
  /-- Anything at all. -/
  | anything
  /-- An annotation built from others, by its written form. -/
  | composite (shown : String)
  /-- No annotation at all. -/
  | missing
deriving DecidableEq

/-- The form in which messages show an annotation. -/
def Annotation.shown : Annotation → String
  | .integer => "<class 'int'>"
  | .boolean => "<class 'bool'>"
  | .otherClass name => "<class '" ++ name ++ "'>"
  | .anything => "typing.Any"
  | .composite shown => shown
  | .missing => "None"

/-- The declaration of a field. -/
structure FieldDeclaration where
  name : String
  annotation : Annotation
  scalarTypes : List ScalarType := []
  minimum? : Option Int := none
  maximum? : Option Int := none
  default? : Option Value := none

/-- A field that is annotated with a sized integer type: an integer within the
range of that type. -/
def FieldDeclaration.sized (name : String) (type : IntegerType) : FieldDeclaration :=
  { name
    annotation := .integer
    scalarTypes := [.integer type]
    minimum? := some type.minimum
    maximum? := some type.maximum }

/-- A field with bounds of its own where its annotation gives none; the bounds that
come with an annotation stay. -/
def FieldDeclaration.bounded (field : FieldDeclaration) (minimum? maximum? : Option Int) :
    FieldDeclaration :=
  { field with
    minimum? := field.minimum? <|> minimum?
    maximum? := field.maximum? <|> maximum? }

/-- A boolean field that is declared with the boolean scalar type. -/
def FieldDeclaration.flag (name : String) : FieldDeclaration :=
  { name
    annotation := .boolean
    scalarTypes := [.boolean] }

end StructCodec

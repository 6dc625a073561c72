import StructCodec.Record.Class
import StructCodec.Record.Problem

/-!
# Schemas

The slots of a class of records: one for each field, in declaration order, with a
type given by the field's annotation.  Only integer and boolean fields have one.
-/

namespace StructCodec

/-- The slot of one field. -/
structure FieldSlot where
  name : String
  slot : Slot
deriving DecidableEq

namespace FieldDeclaration

/-- The slot of a field.  The annotation is looked at first, then the number of
scalar types, then whether annotation and scalar type agree. -/
def slot (field : FieldDeclaration) : Except SchemaFault Slot :=
  match field.annotation, field.scalarTypes with
  | .missing, _ => .error .unannotated
  | .composite shown, _ => .error (.compositeType shown)
  | _, _ :: _ :: _ => .error .severalScalarTypes
  | .boolean, [.integer type] => .error (.booleanDeclaredAs (.integer type))
  | .boolean, _ => .ok .boolean
  | .integer, [.boolean] => .error .integerDeclaredBoolean
  | .integer, [type] => .ok (.scalar type)
  | .integer, [] => .ok .integer
  | annotation, _ => .error (.unsupportedType annotation.shown)

end FieldDeclaration

/-- The slots of some fields, up to the first field that gives none. -/
def slotsOfFields : List FieldDeclaration → Except RecordError (List FieldSlot)
  | [] => .ok []
  | field :: fields =>
      match field.slot with
      | .error fault => .error (.schema field.name fault)
      | .ok slot => do
          let slots ← slotsOfFields fields
          return ⟨field.name, slot⟩ :: slots

namespace RecordClass

/-- The slots of a class, one for each field in declaration order. -/
def schema (recordClass : RecordClass) : Except RecordError (List FieldSlot) :=
  slotsOfFields recordClass.fields

/-- The format to use for a class: the one given, unless it is nothing, and else
the format of the class. -/
def resolveFormat (recordClass : RecordClass) (given : Value) : Except RecordError Value :=
  match given with
  | .nothing =>
      match recordClass.format? with
      | some format => .ok format
      | none => .error (.noFormat recordClass.name)
  | given => .ok given

end RecordClass

end StructCodec

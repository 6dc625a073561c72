import StructCodec.Format
import StructCodec.Record.Field

/-!
# Classes of records

A class is a chain of definitions, from the base on.  Each definition may set the
format of the class and declare fields; what it leaves out it inherits.  Classes
of checked records must have a format that can be read, if they have one.
-/

namespace StructCodec

/-- What the base of all definitions is. -/
inductive RecordRoot where
  /-- Records that check what is assigned to them and take known fields only. -/
  | checked
  /-- Records that check what they are made of, and nothing afterwards. -/
  | plain
deriving DecidableEq

/-- One definition of a class.  A format that is set to nothing is set. -/
structure ClassDefinition where
  name : String
  format? : Option Value := none
  fields : List FieldDeclaration := []

/-- A class of records: the definitions that it derives from, its base first, and
its own. -/
structure RecordClass where
  root : RecordRoot
  ancestors : List ClassDefinition
  own : ClassDefinition

namespace RecordClass

/-- The definitions of a class, its base first. -/
def definitions (recordClass : RecordClass) : List ClassDefinition :=
  recordClass.ancestors ++ [recordClass.own]

/-- The name of a class. -/
def name (recordClass : RecordClass) : String :=
  recordClass.own.name

/-- The format that the last of some definitions sets. -/
def declaredFormat : List ClassDefinition → Option Value
  | [] => none
  | definition :: later =>
      match declaredFormat later with
      | some format => some format
      | none => definition.format?

/-- The format of a class, unless it is set to nothing or not at all. -/
def format? (recordClass : RecordClass) : Option Value :=
  match declaredFormat recordClass.definitions with
  | some .nothing => none
  | format => format

/-- Whether some definition of a class has a format to speak of, so that no
instance can set one. -/
def holdsFormat (recordClass : RecordClass) : Bool :=
  match recordClass.root with
  | .checked => true
  | .plain => recordClass.definitions.any (fun definition => definition.format?.isSome)

/-- Declares a field: a field of that name keeps its place, a new one comes last. -/
def declare (field : FieldDeclaration) : List FieldDeclaration → List FieldDeclaration
  | [] => [field]
  | other :: others =>
      if other.name = field.name then field :: others else other :: declare field others

/-- The fields of a class in declaration order. -/
def fields (recordClass : RecordClass) : List FieldDeclaration :=
  (recordClass.definitions.flatMap (·.fields)).foldl (fun fields field => declare field fields) []

/-- Reads the format of a checked class, if it has one. -/
def checkFormat (recordClass : RecordClass) : Except CodecError Unit :=
  match recordClass.root, recordClass.format? with
  | .checked, some given => do
      let text ← given.formatText
      let _ ← Format.parse {} text
      return ()
  | _, _ => .ok ()

/-- Adds the definitions of a class one after the other, as long as each makes a
class whose format can be read. -/
def defineAfter (root : RecordRoot) : List ClassDefinition → ClassDefinition →
    List ClassDefinition → Except CodecError RecordClass
  | ancestors, own, [] => do
      checkFormat ⟨root, ancestors, own⟩
      return ⟨root, ancestors, own⟩
  | ancestors, own, next :: later => do
      checkFormat ⟨root, ancestors, own⟩
      defineAfter root (ancestors ++ [own]) next later

/-- Defines a class by a chain of definitions, its base first. -/
def define (root : RecordRoot) (base : ClassDefinition) (derived : List ClassDefinition) :
    Except CodecError RecordClass :=
  defineAfter root [] base derived

end RecordClass

end StructCodec

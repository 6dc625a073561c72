import StructCodec.Layout
import StructCodec.Runs
import StructCodec.Text.Name

/-!
# Layouts with private notes

A layout is shared by everyone who uses its format, so nothing about it can be
changed.  Its parts are kept as private attributes, whose names start with an
underscore.  Further private attributes can be attached to it as notes, each name
once.
-/

namespace StructCodec

/-- What reading an attribute of a layout gives. -/
inductive LayoutAttribute where
  | plain (value : Value)
  | options (options : Options)
  | directives (format : Format)
  | fields (fields : List FieldPlacement)
  /-- What the class of layouts gives to each of them, by its name. -/
  | shared (name : String)

/-- Why an attribute cannot be set or read. -/
inductive AttributeFault where
  | readOnly (name : String)
  | missing (name : String)
  /-- The class of an object is to be set to something that is no class. -/
  | notClass (given : Value)
  /-- The attributes of an object are to be set to something that is no table of
  attributes. -/
  | notAttributes (given : Value)
  /-- What refers to an object is to be set. -/
  | referencesReadOnly

/-- The kind of a fault. -/
def AttributeFault.kind : AttributeFault → ErrorKind
  | .readOnly _ | .missing _ | .referencesReadOnly => .attribute
  | .notClass _ | .notAttributes _ => .wrongType

/-- The message of a fault. -/
def AttributeFault.message : AttributeFault → String
  | .readOnly name => s!"Layout is read-only, cannot set {Text.quoted name}"
  | .missing name => s!"'Layout' object has no attribute '{name}'"
  | .notClass given => s!"__class__ must be set to a class, not '{given.typeName}' object"
  | .notAttributes given => s!"__dict__ must be set to a dictionary, not a '{given.typeName}'"
  | .referencesReadOnly => "attribute '__weakref__' of 'Layout' objects is not writable"

/-- Why no value can be set under one of the names that stand for something else
than an attribute in every object. -/
def AttributeFault.ofReserved? (name : String) (given : Value) : Option AttributeFault :=
  match name with
  | "__class__" => some (.notClass given)
  | "__dict__" => some (.notAttributes given)
  | "__weakref__" => some .referencesReadOnly
  | _ => none

namespace Layout

/-- The names under which a layout keeps its own parts. -/
def ownNames : List String :=
  ["_fmt", "_options", "_directives", "_fields", "_pad_count", "_size"]

/-- The parts of a layout, each under its name. -/
def parts (layout : Layout) : List (String × LayoutAttribute) :=
  [("_fmt", .plain (.text layout.text)), ("_options", .options layout.options),
    ("_directives", .directives layout.format), ("_fields", .fields layout.fields),
    ("_pad_count", .plain (.integer layout.padCount)),
    ("_size", .plain (.integer layout.size))]

/-- The name under which an attribute is kept: a public name shows one of the
parts. -/
def keptName (name : String) : String :=
  match name with
  | "fmt" => "_fmt"
  | "options" => "_options"
  | "directives" => "_directives"
  | "fields" => "_fields"
  | "pad_count" => "_pad_count"
  | "size" => "_size"
  | _ => name

/-- What the class of layouts gives to each of them, apart from the public names of their
parts: the names of its methods. -/
def sharedNames : List String :=
  ["_resolve", "pack", "unpack", "unpack_single"]

end Layout

/-- The attributes of a layout: its parts, and the notes attached to it so far. -/
structure NotedLayout where
  attributes : List (String × LayoutAttribute)

/-- What can be asked of a layout with notes. -/
inductive LayoutStep where
  | describe
  | pack (values : List Value)
  | unpack (buffer : List UInt8) (shape : ShapeRequest)
  | unpackSingle (buffer : List UInt8) (slot : SlotRequest)
  | set (name : String) (value : Value)
  | get (name : String)

/-- What a layout with notes answers. -/
inductive LayoutAnswer where
  | summary (summary : Layout.Summary)
  | bytes (bytes : List UInt8)
  | data (data : List Datum)
  | datum (datum : Datum)
  | done
  | part (found : LayoutAttribute)
  | refused (error : CodecError)
  | noAttribute (fault : AttributeFault)

namespace NotedLayout

/-- A layout without notes. -/
def ofLayout (layout : Layout) : NotedLayout :=
  ⟨layout.parts⟩

/-- The attribute that is kept under a name. -/
def kept (noted : NotedLayout) (name : String) : Except AttributeFault LayoutAttribute :=
  match noted.attributes.lookup name with
  | some found => .ok found
  | none => .error (.missing name)

/-- The format and the options, which packing and unpacking read. -/
def codec (noted : NotedLayout) : Except AttributeFault (Options × String) := do
  match ← noted.kept "_options", ← noted.kept "_fmt" with
  | .options options, .plain (.text text) => return (options, text)
  | _, _ => throw (.missing "_fmt")

/-- All parts, which a description tells. -/
def summary (noted : NotedLayout) : Except AttributeFault Layout.Summary := do
  let (options, text) ← noted.codec
  match ← noted.kept "_directives", ← noted.kept "_fields", ← noted.kept "_pad_count",
      ← noted.kept "_size" with
  | .directives format, .fields fields, .plain (.integer padCount), .plain (.integer size) =>
      return ⟨text, options, format, fields, padCount, size⟩
  | _, _, _, _ => throw (.missing "_directives")

/-- The number of fields, counted among the parts. -/
def fieldCount (noted : NotedLayout) : Except AttributeFault Nat := do
  match ← noted.kept "_fields" with
  | .fields fields => return fields.length
  | _ => throw (.missing "_fields")

/-- Attaches a note under a private name that is not used yet. -/
def set (noted : NotedLayout) (name : String) (value : Value) :
    Except AttributeFault NotedLayout :=
  if Text.isPrivateName name = true ∧ noted.attributes.lookup name = none then
    match AttributeFault.ofReserved? name value with
    | some fault => .error fault
    | none => .ok ⟨(name, .plain value) :: noted.attributes⟩
  else
    .error (.readOnly name)

/-- Reads an attribute, and what all layouts share if there is none. -/
def get (noted : NotedLayout) (name : String) : Except AttributeFault LayoutAttribute :=
  if name = "field_count" then
    noted.fieldCount.map (fun count => .plain (.integer count))
  else
    match noted.attributes.lookup (Layout.keptName name) with
    | some found => .ok found
    | none =>
        if name ∈ Layout.sharedNames then .ok (.shared name) else .error (.missing name)

/-- Turns the outcome of the codec into an answer. -/
def answer {α : Type} (wrap : α → LayoutAnswer) : Except CodecError α → LayoutAnswer
  | .ok result => wrap result
  | .error error => .refused error

/-- Turns what is read of the attributes into an answer. -/
def answerRead {α : Type} (wrap : α → LayoutAnswer) : Except AttributeFault α → LayoutAnswer
  | .ok found => wrap found
  | .error fault => .noAttribute fault

/-- One step: the answer and what is attached afterwards. -/
def step [Machine] (noted : NotedLayout) : LayoutStep → LayoutAnswer × NotedLayout
  | .describe => (answerRead .summary noted.summary, noted)
  | .pack values =>
      (answerRead (fun (options, text) =>
        answer .bytes (StructCodec.pack options text values)) noted.codec, noted)
  | .unpack buffer shape =>
      (answerRead (fun (options, text) =>
        answer .data (StructCodec.unpack options text buffer shape)) noted.codec, noted)
  | .unpackSingle buffer slot =>
      (answerRead (fun (options, text) =>
        answer .datum (StructCodec.unpackSingle options text buffer slot)) noted.codec, noted)
  | .set name value =>
      match noted.set name value with
      | .ok next => (.done, next)
      | .error fault => (.noAttribute fault, noted)
  | .get name => (answerRead .part (noted.get name), noted)

/-- The answers to a sequence of steps, each with what is attached after it. -/
def run [Machine] (noted : NotedLayout) (steps : List LayoutStep) :
    List (LayoutAnswer × NotedLayout) :=
  Runs.trace step noted steps

end NotedLayout

end StructCodec

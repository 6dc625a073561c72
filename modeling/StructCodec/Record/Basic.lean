import StructCodec.Record.Validation
import StructCodec.Text.Name

/-!
# Records

A record holds one value for each field of its class.  It is made from values by
name; a field that is given none keeps its default, unchecked.
-/

namespace StructCodec

/-- What a field of a record holds. -/
structure HeldValue where
  value : Value
  /-- Whether the value is the default of the field, which every record of the
  class shares. -/
  isDefault : Bool := false

/-- A record: what each field holds, in declaration order. -/
structure Record where
  fields : List (String × HeldValue)
  /-- Whether something was assigned to a private name. -/
  hasPrivate : Bool := false

/-- What makes records of a class from values by name. -/
abbrev RecordMaker :=
  RecordClass → List (String × Value) → Except ConstructionFault Record

namespace Record

/-- The value of each field, in declaration order. -/
def values (record : Record) : List (String × Value) :=
  record.fields.map (fun entry => (entry.1, entry.2.value))

/-- Puts a value under a name: a name that is there keeps its place. -/
def put {Held : Type} (name : String) (held : Held) : List (String × Held) → List (String × Held)
  | [] => [(name, held)]
  | entry :: entries =>
      if entry.1 = name then (name, held) :: entries else entry :: put name held entries

/-- Values by name, each name once; the last value given for a name counts. -/
def byName (given : List (String × Value)) : List (String × Value) :=
  given.foldl (fun entries entry => put entry.1 entry.2 entries) []

/-- What a field holds when it is made from values by name. -/
def fill (given : List (String × Value)) (field : FieldDeclaration) :
    Except ValueRefusal HeldValue :=
  match given.lookup field.name with
  | some value => (field.validate value).map (fun valid => ⟨valid, false⟩)
  | none =>
      match field.default? with
      | some value => .ok ⟨value, true⟩
      | none => .error (.problem .missing)

/-- What each of some fields holds when they are made from values by name, and
every problem with these values, unless some value cannot even be checked. -/
def fillAll (given : List (String × Value)) :
    List FieldDeclaration →
      Except IncomparableValue (List (String × HeldValue) × List FieldError)
  | [] => .ok ([], [])
  | field :: fields =>
      match fill given field with
      | .ok value => do
          let (held, errors) ← fillAll given fields
          return ((field.name, value) :: held, errors)
      | .error (.problem problem) => do
          let (held, errors) ← fillAll given fields
          return (held, ⟨field.name, problem⟩ :: errors)
      | .error (.incomparable refused) => .error refused

/-- The names that are given a value and belong to no field. -/
def unexpectedNames (fields : List FieldDeclaration) (given : List (String × Value)) :
    List String :=
  (given.map (·.1)).filter (fun name => !fields.any (fun field => field.name = name))

/-- The problems with names that belong to no field; a plain record has none. -/
def unexpectedErrors (recordClass : RecordClass) (given : List (String × Value)) :
    List FieldError :=
  match recordClass.root with
  | .checked => (unexpectedNames recordClass.fields given).map (fun name => ⟨name, .unexpected⟩)
  | .plain => []

/-- Makes a record of a class from values by name, unless there is any problem:
first those with fields in declaration order, then unexpected names. -/
def make : RecordMaker := fun recordClass given => do
  let given := byName given
  let (held, errors) ← (fillAll given recordClass.fields).mapError .incomparable
  match errors ++ unexpectedErrors recordClass given with
  | [] => return { fields := held }
  | errors => throw (.invalid errors)

/-- Whether two fields hold equal values; a default that both share equals itself. -/
def sameHeld (left right : HeldValue) : Bool :=
  if left.isDefault && right.isDefault then left.value.usesAgree
  else left.value.same right.value

/-- Whether two fields hold equal values by their content alone: a default that is
not a number differs from itself. -/
def equalHeld (left right : HeldValue) : Bool :=
  match left.value with
  | .float _ => left.value.same right.value
  | _ => sameHeld left right

/-- Whether two records of one class are equal: all their fields are.  If there is
only one field and something is kept under a private name, content alone decides. -/
def same (left right : Record) : Bool :=
  match left.fields, right.fields with
  | [(_, leftHeld)], [(_, rightHeld)] =>
      if left.hasPrivate || right.hasPrivate then equalHeld leftHeld rightHeld
      else sameHeld leftHeld rightHeld
  | lefts, rights => (lefts.zip rights).all (fun pair => sameHeld pair.1.2 pair.2.2)

/-- The same record with another value for a field. -/
def setField (record : Record) (name : String) (held : HeldValue) : Record :=
  { record with fields := put name held record.fields }

/-- Assigns a value to a field.  Checked records check it, plain ones do not.  What
is assigned to a private name concerns no field. -/
def assign (record : Record) (recordClass : RecordClass) (name : String) (value : Value) :
    Except RecordError Record :=
  if name = "struct_format" ∧ recordClass.holdsFormat then
    .error (.classVariable recordClass.name)
  else if Text.isPrivateName name then
    .ok { record with hasPrivate := true }
  else
    match recordClass.fields.find? (fun field => field.name = name), recordClass.root with
    | some field, .checked =>
        match field.validate value with
        | .ok valid => .ok (record.setField name ⟨valid, false⟩)
        | .error (.problem problem) => .error (.invalid [⟨name, problem⟩])
        | .error (.incomparable refused) => .error (.incomparable refused)
    | some _, .plain => .ok (record.setField name ⟨value, false⟩)
    | none, .checked => .error (.invalid [⟨name, .noSuchAttribute name⟩])
    | none, .plain => .error (.unknownField recordClass.name name)

end Record

end StructCodec

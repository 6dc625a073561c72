import StructCodec.Proofs.RecordRoundTrip

/-!
# Unpacking into records

The slots of a class make sure that each datum is of the type of its field and within the
scalar type of its field, and the names of the class that each field is given one datum.  So
only a bound that is narrower than the scalar type can keep data from making a record, and the
problem is then reported as one of unpacking.
-/

namespace StructCodec

/-! ### Data of fields -/

namespace FieldDeclaration

variable {field : FieldDeclaration} {datum : Datum}

/-- A datum is of the type of a field, and its scalar types represent it. -/
structure Admits (field : FieldDeclaration) (datum : Datum) : Prop where
  annotates : field.Annotates datum
  inRange : ∀ type ∈ field.scalarTypes, type.InRange datum.toInt

/-- The slot of a field delivers nothing else. -/
theorem admits_of_gives {policy : NarrowingPolicy} {slot : Slot} {decoded : Datum}
    (slotted : field.slot = .ok slot) (gives : slot.Gives policy decoded datum) :
    field.Admits datum := by
  obtain ⟨mappable, isSlot⟩ := slot_spec slotted
  cases isSlot with
  | boolean annotated =>
      cases gives with
      | boolean _ truth =>
          refine ⟨.boolean annotated truth, ?_⟩
          intro type declared
          rw [(mappable.agrees type declared).mpr annotated]
          cases truth <;> decide
  | plain annotated undeclared =>
      cases gives with
      | integer => exact ⟨.integer annotated _, by simp [undeclared]⟩
      | boolean isBoolean => cases isBoolean
  | sized annotated sized =>
      cases gives with
      | narrowed narrowing =>
          refine ⟨.integer annotated _, ?_⟩
          simp [sized, (ScalarType.narrow_spec narrowing).1]
      | boolean isBoolean => cases isBoolean

/-- Every bound of a field is one of its scalar type. -/
structure BoundedByType (field : FieldDeclaration) : Prop where
  low : ∀ minimum, field.minimum? = some minimum →
    ∃ type ∈ field.scalarTypes, minimum = type.minimum
  high : ∀ maximum, field.maximum? = some maximum →
    ∃ type ∈ field.scalarTypes, maximum = type.maximum

theorem boundedByType_sized (name : String) (type : IntegerType) :
    (sized name type).BoundedByType := by
  constructor <;> simp [sized, ScalarType.minimum, ScalarType.maximum]

theorem boundedByType_flag (name : String) : (flag name).BoundedByType := by
  constructor <;> simp [flag]

theorem BoundedByType.bounds (byType : field.BoundedByType) (admits : field.Admits datum) :
    field.Bounds datum.toInt := by
  constructor
  · intro minimum present
    obtain ⟨type, declared, rfl⟩ := byType.low minimum present
    exact (admits.inRange type declared).1
  · intro maximum present
    obtain ⟨type, declared, rfl⟩ := byType.high maximum present
    exact (admits.inRange type declared).2

end FieldDeclaration

namespace Record

variable {fields : List FieldDeclaration} {data : List Datum}

theorem annotated_of_admits (admitted : List.Forall₂ FieldDeclaration.Admits fields data) :
    List.Forall₂ FieldDeclaration.Annotates fields data :=
  admitted.imp (fun _ _ admits => admits.annotates)

theorem within_of_boundedByType (admitted : List.Forall₂ FieldDeclaration.Admits fields data)
    (byType : ∀ field ∈ fields, field.BoundedByType) : Within fields data := by
  rintro ⟨field, datum⟩ member
  have admits := (List.forall₂_iff_zip.mp admitted).2 member
  exact (byType field (List.of_mem_zip member).1).bounds admits

end Record

/-! ### Unpacking -/

namespace RecordClass

/-- The format by which a class is unpacked: the one given, and that of the class if none is. -/
inductive Uses (recordClass : RecordClass) : Value → Value → Prop where
  | given {format : Value} (isGiven : format ≠ .nothing) : Uses recordClass format format
  | declared {format : Value} (declared : recordClass.format? = some format) :
      Uses recordClass .nothing format

variable {recordClass : RecordClass} {given format : Value}

theorem Uses.resolveFormat_eq (uses : recordClass.Uses given format) :
    recordClass.resolveFormat given = .ok format := by
  cases uses with
  | given isGiven =>
      cases given with
      | nothing => exact absurd rfl isGiven
      | _ => rfl
  | declared declared => simp [resolveFormat, declared]

theorem uses_or_undeclared (recordClass : RecordClass) (given : Value) :
    (∃ format, recordClass.Uses given format) ∨
      given = .nothing ∧ recordClass.format? = none := by
  by_cases missing : given = .nothing
  · subst missing
    cases declared : recordClass.format? with
    | none => exact .inr ⟨rfl, rfl⟩
    | some format => exact .inl ⟨format, .declared declared⟩
  · exact .inl ⟨given, .given missing⟩

theorem exists_of_schema_error {error : RecordError} (failed : recordClass.schema = .error error) :
    ∃ field ∈ recordClass.fields, ∃ fault, field.slot = .error fault ∧
      error = .schema field.name fault := by
  obtain ⟨before, field, after, fault, split, _, failsFirst, rfl⟩ :=
    slotsOfFields_eq_error_iff.mp failed
  refine ⟨field, ?_, fault, FieldDeclaration.slot_eq_error_iff.mpr failsFirst, rfl⟩
  rw [split]
  exact List.mem_append_right before List.mem_cons_self

end RecordClass

theorem ErrorKind.raised_ne_validation {kind : ErrorKind} (writable : Bool)
    (other : kind ≠ .validation) : raised writable kind ≠ .validation := by
  cases writable with
  | true => exact other
  | false => simp

theorem CodecError.kind_ne_validation (error : CodecError) : error.kind ≠ .validation := by
  apply ErrorKind.raised_ne_validation
  cases error with
  | scalarCodec fault => cases fault <;> simp [reportedKind, ScalarCodecFault.kind]
  | _ => simp [reportedKind]

theorem RecordError.kind_ofConstruction (className : String) (fault : ConstructionFault) :
    (ofConstruction className fault).kind ≠ .validation := by
  cases fault <;> simp [ofConstruction, kind]

namespace Record

variable [Machine] {maker : RecordMaker} {recordClass : RecordClass} {options : Options}
  {buffer : List UInt8} {given format : Value} {slots : List FieldSlot} {data : List Datum}

theorem admits_of_unpackSlots (schema : recordClass.schema = .ok slots)
    (unpacked : unpackSlots options buffer slots format = .ok data) :
    List.Forall₂ FieldDeclaration.Admits recordClass.fields data := by
  have slotted := slotsOfFields_eq_ok_iff.mp schema
  rw [unpackSlots] at unpacked
  cases written : format.formatText with
  | error error =>
      rw [written] at unpacked
      cases unpacked
  | ok text =>
      rw [written] at unpacked
      have unpackedText : StructCodec.unpack options text buffer
          (.slots ((slots.map (·.slot)).map .slot)) = .ok data := by
        rw [List.map_map]
        exact unpacked
      obtain ⟨read, _, reading, _⟩ := declared_of_unpack unpackedText
      obtain ⟨_, slotCount, delivered⟩ :=
        (unpack_eq_ok_iff reading (ShapeRequest.declares_slots read _)).mp unpackedText
      have fieldCount := delivered.length_eq
      rw [Format.length_fields, ← slotCount, Slots.count, List.length_map] at fieldCount
      apply Traversal.forall₂_iff_getElem?.mpr
      refine ⟨slotted.length_eq.trans fieldCount, ?_⟩
      intro index field datum foundField foundDatum
      obtain ⟨placed, foundPlaced, slot, declared, _, gives⟩ :=
        Traversal.getElem?_of_forall₂ delivered.flip foundDatum
      obtain ⟨entry, foundEntry, _, ownSlot⟩ :=
        Traversal.getElem?_of_forall₂ slotted foundField
      rw [(Format.getElem?_fields_iff.mp foundPlaced).2, Slots.get?, List.getElem?_map,
        foundEntry] at declared
      cases declared
      exact FieldDeclaration.admits_of_gives ownSlot gives

theorem unpack_of_undeclared (schema : recordClass.schema = .ok slots)
    (undeclared : recordClass.format? = none) :
    unpack maker recordClass options buffer .nothing = .error (.noFormat recordClass.name) := by
  rw [unpack, schema, RecordClass.resolveFormat, undeclared]
  rfl

/-- Where unpacking a record stops. -/
inductive UnpackStops (maker : RecordMaker) (recordClass : RecordClass) (options : Options)
    (buffer : List UInt8) (given : Value) : RecordError → Prop where
  | schema {error : RecordError} (failed : recordClass.schema = .error error) :
      UnpackStops maker recordClass options buffer given error
  | undeclared (missing : given = .nothing) (undeclared : recordClass.format? = none) :
      UnpackStops maker recordClass options buffer given (.noFormat recordClass.name)
  | codec {slots : List FieldSlot} {format : Value} {error : CodecError}
      (uses : recordClass.Uses given format)
      (failed : unpackSlots options buffer slots format = .error error) :
      UnpackStops maker recordClass options buffer given (.codec error)
  | construction {entries : List (String × Value)} {fault : ConstructionFault}
      (failed : maker recordClass entries = .error fault) :
      UnpackStops maker recordClass options buffer given
        (RecordError.ofConstruction recordClass.name fault)

theorem stops_of_unpack {error : RecordError}
    (failed : unpack maker recordClass options buffer given = .error error) :
    UnpackStops maker recordClass options buffer given error := by
  cases schema : recordClass.schema with
  | error schemaError =>
      rw [unpack, schema] at failed
      cases failed
      exact .schema schema
  | ok slots =>
      rcases recordClass.uses_or_undeclared given with ⟨format, uses⟩ | ⟨rfl, undeclared⟩
      · rw [unpack_eq schema uses.resolveFormat_eq] at failed
        cases unpacked : unpackSlots options buffer slots format with
        | error codecError =>
            rw [unpacked] at failed
            cases failed
            exact .codec uses unpacked
        | ok data =>
            rw [unpacked] at failed
            cases making : maker recordClass (labelled recordClass.fields data) with
            | error makeError =>
                simp only [Except.mapError, bind, Except.bind, making] at failed
                cases failed
                exact .construction making
            | ok record => simp [Except.mapError, bind, Except.bind, making] at failed
      · rw [unpack_of_undeclared schema undeclared] at failed
        cases failed
        exact .undeclared rfl undeclared

theorem kind_of_unpack {error : RecordError}
    (failed : unpack maker recordClass options buffer given = .error error) :
    error.kind ≠ .validation := by
  cases stops_of_unpack failed with
  | schema unmapped =>
      obtain ⟨field, _, fault, _, rfl⟩ := RecordClass.exists_of_schema_error unmapped
      simp [RecordError.kind]
  | undeclared => simp [RecordError.kind]
  | @codec _ _ codecError => exact codecError.kind_ne_validation
  | construction => exact RecordError.kind_ofConstruction _ _

end Record

/-- A record is unpacked as its slots are, by any maker that checks the types and the bounds of
the fields: a class without slots, a missing format and data that cannot be unpacked are errors,
in this order.  The data make a record that holds them if they are within the bounds of their
fields, as they are where all bounds are those of the scalar types.  Else the construction is
reported as failed.  Invalid values never surface as such. -/
theorem unpack_record [Machine] {maker : RecordMaker} {recordClass : RecordClass}
    (checks : maker.Checks recordClass) (options : Options) (buffer : List UInt8)
    (given : Value) :
    (∀ error, recordClass.schema = .error error →
      Record.unpack maker recordClass options buffer given = .error error ∧
        error.kind = .library .schema) ∧
    (∀ slots, recordClass.schema = .ok slots →
      (given = .nothing → recordClass.format? = none →
        Record.unpack maker recordClass options buffer given =
          .error (.noFormat recordClass.name)) ∧
      ∀ format, recordClass.Uses given format →
        (∀ error, Record.unpackSlots options buffer slots format = .error error →
          Record.unpack maker recordClass options buffer given = .error (.codec error)) ∧
        ∀ data, Record.unpackSlots options buffer slots format = .ok data →
          data.length = recordClass.fields.length ∧
          (Record.Within recordClass.fields data →
            ∃ record, Record.unpack maker recordClass options buffer given = .ok record ∧
              record.values = Record.labelled recordClass.fields data) ∧
          (¬ Record.Within recordClass.fields data →
            ∃ errors, Record.unpack maker recordClass options buffer given =
              .error (.notConstructed recordClass.name errors)) ∧
          ((∀ field ∈ recordClass.fields, field.BoundedByType) →
            ∃ record, Record.unpack maker recordClass options buffer given = .ok record)) ∧
    ∀ error, Record.unpack maker recordClass options buffer given = .error error →
      error.kind ≠ .validation := by
  refine ⟨?_, ?_, fun error failed => Record.kind_of_unpack failed⟩
  · intro error failed
    obtain ⟨field, _, fault, _, rfl⟩ := RecordClass.exists_of_schema_error failed
    refine ⟨?_, rfl⟩
    rw [Record.unpack, failed]
    rfl
  · intro slots schema
    constructor
    · rintro rfl undeclared
      exact Record.unpack_of_undeclared schema undeclared
    · intro format uses
      constructor
      · intro error failed
        rw [Record.unpack_eq schema uses.resolveFormat_eq, failed]
        rfl
      · intro data unpacked
        have admitted := Record.admits_of_unpackSlots schema unpacked
        have annotated := Record.annotated_of_admits admitted
        have unpack_eq : Record.unpack maker recordClass options buffer given =
            (maker recordClass (Record.labelled recordClass.fields data)).mapError
              (RecordError.ofConstruction recordClass.name) := by
          rw [Record.unpack_eq schema uses.resolveFormat_eq, unpacked]
          rfl
        have made (within : Record.Within recordClass.fields data) :
            ∃ record, Record.unpack maker recordClass options buffer given = .ok record ∧
              record.values = Record.labelled recordClass.fields data := by
          obtain ⟨record, making, held⟩ := checks.accepts data annotated within
          rw [unpack_eq, making]
          exact ⟨record, rfl, held⟩
        refine ⟨admitted.length_eq.symm, made, ?_, ?_⟩
        · intro exceeded
          obtain ⟨errors, refused⟩ := checks.refuses data annotated exceeded
          rw [unpack_eq, refused]
          exact ⟨errors, rfl⟩
        · intro byType
          obtain ⟨record, unpackedRecord, _⟩ :=
            made (Record.within_of_boundedByType admitted byType)
          exact ⟨record, unpackedRecord⟩

/-- A class with a level that must not exceed 100. -/
def limited : RecordClass :=
  { root := .checked
    ancestors := []
    own :=
      { name := "Limited"
        format? := some (.text "B")
        fields := [{ name := "level", annotation := .integer, maximum? := some 100 }] } }

open SmallMachine in
theorem unpack_record_limited :
    RecordMaker.Checks Record.make limited ∧ RecordMaker.Checks Record.make gauge ∧
      (∃ errors, Record.unpack Record.make limited {} [200] .nothing =
        .error (.notConstructed "Limited" errors)) ∧
      ∃ record, Record.unpack Record.make gauge {} [200, 0, 0xFE, 0xFF, 1] .nothing =
        .ok record := by
  have limited_eq : limited.fields =
      [{ name := "level", annotation := .integer, maximum? := some 100 }] := rfl
  have gauge_eq : gauge.fields = [.sized "level" ⟨.unsigned, .one⟩,
      { name := "count", annotation := .integer }, .flag "full"] := rfl
  have checksLimited : RecordMaker.Checks Record.make limited := by
    apply Record.checks_make
    simp [limited_eq, FieldDeclaration.Reportable]
  have checksGauge : RecordMaker.Checks Record.make gauge := by
    apply Record.checks_make
    simp [gauge_eq, FieldDeclaration.Reportable, FieldDeclaration.sized, FieldDeclaration.flag]
  refine ⟨checksLimited, checksGauge, ?_, ?_⟩
  · have uses : limited.Uses .nothing (.text "B") := .declared rfl
    have unpacked : Record.unpackSlots {} [200] [⟨"level", .integer⟩] (.text "B") =
        .ok [.integer 200] := rfl
    have outcome := ((unpack_record checksLimited {} [200] .nothing).2.1 _ rfl).2 _ uses
    apply (outcome.2 _ unpacked).2.2.1
    intro within
    have high := (within _ List.mem_cons_self).high 100 rfl
    simp at high
  · have uses : gauge.Uses .nothing (.text "<bxh?") := .declared rfl
    have unpacked : Record.unpackSlots {} [200, 0, 0xFE, 0xFF, 1]
        [⟨"level", .scalar (.integer ⟨.unsigned, .one⟩)⟩, ⟨"count", .integer⟩,
          ⟨"full", .boolean⟩] (.text "<bxh?") =
        .ok [.integer 200, .integer (-2), .boolean true] := rfl
    have outcome :=
      ((unpack_record checksGauge {} [200, 0, 0xFE, 0xFF, 1] .nothing).2.1 _ rfl).2 _ uses
    apply (outcome.2 _ unpacked).2.2.2
    rw [gauge_eq]
    simp only [List.forall_mem_cons]
    refine ⟨FieldDeclaration.boundedByType_sized _ _, ?_,
      FieldDeclaration.boundedByType_flag _, ?_⟩
    · constructor <;> simp
    · simp

end StructCodec

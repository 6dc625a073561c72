import StructCodec.Proofs.FieldSlots
import StructCodec.Proofs.RecordMakers
import StructCodec.Proofs.ShapedRoundTrip
import StructCodec.Record.Codec

/-!
# Round trips of records

A record is unpacked from what it was packed as if each value passes its field of the format
unchanged, given that what makes the record keeps valid data.  A field of another sign does not
change the value of a sized field of the record: the bytes are read with the type that the
record declares.
-/

namespace StructCodec

/-! ### Values that pass unchanged -/

/-- A field of a type takes a value as a datum for which a slot gives the value again. -/
def ScalarType.Restores (policy : NarrowingPolicy) (type : ScalarType) (slot : Slot)
    (value : Value) : Prop :=
  ∃ datum restored, type.coerce policy value = .ok datum ∧
    slot.Gives policy datum restored ∧ restored.toValue = value

theorem unpack_pack_of_restores [Machine] {options : Options} {text : String} {format : Format}
    {values : List Value} {slots : List Slot}
    (reading : Format.parse options text = .ok format)
    (valueCount : values.length = format.fieldCount)
    (slotCount : slots.length = format.fieldCount)
    (restores : ∀ (index : Nat) (placed : FieldPlacement) (value : Value) (slot : Slot),
      format.fields[index]? = some placed → values[index]? = some value →
      slots[index]? = some slot → placed.type.Restores options.narrowing slot value) :
    ∃ bytes data, pack options text values = .ok bytes ∧
      unpack options text bytes (.slots (slots.map .slot)) = .ok data ∧
      data.map Datum.toValue = values := by
  have each : ∀ placed ∈ format.fields, ∃ restored : Datum,
      placed.Conveys options.narrowing values (.listed slots) restored ∧
        values[placed.index]? = some restored.toValue := by
    intro placed member
    have found := Format.getElem?_fields_iff.mpr ⟨member, rfl⟩
    have supplied := Format.index_lt_fieldCount member
    have foundValue : values[placed.index]? = some values[placed.index] :=
      List.getElem?_eq_getElem (by omega)
    have foundSlot : slots[placed.index]? = some slots[placed.index] :=
      List.getElem?_eq_getElem (by omega)
    obtain ⟨datum, restored, coerced, gives, same⟩ :=
      restores _ _ _ _ found foundValue foundSlot
    refine ⟨restored, ⟨_, datum, foundSlot, ⟨_, foundValue, coerced⟩, gives⟩, ?_⟩
    rw [foundValue, same]
  obtain ⟨data, restored⟩ := Traversal.exists_forall₂ each
  have conveyed := restored.imp (fun _ _ both => both.1)
  obtain ⟨packedData, taken⟩ : ∃ packedData, List.Forall₂
      (fun placed datum => placed.Takes options.narrowing values datum)
      format.fields packedData := by
    apply Traversal.exists_forall₂
    intro placed member
    obtain ⟨_, ⟨_, datum, _, takes, _⟩, _⟩ := each placed member
    exact ⟨datum, takes⟩
  obtain ⟨blocks, written⟩ := exists_writes taken
  refine ⟨blocks.flatten, data,
    pack_eq_ok_iff.mpr ⟨format, blocks, reading, valueCount, written, rfl⟩,
    (unpack_of_writes_iff reading (ShapeRequest.declares_slots format slots) written).mpr
      ⟨slotCount, conveyed⟩, ?_⟩
  apply List.ext_getElem?
  intro index
  rw [List.getElem?_map]
  cases found : format.fields[index]? with
  | some placed =>
      obtain ⟨datum, foundDatum, _, foundValue⟩ := Traversal.getElem?_of_forall₂ restored found
      rw [(Format.getElem?_fields_iff.mp found).2] at foundValue
      rw [foundDatum, foundValue]
      rfl
  | none =>
      have beyond : format.fieldCount ≤ index := by
        rw [← Format.length_fields]
        exact List.getElem?_eq_none_iff.mp found
      have count : data.length = format.fieldCount := by
        rw [← restored.length_eq, Format.length_fields]
      rw [List.getElem?_eq_none (by omega), List.getElem?_eq_none (by omega)]
      rfl

/-! ### Values and slots of the fields of a class -/

namespace FieldDeclaration

variable {field : FieldDeclaration} {slot : Slot}

/-- A value is what a field is declared to hold: a boolean, or an integer that every scalar
type of the field represents, within the bounds of the field. -/
inductive SatisfiedBy (field : FieldDeclaration) : Value → Prop where
  | boolean {truth : Bool} (annotated : field.annotation = .boolean)
      (bounded : field.Bounds (Datum.boolean truth).toInt) :
      SatisfiedBy field (.boolean truth)
  | integer {number : Int} (annotated : field.annotation = .integer)
      (bounded : field.Bounds number)
      (inRange : ∀ type ∈ field.scalarTypes, type.InRange number) :
      SatisfiedBy field (.integer number)

theorem annotates_of_satisfiedBy {datum : Datum} (satisfied : field.SatisfiedBy datum.toValue) :
    field.Annotates datum ∧ field.Bounds datum.toInt := by
  cases datum with
  | boolean truth =>
      cases satisfied with
      | boolean annotated bounded => exact ⟨.boolean annotated truth, bounded⟩
  | integer number =>
      cases satisfied with
      | integer annotated bounded => exact ⟨.integer annotated number, bounded⟩

/-- How a value of a record meets a field of a format and the slot of its own field. -/
inductive Meets (field : FieldDeclaration) : ScalarType → Slot → Value → Prop where
  | boolean (truth : Bool) : Meets field .boolean .boolean (.boolean truth)
  | plain (tag : IntegerType) (number : Int) (undeclared : field.scalarTypes = []) :
      Meets field (.integer tag) .integer (.integer number)
  | sized (tag : IntegerType) {declared : IntegerType} {number : Int}
      (sized : field.scalarTypes = [.integer declared])
      (inRange : (ScalarType.integer declared).InRange number) :
      Meets field (.integer tag) (.scalar (.integer declared)) (.integer number)

variable {type : ScalarType} {value : Value}

theorem meets_of_satisfiedBy (slotted : field.slot = .ok slot)
    (satisfied : field.SatisfiedBy value)
    (matched : type = .boolean ↔ field.annotation = .boolean) :
    field.Meets type slot value := by
  cases satisfied with
  | @boolean truth annotated =>
      obtain rfl := matched.mpr annotated
      cases (slot_spec slotted).2 with
      | boolean => exact .boolean truth
      | sized otherwise | plain otherwise => simp [annotated] at otherwise
  | @integer number annotated _ inRange =>
      cases type with
      | boolean => simp [annotated] at matched
      | integer tag =>
          cases (slot_spec slotted).2 with
          | boolean otherwise => simp [annotated] at otherwise
          | plain _ undeclared => exact .plain tag number undeclared
          | sized _ declared =>
              apply Meets.sized tag declared
              apply inRange
              simp [declared]

/-- A field of a format carries a number of a record without loss under the wrapping policy:
it is as wide as the scalar type that the record declares, or represents the number if the
record declares none. -/
structure Carries (field : FieldDeclaration) (type : ScalarType) (number : Int) : Prop where
  sized : ∀ declared, field.scalarTypes = [.integer declared] →
    declared.width.bytes ≤ type.width
  plain : field.scalarTypes = [] → type.InRange number

theorem restores_boolean (policy : NarrowingPolicy) (truth : Bool) :
    ScalarType.boolean.Restores policy .boolean (.boolean truth) := by
  have admitted : ScalarType.boolean.Admits (.boolean truth) := trivial
  exact ⟨.boolean truth, .boolean truth, ScalarType.coerce_toValue policy admitted,
    .boolean rfl truth, rfl⟩

theorem coerce_of_narrow {policy : NarrowingPolicy} {tag : IntegerType} {number packed : Int}
    (packing : (ScalarType.integer tag).narrow policy number = .ok packed) :
    (ScalarType.integer tag).coerce policy (.integer number) = .ok (.integer packed) := by
  simp [ScalarType.coerce, Value.integral?, ScalarType.datumOfInt, packing, Except.map]

theorem restores_of_carries (meets : field.Meets type slot value)
    (carries : ∀ number, value = .integer number → field.Carries type number) :
    type.Restores .wrap slot value := by
  cases meets with
  | boolean truth => exact restores_boolean .wrap truth
  | plain tag number undeclared =>
      have represented := (carries number rfl).plain undeclared
      have packing := ScalarType.narrow_of_inRange .wrap represented
      exact ⟨_, _, coerce_of_narrow packing, .integer _, rfl⟩
  | @sized tag declared number sized inRange =>
      have narrower := (carries number rfl).sized declared sized
      obtain ⟨packed, packing⟩ := ScalarType.exists_narrow_wrap tag number
      have unpacking : (ScalarType.integer declared).narrow .wrap packed = .ok number := by
        rw [ScalarType.narrow_wrap_narrow narrower packing]
        exact ScalarType.narrow_of_inRange .wrap inRange
      exact ⟨_, _, coerce_of_narrow packing, .narrowed unpacking, rfl⟩

/-- What the strict policy packs is packed as it is, so the width of the field plays no
part. -/
theorem restores_of_coerced {datum : Datum} (meets : field.Meets type slot value)
    (coerced : type.coerce .strict value = .ok datum) : type.Restores .strict slot value := by
  cases meets with
  | boolean truth => exact restores_boolean .strict truth
  | plain tag number undeclared =>
      obtain ⟨_, counts, rfl⟩ := ScalarType.eq_of_gives_strict coerced (.asDecoded datum)
      cases counts
      exact ⟨_, _, coerced, .integer _, rfl⟩
  | sized tag sized inRange =>
      obtain ⟨_, counts, rfl⟩ := ScalarType.eq_of_gives_strict coerced (.asDecoded datum)
      cases counts
      have unpacking := ScalarType.narrow_of_inRange .strict inRange
      exact ⟨_, _, coerced, .narrowed unpacking, rfl⟩

end FieldDeclaration

/-! ### Records -/

namespace Record

/-- Values are given under the names of the fields of a class, in the order of the fields and
as these are declared. -/
def Conforming (recordClass : RecordClass) (given : List (String × Value)) : Prop :=
  List.Forall₂ (fun entry field => entry.1 = field.name ∧ field.SatisfiedBy entry.2)
    given recordClass.fields

/-- Unpacks the data of some slots by a format that may be no text. -/
def unpackSlots [Machine] (options : Options) (buffer : List UInt8) (slots : List FieldSlot)
    (format : Value) : Except CodecError (List Datum) := do
  StructCodec.unpack options (← format.formatText) buffer
    (.slots (slots.map (fun slot => .slot slot.slot)))

/-- Data that satisfy their fields are of the annotated types and within their bounds. -/
theorem annotated_within_of_satisfiedBy {fields : List FieldDeclaration} {data : List Datum}
    (satisfied : List.Forall₂ (fun entry field => entry.1 = field.name ∧
      field.SatisfiedBy entry.2) (labelled fields data) fields)
    (count : fields.length = data.length) :
    List.Forall₂ FieldDeclaration.Annotates fields data ∧ Within fields data := by
  induction fields generalizing data with
  | nil =>
      obtain rfl := List.eq_nil_of_length_eq_zero count.symm
      exact ⟨.nil, by simp [Within]⟩
  | cons field fields induction =>
      cases data with
      | nil => cases count
      | cons datum data =>
          obtain ⟨⟨_, first⟩, rest⟩ := List.forall₂_cons.mp satisfied
          obtain ⟨annotates, bounded⟩ := FieldDeclaration.annotates_of_satisfiedBy first
          obtain ⟨annotated, within⟩ := induction rest (Nat.succ.inj count)
          refine ⟨.cons annotates annotated, ?_⟩
          rw [Within, List.zip_cons_cons, List.forall_mem_cons]
          exact ⟨bounded, within⟩

section Codec

variable {maker : RecordMaker} {recordClass : RecordClass} {record : Record} {options : Options}
  {given : Value} {text : String} {slots : List FieldSlot}

theorem Conforming.names_eq {entries : List (String × Value)}
    (conforming : Conforming recordClass entries) :
    entries.map (·.1) = recordClass.fields.map (·.name) := by
  apply Traversal.map_eq_map_of_forall₂ conforming
  intro entry field fits
  exact fits.1

theorem pack_eq (schema : recordClass.schema = .ok slots)
    (resolved : recordClass.resolveFormat given = .ok (.text text)) :
    record.pack recordClass options given =
      (StructCodec.pack options text (record.values.map (·.2))).mapError .codec := by
  rw [pack, schema, resolved]
  rfl

theorem unpack_eq [Machine] {buffer : List UInt8} {format : Value}
    (schema : recordClass.schema = .ok slots)
    (resolved : recordClass.resolveFormat given = .ok format) :
    unpack maker recordClass options buffer given =
      (do let data ← (unpackSlots options buffer slots format).mapError .codec
          (maker recordClass (labelled recordClass.fields data)).mapError
            (RecordError.ofConstruction recordClass.name)) := by
  simp only [labelled, ← RecordClass.names_of_schema schema]
  rw [unpack, schema, resolved]
  rfl

/-- Where a record is packed, each field of the format takes the value of its index. -/
theorem coerced_of_pack {format : Format} {bytes : List UInt8} {index : Nat}
    {placed : FieldPlacement} {value : Value}
    (schema : recordClass.schema = .ok slots)
    (resolved : recordClass.resolveFormat given = .ok (.text text))
    (reading : Format.parse options text = .ok format)
    (packed : record.pack recordClass options given = .ok bytes)
    (foundPlaced : format.fields[index]? = some placed)
    (foundValue : (record.values.map (·.2))[index]? = some value) :
    ∃ datum, placed.type.coerce options.narrowing value = .ok datum := by
  rw [pack_eq schema resolved] at packed
  cases result : StructCodec.pack options text (record.values.map (·.2)) with
  | error error =>
      rw [result] at packed
      cases packed
  | ok bytes =>
      obtain ⟨format', blocks, reading', _, written, _⟩ := pack_eq_ok_iff.mp result
      rw [reading] at reading'
      cases reading'
      obtain ⟨member, standing⟩ := Format.getElem?_fields_iff.mp foundPlaced
      obtain ⟨datum, ⟨own, present, coerced⟩, _⟩ := Format.slice_of_writes written member
      rw [standing, foundValue] at present
      cases present
      exact ⟨datum, coerced⟩

/-- Data that are the values of a record make a record that holds these values. -/
theorem unpack_of_data [Machine] {buffer : List UInt8} {data : List Datum}
    (accepts : maker.Accepts recordClass) (schema : recordClass.schema = .ok slots)
    (resolved : recordClass.resolveFormat given = .ok (.text text))
    (conforming : Conforming recordClass record.values)
    (unpacked : StructCodec.unpack options text buffer
      (.slots ((slots.map (·.slot)).map .slot)) = .ok data)
    (restored : data.map Datum.toValue = record.values.map (·.2)) :
    ∃ made, unpack maker recordClass options buffer given = .ok made ∧
      made.values = record.values := by
  have unpackedSlots : unpackSlots options buffer slots (.text text) = .ok data := by
    rw [List.map_map] at unpacked
    exact unpacked
  have same : labelled recordClass.fields data = record.values := by
    rw [labelled, restored]
    exact (List.zip_of_prod conforming.names_eq rfl).symm
  have count : recordClass.fields.length = data.length := by
    have counts := congrArg List.length restored
    rw [List.length_map, List.length_map] at counts
    exact conforming.length_eq.symm.trans counts.symm
  rw [← same] at conforming ⊢
  obtain ⟨annotated, within⟩ := annotated_within_of_satisfiedBy conforming count
  obtain ⟨made, making, held⟩ := accepts data annotated within
  refine ⟨made, ?_, held⟩
  rw [unpack_eq schema resolved, unpackedSlots]
  simp only [Except.mapError, bind, Except.bind, making]

/-- A record is packed and unpacked again if each of its values passes its field. -/
theorem unpack_pack_of_restores [Machine] {format : Format}
    (accepts : maker.Accepts recordClass) (schema : recordClass.schema = .ok slots)
    (resolved : recordClass.resolveFormat given = .ok (.text text))
    (reading : Format.parse options text = .ok format)
    (conforming : Conforming recordClass record.values)
    (matched : List.Forall₂ (fun (placed : FieldPlacement) (field : FieldDeclaration) =>
      placed.type = .boolean ↔ field.annotation = .boolean) format.fields recordClass.fields)
    (restores : ∀ (index : Nat) (placed : FieldPlacement) (field : FieldDeclaration)
      (value : Value) (slot : Slot), format.fields[index]? = some placed →
      recordClass.fields[index]? = some field →
      (record.values.map (·.2))[index]? = some value →
      field.Meets placed.type slot value → placed.type.Restores options.narrowing slot value) :
    ∃ bytes made, record.pack recordClass options given = .ok bytes ∧
      unpack maker recordClass options bytes given = .ok made ∧ made.values = record.values := by
  have slotted := slotsOfFields_eq_ok_iff.mp schema
  obtain ⟨fieldCount, matchedAt⟩ := Traversal.forall₂_iff_getElem?.mp matched
  rw [Format.length_fields] at fieldCount
  have valueCount : (record.values.map (·.2)).length = format.fieldCount := by
    rw [List.length_map, conforming.length_eq, fieldCount]
  have slotCount : (slots.map (·.slot)).length = format.fieldCount := by
    rw [List.length_map, ← slotted.length_eq, fieldCount]
  have restoresAt : ∀ (index : Nat) (placed : FieldPlacement) (value : Value) (slot : Slot),
      format.fields[index]? = some placed →
      (record.values.map (·.2))[index]? = some value →
      (slots.map (·.slot))[index]? = some slot →
      placed.type.Restores options.narrowing slot value := by
    intro index placed value slot foundPlaced foundValue foundSlot
    obtain ⟨entry, foundEntry, rfl⟩ :=
      Option.map_eq_some_iff.mp (List.getElem?_map.symm.trans foundValue)
    obtain ⟨field, foundField, _, satisfied⟩ :=
      Traversal.getElem?_of_forall₂ conforming foundEntry
    obtain ⟨fieldSlot, foundFieldSlot, _, ownSlot⟩ :=
      Traversal.getElem?_of_forall₂ slotted foundField
    rw [List.getElem?_map, foundFieldSlot] at foundSlot
    cases foundSlot
    apply restores index placed field entry.2 fieldSlot.slot foundPlaced foundField foundValue
    apply FieldDeclaration.meets_of_satisfiedBy ownSlot satisfied
    exact matchedAt index placed field foundPlaced foundField
  obtain ⟨bytes, data, packed, unpacked, restored⟩ :=
    StructCodec.unpack_pack_of_restores reading valueCount slotCount restoresAt
  obtain ⟨made, making, held⟩ := unpack_of_data accepts schema resolved conforming unpacked restored
  refine ⟨bytes, made, ?_, making, held⟩
  rw [pack_eq schema resolved, packed]
  rfl

end Codec

end Record

/-- A record whose values are as its class declares them is packed and unpacked again by a
format that has one field for each of the record, boolean fields for boolean ones.  The
wrapping policy asks that the format carries the integers: a sized field by its width, of
either sign, and a plain one by its range.  The strict policy asks only that the record can be
packed. -/
theorem unpack_pack_record [Machine] {maker : RecordMaker} {recordClass : RecordClass}
    {record : Record} {given : Value} {text : String} {slots : List FieldSlot} {blanks : Bool}
    {format : Format} (accepts : maker.Accepts recordClass)
    (schema : recordClass.schema = .ok slots)
    (resolved : recordClass.resolveFormat given = .ok (.text text))
    (reading : Format.parse ⟨.wrap, blanks⟩ text = .ok format)
    (conforming : Record.Conforming recordClass record.values)
    (matched : List.Forall₂ (fun (placed : FieldPlacement) (field : FieldDeclaration) =>
      placed.type = .boolean ↔ field.annotation = .boolean) format.fields recordClass.fields) :
    ((∀ (index : Nat) (placed : FieldPlacement) (field : FieldDeclaration) (number : Int),
        format.fields[index]? = some placed → recordClass.fields[index]? = some field →
        (record.values.map (·.2))[index]? = some (.integer number) →
        field.Carries placed.type number) →
      ∃ bytes made, record.pack recordClass ⟨.wrap, blanks⟩ given = .ok bytes ∧
        Record.unpack maker recordClass ⟨.wrap, blanks⟩ bytes given = .ok made ∧
        made.values = record.values) ∧
    ∀ bytes, record.pack recordClass ⟨.strict, blanks⟩ given = .ok bytes →
      ∃ made, Record.unpack maker recordClass ⟨.strict, blanks⟩ bytes given = .ok made ∧
        made.values = record.values := by
  constructor
  · intro carries
    apply Record.unpack_pack_of_restores accepts schema resolved reading conforming matched
    intro index placed field value slot foundPlaced foundField foundValue meets
    apply FieldDeclaration.restores_of_carries meets
    rintro number rfl
    exact carries index placed field number foundPlaced foundField foundValue
  · intro bytes packed
    have strictReading : Format.parse ⟨.strict, blanks⟩ text = .ok format := reading
    obtain ⟨sameBytes, made, packedAgain, unpacked, held⟩ :
        ∃ bytes made, record.pack recordClass ⟨.strict, blanks⟩ given = .ok bytes ∧
          Record.unpack maker recordClass ⟨.strict, blanks⟩ bytes given = .ok made ∧
          made.values = record.values := by
      apply Record.unpack_pack_of_restores accepts schema resolved strictReading conforming matched
      intro index placed field value slot foundPlaced foundField foundValue meets
      obtain ⟨datum, coerced⟩ := Record.coerced_of_pack schema resolved strictReading packed
        foundPlaced foundValue
      exact FieldDeclaration.restores_of_coerced meets coerced
    rw [packed] at packedAgain
    cases packedAgain
    exact ⟨made, unpacked, held⟩

/-- A class with an unsigned level, a plain count and a flag. -/
def gauge : RecordClass :=
  { root := .checked
    ancestors := []
    own :=
      { name := "Gauge"
        format? := some (.text "<bxh?")
        fields := [.sized "level" ⟨.unsigned, .one⟩,
          { name := "count", annotation := .integer }, .flag "full"] } }

def gaugeReading : Record :=
  { fields := [("level", { value := .integer 200 }), ("count", { value := .integer (-2) }),
      ("full", { value := .boolean true })] }

open SmallMachine in
theorem unpack_pack_record_gauge :
    ∃ bytes made, gaugeReading.pack gauge {} .nothing = .ok bytes ∧
      Record.unpack Record.make gauge {} bytes .nothing = .ok made ∧
      made.values = [("level", .integer 200), ("count", .integer (-2)),
        ("full", .boolean true)] := by
  have fields_eq : gauge.fields = [.sized "level" ⟨.unsigned, .one⟩,
      { name := "count", annotation := .integer }, .flag "full"] := rfl
  have schema : gauge.schema = .ok [⟨"level", .scalar (.integer ⟨.unsigned, .one⟩)⟩,
      ⟨"count", .integer⟩, ⟨"full", .boolean⟩] := rfl
  have resolved : gauge.resolveFormat .nothing = .ok (.text "<bxh?") := rfl
  have reading : Format.parse ⟨.wrap, true⟩ "<bxh?" = .ok [.marker .little,
      .field (.integer ⟨.signed, .one⟩), .pad, .field (.integer ⟨.signed, .two⟩),
      .field .boolean] := rfl
  have conforming : Record.Conforming gauge gaugeReading.values := by
    rw [Record.Conforming, fields_eq]
    refine .cons ⟨rfl, ?_⟩ (.cons ⟨rfl, ?_⟩ (.cons ⟨rfl, ?_⟩ .nil))
    · apply FieldDeclaration.SatisfiedBy.integer rfl
      · constructor <;> simp [FieldDeclaration.sized] <;> decide
      · simp [FieldDeclaration.sized]
        decide
    · apply FieldDeclaration.SatisfiedBy.integer rfl
      · constructor <;> simp
      · simp
    · apply FieldDeclaration.SatisfiedBy.boolean rfl
      constructor <;> simp [FieldDeclaration.flag]
  have matched : List.Forall₂ (fun (placed : FieldPlacement) (field : FieldDeclaration) =>
      placed.type = .boolean ↔ field.annotation = .boolean)
      [⟨0, .integer ⟨.signed, .one⟩, 0, .little⟩, ⟨1, .integer ⟨.signed, .two⟩, 2, .little⟩,
        ⟨2, .boolean, 4, .little⟩] gauge.fields := by
    rw [fields_eq]
    exact .cons (by decide) (.cons (by decide) (.cons (by decide) .nil))
  have accepts := Record.accepts_make gauge
  apply (unpack_pack_record accepts schema resolved reading conforming matched).1
  intro index placed field number foundPlaced foundField foundValue
  rw [fields_eq] at foundField
  match index with
  | 0 =>
      cases foundPlaced
      cases foundField
      constructor
      · intro declared same
        cases same
        decide
      · intro plain
        cases plain
  | 1 =>
      cases foundPlaced
      cases foundField
      cases foundValue
      constructor
      · intro declared same
        cases same
      · intro _
        decide
  | 2 => cases foundValue
  | index + 3 => cases foundPlaced

end StructCodec

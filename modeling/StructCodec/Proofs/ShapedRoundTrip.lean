import StructCodec.Proofs.Delivery

/-!
# Round trips through slots

A value that is packed is narrowed to the type of its field, and narrowed once more if it is
unpacked through a slot of an integer type.  The second narrowing undoes what the first one
did if the slot is no wider than the field, since both keep the residue.
-/

namespace StructCodec

/-- What a number that is packed into a field comes back as through a slot, under the
wrapping policy. -/
inductive ScalarType.Returns : ScalarType → Slot → Int → Datum → Prop where
  | integer {type : IntegerType} {slot : Slot} {number narrowed : Int}
      (plain : slot = .asDecoded ∨ slot = .integer)
      (narrowing : (ScalarType.integer type).narrow .wrap number = .ok narrowed) :
      Returns (.integer type) slot number (.integer narrowed)
  /-- A slot that is no wider than the field gives what it would give without the field. -/
  | narrowed {type kept : IntegerType} {number packed unpacked : Int}
      (packing : (ScalarType.integer type).narrow .wrap number = .ok packed)
      (unpacking : (ScalarType.integer kept).narrow .wrap packed = .ok unpacked)
      (lossless : kept.width.bytes ≤ type.width.bytes →
        (ScalarType.integer kept).narrow .wrap number = .ok unpacked) :
      Returns (.integer type) (.scalar (.integer kept)) number (.integer unpacked)
  | truth {slot : Slot} {number : Int}
      (plain : slot = .asDecoded ∨ slot.isBoolean = true) :
      Returns .boolean slot number (.boolean (number != 0))
  | counted {slot : Slot} {number : Int}
      (counting : slot = .integer ∨ ∃ kept, slot = .scalar (.integer kept)) :
      Returns .boolean slot number (.integer (if number = 0 then 0 else 1))

/-- A truth value counts as an integer that every integer type represents. -/
theorem ScalarType.inRange_toInt_boolean (type : IntegerType) (truth : Bool) :
    (ScalarType.integer type).InRange (Datum.boolean truth).toInt := by
  obtain ⟨signedness, width⟩ := type
  cases signedness <;> cases width <;> cases truth <;> decide

theorem Datum.toInt_boolean_ne_zero (number : Int) :
    (Datum.boolean (number != 0)).toInt = if number = 0 then 0 else 1 := by
  by_cases zero : number = 0 <;> simp [zero]

theorem ScalarType.returns_of_gives {type : ScalarType} {value : Value} {slot : Slot}
    {datum delivered : Datum} (coerced : type.coerce .wrap value = .ok datum)
    (gives : slot.Gives .wrap datum delivered) :
    ∃ number, value.number? = some number ∧ type.Returns slot number delivered := by
  obtain ⟨number, counts, ofNumber⟩ := coerce_spec coerced
  refine ⟨number, counts, ?_⟩
  cases type with
  | boolean =>
      obtain rfl := (datumOfInt_cases ofNumber).1 rfl
      cases gives with
      | asDecoded => exact .truth (.inl rfl)
      | boolean isBoolean truth => exact .truth (.inr isBoolean)
      | integer =>
          rw [Datum.toInt_boolean_ne_zero]
          exact .counted (.inl rfl)
      | @narrowed kept _ _ narrowing =>
          rw [narrow_of_inRange .wrap (inRange_toInt_boolean kept _)] at narrowing
          cases narrowing
          rw [Datum.toInt_boolean_ne_zero]
          exact .counted (.inr ⟨kept, rfl⟩)
  | integer type =>
      obtain ⟨packed, packing, rfl⟩ := (datumOfInt_cases ofNumber).2 type rfl
      cases gives with
      | asDecoded => exact .integer (.inl rfl) packing
      | integer => exact .integer (.inr rfl) packing
      | narrowed unpacking =>
          apply Returns.narrowed packing unpacking
          intro narrower
          rw [← narrow_wrap_narrow narrower packing]
          exact unpacking

/-- Where the strict policy lets a number pass, no integer slot changes it. -/
theorem ScalarType.eq_of_gives_strict {type : IntegerType} {value : Value} {slot : Slot}
    {datum delivered : Datum}
    (coerced : (ScalarType.integer type).coerce .strict value = .ok datum)
    (gives : slot.Gives .strict datum delivered) :
    ∃ number, value.number? = some number ∧ delivered = .integer number := by
  obtain ⟨number, counts, ofNumber⟩ := coerce_spec coerced
  obtain ⟨packed, packing, rfl⟩ := (datumOfInt_cases ofNumber).2 type rfl
  obtain ⟨_, rfl⟩ := narrow_strict_iff.mp packing
  refine ⟨packed, counts, ?_⟩
  cases gives with
  | asDecoded => rfl
  | integer => rfl
  | narrowed unpacking =>
      obtain ⟨_, rfl⟩ := narrow_strict_iff.mp unpacking
      rfl

/-! ### Unpacking what was packed -/

/-- A field takes its value as a datum, and its slot gives another one for it. -/
def FieldPlacement.Conveys (policy : NarrowingPolicy) (values : List Value) (slots : Slots)
    (field : FieldPlacement) (delivered : Datum) : Prop :=
  ∃ slot datum, slots.get? field.index = some slot ∧ field.Takes policy values datum ∧
    slot.Gives policy datum delivered

section Conveyance

variable {options : Options} {text : String} {format : Format} {values : List Value}
  {blocks : List (List UInt8)}

theorem FieldPlacement.delivers_iff_conveys {policy : NarrowingPolicy} {slots : Slots}
    {field : FieldPlacement} {delivered : Datum}
    (written : List.Forall₂ (Placement.Writes policy values) format.placements blocks)
    (member : field ∈ format.fields) :
    field.Delivers policy slots blocks.flatten delivered ↔
      field.Conveys policy values slots delivered := by
  have taken := FieldPlacement.takes_meaning written member
  constructor
  · rintro ⟨slot, declared, _, gives⟩
    exact ⟨slot, _, declared, taken, gives⟩
  · rintro ⟨slot, datum, declared, takes, gives⟩
    obtain rfl := takes_unique takes taken
    refine ⟨slot, declared, ?_, gives⟩
    rw [Format.length_of_writes written]
    exact Format.field_end_le_size member

/-- A packed form is unpacked to what the fields convey. -/
theorem unpack_of_writes_iff [Machine] {shape : ShapeRequest} {slots : Slots} {data : List Datum}
    (reading : Format.parse options text = .ok format)
    (declared : shape.Declares format slots)
    (written : List.Forall₂ (Placement.Writes options.narrowing values) format.placements
      blocks) :
    unpack options text blocks.flatten shape = .ok data ↔
      slots.count = format.fieldCount ∧
        List.Forall₂ (fun field delivered =>
          field.Conveys options.narrowing values slots delivered) format.fields data := by
  rw [unpack_eq_ok_iff reading declared]
  constructor
  · rintro ⟨_, count, delivered⟩
    refine ⟨count, Traversal.imp_of_mem ?_ delivered⟩
    intro field member datum
    exact (FieldPlacement.delivers_iff_conveys written member).mp
  · rintro ⟨count, conveyed⟩
    refine ⟨(Format.length_of_writes written).ge, count, Traversal.imp_of_mem ?_ conveyed⟩
    intro field member datum
    exact (FieldPlacement.delivers_iff_conveys written member).mpr

/-- Under the wrapping policy a field and its slot always convey something, but for a boolean
slot of an integer field. -/
theorem FieldPlacement.exists_conveys {slots : List Slot} {field : FieldPlacement}
    {slot : Slot} {datum : Datum} (declared : slots[field.index]? = some slot)
    (fits : slot.isBoolean = true → field.type = .boolean)
    (taken : field.Takes .wrap values datum) :
    ∃ delivered, field.Conveys .wrap values (.listed slots) delivered := by
  obtain ⟨value, present, coerced⟩ := taken
  obtain ⟨delivered, gives⟩ : ∃ delivered, slot.Gives .wrap datum delivered := by
    apply Slot.exists_gives
    · intro isBoolean
      have admitted := ScalarType.coerce_admits coerced
      rw [fits isBoolean] at admitted
      cases datum with
      | boolean truth => exact ⟨truth, rfl⟩
      | integer number => exact admitted.elim
    · intro type strict
      cases strict
  exact ⟨delivered, slot, datum, declared, ⟨value, present, coerced⟩, gives⟩

theorem exists_unpack_of_matched [Machine] {blanks : Bool} {slots : List Slot}
    (reading : Format.parse ⟨.wrap, blanks⟩ text = .ok format)
    (written : List.Forall₂ (Placement.Writes .wrap values) format.placements blocks)
    (matched : List.Forall₂ (fun field slot => slot.isBoolean = true → field.type = .boolean)
      format.fields slots) :
    ∃ data,
      unpack ⟨.wrap, blanks⟩ text blocks.flatten (.slots (slots.map .slot)) = .ok data ∧
      List.Forall₂ (fun field delivered => field.Conveys .wrap values (.listed slots) delivered)
        format.fields data := by
  have each : ∀ field ∈ format.fields, ∃ delivered,
      field.Conveys .wrap values (.listed slots) delivered := by
    intro field member
    have found := Format.getElem?_fields_iff.mpr ⟨member, rfl⟩
    obtain ⟨slot, foundSlot, fits⟩ := Traversal.getElem?_of_forall₂ matched found
    exact FieldPlacement.exists_conveys foundSlot fits
      (FieldPlacement.takes_meaning written member)
  obtain ⟨data, conveyed⟩ := Traversal.exists_forall₂ each
  have slotCount : slots.length = format.fieldCount := by
    rw [← matched.length_eq, Format.length_fields]
  have declared := ShapeRequest.declares_slots format slots
  exact ⟨data, (unpack_of_writes_iff reading declared written).mpr ⟨slotCount, conveyed⟩,
    conveyed⟩

theorem conveyed_at {policy : NarrowingPolicy} {slots : Slots} {data : List Datum}
    {index : Nat} {field : FieldPlacement} {value : Value} {delivered : Datum}
    (conveyed : List.Forall₂ (fun field delivered =>
      field.Conveys policy values slots delivered) format.fields data)
    (foundField : format.fields[index]? = some field)
    (foundValue : values[index]? = some value) (foundDatum : data[index]? = some delivered) :
    ∃ slot datum, slots.get? index = some slot ∧
      field.type.coerce policy value = .ok datum ∧ slot.Gives policy datum delivered := by
  obtain ⟨_, conveyedAt⟩ := Traversal.forall₂_iff_getElem?.mp conveyed
  obtain ⟨slot, datum, declared, ⟨own, present, coerced⟩, gives⟩ :=
    conveyedAt index field delivered foundField foundDatum
  rw [(Format.getElem?_fields_iff.mp foundField).2] at declared present
  rw [foundValue] at present
  cases present
  exact ⟨slot, datum, declared, coerced, gives⟩

end Conveyance

/-- Values that are packed under the wrapping policy are unpacked through slots, one for each
field and boolean ones for boolean fields only, and each comes back narrowed to the type of
its field and then to that of its slot.  Under the strict policy, whatever the shape, numbers
come back from integer fields as they were. -/
theorem unpack_pack_shaped [Machine] (blanks : Bool) (text : String) (values : List Value) :
    (∀ bytes, pack ⟨.wrap, blanks⟩ text values = .ok bytes →
      ∃ format, Format.parse ⟨.wrap, blanks⟩ text = .ok format ∧
        ∀ slots : List Slot,
          List.Forall₂ (fun field slot => slot.isBoolean = true → field.type = .boolean)
            format.fields slots →
          ∃ data,
            unpack ⟨.wrap, blanks⟩ text bytes (.slots (slots.map .slot)) = .ok data ∧
            data.length = format.fieldCount ∧
            ∀ (index : Nat) (field : FieldPlacement) (value : Value) (slot : Slot)
              (datum : Datum),
              format.fields[index]? = some field → values[index]? = some value →
              slots[index]? = some slot → data[index]? = some datum →
              ∃ number, value.number? = some number ∧
                field.type.Returns slot number datum) ∧
    ∀ bytes shape data, pack ⟨.strict, blanks⟩ text values = .ok bytes →
      unpack ⟨.strict, blanks⟩ text bytes shape = .ok data →
      ∃ format, Format.parse ⟨.strict, blanks⟩ text = .ok format ∧
        ∀ (index : Nat) (field : FieldPlacement) (value : Value) (datum : Datum),
          format.fields[index]? = some field → values[index]? = some value →
          data[index]? = some datum → field.type ≠ .boolean →
          ∃ number, value.number? = some number ∧ datum = .integer number := by
  constructor
  · intro bytes packed
    obtain ⟨format, blocks, reading, _, written, rfl⟩ := pack_eq_ok_iff.mp packed
    refine ⟨format, reading, ?_⟩
    intro slots matched
    obtain ⟨data, unpacked, conveyed⟩ := exists_unpack_of_matched reading written matched
    refine ⟨data, unpacked, ?_, ?_⟩
    · rw [← conveyed.length_eq, Format.length_fields]
    · intro index field value slot datum foundField foundValue foundSlot foundDatum
      obtain ⟨own, taken, declared, coerced, gives⟩ :=
        conveyed_at conveyed foundField foundValue foundDatum
      have declaredAt : slots[index]? = some own := declared
      rw [foundSlot] at declaredAt
      cases declaredAt
      exact ScalarType.returns_of_gives coerced gives
  · intro bytes shape data packed unpacked
    obtain ⟨format, blocks, reading, _, written, rfl⟩ := pack_eq_ok_iff.mp packed
    refine ⟨format, reading, ?_⟩
    obtain ⟨format', slots, reading', declared⟩ := declared_of_unpack unpacked
    rw [reading] at reading'
    cases reading'
    obtain ⟨_, conveyed⟩ := (unpack_of_writes_iff reading declared written).mp unpacked
    intro index field value datum foundField foundValue foundDatum isInteger
    obtain ⟨slot, taken, _, coerced, gives⟩ :=
      conveyed_at conveyed foundField foundValue foundDatum
    generalize field.type = type at coerced isInteger
    cases type with
    | boolean => exact absurd rfl isInteger
    | integer type => exact ScalarType.eq_of_gives_strict coerced gives

open SmallMachine in
theorem unpack_pack_shaped_signed :
    pack {} "b?" [.integer 200, .integer 5] = .ok [200, 1] ∧
      ∃ data, unpack {} "b?" [200, 1]
          (.slots [.slot (.scalar (.integer ⟨.unsigned, .one⟩)), .slot .integer]) = .ok data ∧
        data.length = 2 ∧
        ∀ datum, data[0]? = some datum → ScalarType.Returns (.integer ⟨.signed, .one⟩)
          (.scalar (.integer ⟨.unsigned, .one⟩)) 200 datum := by
  have packed : pack {} "b?" [.integer 200, .integer 5] = .ok [200, 1] := rfl
  have reading : Format.parse {} "b?" =
      .ok [.field (.integer ⟨.signed, .one⟩), .field .boolean] := rfl
  obtain ⟨format, reading', shaped⟩ :=
    (unpack_pack_shaped true "b?" [.integer 200, .integer 5]).1 _ packed
  rw [reading] at reading'
  cases reading'
  obtain ⟨data, unpacked, count, returned⟩ :=
    shaped [.scalar (.integer ⟨.unsigned, .one⟩), .integer]
      (.cons (by decide) (.cons (by decide) .nil))
  refine ⟨packed, data, unpacked, count, ?_⟩
  intro datum found
  obtain ⟨number, counts, returns⟩ := returned 0 _ _ _ datum rfl rfl rfl found
  cases counts
  exact returns

end StructCodec

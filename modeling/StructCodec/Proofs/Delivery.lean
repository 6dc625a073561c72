import StructCodec.Proofs.RoundTrip
import StructCodec.Proofs.UnpackingOutcome

/-!
# What successful unpacking delivers

Unpacking succeeds exactly if the buffer covers the format and each field delivers a datum
through a slot of its own.  Data as they are decoded are what the bytes of the fields mean,
and what packed bytes mean is what the values were taken as.
-/

namespace StructCodec

theorem ShapeRequest.declares_slots [Machine] (format : Format) (slots : List Slot) :
    ShapeRequest.Declares format (.slots (slots.map .slot)) (.listed slots) := by
  apply ShapeRequest.Declares.listed rfl
  rw [List.forall₂_map_left_iff]
  apply List.forall₂_same.mpr
  intro slot _
  rfl

theorem ShapeRequest.declares_of_resolve [Machine] {format : Format} {shape : ShapeRequest}
    {slots : Slots} (resolved : shape.resolve format = .ok slots) :
    shape.Declares format slots := by
  rcases shape.declares_or_refused format with ⟨declaredSlots, declared⟩ | ⟨kind, refused⟩
  · rw [declared.resolve_eq] at resolved
    cases resolved
    exact declared
  · obtain ⟨error, failed, _⟩ := refused.exists_error format
    rw [failed] at resolved
    cases resolved

/-! ### No placement fails -/

section Passing

variable {policy : NarrowingPolicy} {slots : Slots} {buffer : List UInt8} {format : Format}

theorem Format.size_le_of_passed
    (passed : ∀ placement ∈ format.placements, ∀ errorClass,
      ¬ placement.Fails policy slots buffer errorClass) :
    format.size ≤ buffer.length := by
  -- Otherwise some placement reaches beyond the end of the buffer.
  by_contra short
  rw [Nat.not_le, ← Format.span_placements] at short
  obtain ⟨before, placement, after, split, low, high⟩ := Placement.exists_split_of_lt short
  have placed : placement ∈ format.placements := by
    rw [split]
    exact List.mem_append_right before List.mem_cons_self
  cases placement with
  | marker order => exact absurd high (Nat.not_lt.mpr low)
  | pad offset =>
      have start : offset = Placement.span before := Format.offset_of_split split rfl
      apply passed _ placed
      apply Placement.Fails.pad
      rw [start]
      exact Nat.le_of_lt_succ high
  | field field =>
      have start : field.offset = Placement.span before := Format.offset_of_split split rfl
      obtain ⟨datum, slot, declared, complete, _⟩ :=
        Placement.delivers_of_passed (passed _ placed)
      rw [start] at complete
      exact absurd high (Nat.not_lt.mpr complete)

theorem FieldPlacement.Delivers.not_fails {field : FieldPlacement} {datum : Datum}
    {errorClass : ErrorClass} (delivers : field.Delivers policy slots buffer datum) :
    ¬ (Placement.field field).Fails policy slots buffer errorClass := by
  intro fails
  obtain ⟨error, failed, _⟩ := fails.exists_error ""
  rw [delivers.read_eq] at failed
  cases failed

theorem Format.passed_of_delivers {data : List Datum} (long : format.size ≤ buffer.length)
    (delivered : List.Forall₂ (fun field datum => field.Delivers policy slots buffer datum)
      format.fields data) :
    ∀ placement ∈ format.placements, ∀ errorClass,
      ¬ placement.Fails policy slots buffer errorClass := by
  intro placement placed errorClass
  cases placement with
  | marker order =>
      intro fails
      cases fails
  | pad offset =>
      have inside : offset + 1 ≤ format.size := Format.end_le_size placed rfl
      intro fails
      cases fails with
      | pad ended => omega
  | field field =>
      have member : field ∈ format.fields := Format.mem_fields_of_placed placed
      obtain ⟨index, found⟩ := List.mem_iff_getElem?.mp member
      obtain ⟨datum, _, delivers⟩ := Traversal.getElem?_of_forall₂ delivered found
      exact delivers.not_fails

end Passing

/-! ### Successful unpacking -/

section Success

variable {options : Options} {text : String} {format : Format} {buffer : List UInt8}

/-- Unpacking succeeds exactly if the buffer covers the format and every field, and nothing
else, has a slot that delivers a datum for it. -/
theorem unpack_eq_ok_iff [Machine] {shape : ShapeRequest} {slots : Slots} {data : List Datum}
    (reading : Format.parse options text = .ok format)
    (declared : shape.Declares format slots) :
    unpack options text buffer shape = .ok data ↔
      format.size ≤ buffer.length ∧ slots.count = format.fieldCount ∧
        List.Forall₂ (fun field datum => field.Delivers options.narrowing slots buffer datum)
          format.fields data := by
  constructor
  · intro unpacked
    have related : UnpackOutcome options text buffer shape (.ok data) := by
      apply unpack_outcome_iff.mp
      rw [unpacked]
      rfl
    cases related with
    | delivered sameReading sameDeclared passed enough delivered =>
        rw [reading] at sameReading
        cases sameReading
        have resolved := sameDeclared.resolve_eq
        rw [declared.resolve_eq] at resolved
        cases resolved
        exact ⟨Format.size_le_of_passed passed,
          Nat.le_antisymm enough (fieldCount_le_of_delivers delivered), delivered⟩
  · rintro ⟨long, count, delivered⟩
    have passed := Format.passed_of_delivers long delivered
    obtain ⟨others, delivered', unpacked⟩ := unpack_of_passed reading declared passed
    rw [unpacked, if_pos count.symm, delivers_unique.forall₂ delivered' delivered]

theorem declared_of_unpack [Machine] {shape : ShapeRequest} {data : List Datum}
    (unpacked : unpack options text buffer shape = .ok data) :
    ∃ format slots, Format.parse options text = .ok format ∧ shape.Declares format slots := by
  have related : UnpackOutcome options text buffer shape (.ok data) := by
    apply unpack_outcome_iff.mp
    rw [unpacked]
    rfl
  cases related with
  | delivered reading declared passed enough delivered =>
      exact ⟨_, _, reading, declared⟩

theorem unpack_meanings [Machine] (reading : Format.parse options text = .ok format)
    (long : format.size ≤ buffer.length) :
    unpack options text buffer (.value .nothing) =
      .ok (format.fields.map (fun field => field.meaning buffer)) := by
  apply (unpack_eq_ok_iff reading .perField).mpr
  refine ⟨long, rfl, ?_⟩
  rw [List.forall₂_map_right_iff]
  apply List.forall₂_same.mpr
  intro field member
  have supplied : field.index < format.fieldCount := Format.index_lt_fieldCount member
  have declared : (Slots.uniform format.fieldCount).get? field.index = some .asDecoded :=
    if_pos supplied
  exact ⟨.asDecoded, declared, (Format.field_end_le_size member).trans long, .asDecoded _⟩

end Success

/-- The bytes of a field in a packed form mean what its value was taken as. -/
theorem FieldPlacement.takes_meaning {policy : NarrowingPolicy} {values : List Value}
    {format : Format} {blocks : List (List UInt8)} {field : FieldPlacement}
    (written : List.Forall₂ (Placement.Writes policy values) format.placements blocks)
    (member : field ∈ format.fields) :
    field.Takes policy values (field.meaning blocks.flatten) := by
  have complete : field.offset + field.type.width ≤ blocks.flatten.length := by
    rw [Format.length_of_writes written]
    exact Format.field_end_le_size member
  obtain ⟨datum, ⟨value, present, coerced⟩, slice⟩ := Format.slice_of_writes written member
  have means : field.Decodes blocks.flatten (field.meaning blocks.flatten) :=
    FieldPlacement.decodes_meaning complete
  have decoded := ScalarType.decode_image (ScalarType.coerce_admits coerced)
  rw [FieldPlacement.Decodes, slice, ByteOrder.fromWire_toWire, decoded] at means
  rw [← Except.ok.inj means]
  exact ⟨value, present, coerced⟩

end StructCodec

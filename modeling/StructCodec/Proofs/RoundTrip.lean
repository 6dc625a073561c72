import StructCodec.Proofs.Packing
import StructCodec.Proofs.Unpacking

/-!
# Round trips

Unpacking a packed form gives the data that the values were coerced to.  Packing
what a buffer was unpacked to gives the front of the buffer again, but for its pad
bytes, which become zero, and its booleans, which become 0 or 1.
-/

namespace StructCodec

/-! ### From values to bytes and back -/

/-- From a packed form each field gives the datum that it took its value as. -/
theorem unpack_of_writes [Machine] {options : Options} {text : String} {format : Format}
    {values : List Value} {blocks : List (List UInt8)}
    (reading : Format.parse options text = .ok format)
    (written : List.Forall₂ (Placement.Writes options.narrowing values) format.placements
      blocks) :
    ∃ data, unpack options text blocks.flatten (.value .nothing) = .ok data ∧
      List.Forall₂ (fun field datum => field.Takes options.narrowing values datum)
        format.fields data := by
  have long : format.size ≤ blocks.flatten.length := (Format.length_of_writes written).ge
  obtain ⟨data, unpacked, decoded⟩ := unpack_of_size_le reading long
  refine ⟨data, unpacked, Traversal.imp_of_mem ?_ decoded⟩
  intro field member datum decodes
  obtain ⟨taken, ⟨value, present, coerced⟩, slice⟩ := Format.slice_of_writes written member
  have restored := ScalarType.decode_image (ScalarType.coerce_admits coerced)
  rw [FieldPlacement.Decodes, slice, ByteOrder.fromWire_toWire, restored] at decodes
  cases decodes
  exact ⟨value, present, coerced⟩

theorem takes_toValue (policy : NarrowingPolicy) {format : Format} {data : List Datum}
    (admitted : List.Forall₂ (fun field datum => field.type.Admits datum) format.fields data) :
    List.Forall₂ (fun field datum => field.Takes policy (data.map Datum.toValue) datum)
      format.fields data := by
  obtain ⟨length_eq, admittedAt⟩ := Traversal.forall₂_iff_getElem?.mp admitted
  refine Traversal.forall₂_iff_getElem?.mpr ⟨length_eq, ?_⟩
  intro index field datum foundField foundDatum
  have standing := (Format.getElem?_fields_iff.mp foundField).2
  refine ⟨datum.toValue, ?_, ?_⟩
  · rw [standing, List.getElem?_map, foundDatum]
    rfl
  · exact ScalarType.coerce_toValue policy (admittedAt index field datum foundField foundDatum)

theorem exists_writes {policy : NarrowingPolicy} {format : Format} {values : List Value}
    {data : List Datum}
    (taken : List.Forall₂ (fun field datum => field.Takes policy values datum)
      format.fields data) :
    ∃ blocks, List.Forall₂ (Placement.Writes policy values) format.placements blocks := by
  apply Traversal.exists_forall₂
  intro placement placed
  cases placement with
  | marker order => exact ⟨[], .marker order⟩
  | pad offset => exact ⟨[0], .pad offset⟩
  | field field =>
      have member : field ∈ format.fields := Format.mem_fields_of_placed placed
      obtain ⟨index, found⟩ := List.mem_iff_getElem?.mp member
      obtain ⟨datum, _, takes⟩ := Traversal.getElem?_of_forall₂ taken found
      exact ⟨_, .field takes⟩

theorem takes_unique {policy : NarrowingPolicy} {values : List Value} :
    Relator.RightUnique (fun (field : FieldPlacement) (datum : Datum) =>
      field.Takes policy values datum) := by
  rintro field left right ⟨value, present, coerced⟩ ⟨value', present', coerced'⟩
  rw [present] at present'
  cases present'
  rw [coerced] at coerced'
  cases coerced'
  rfl

/-- Data that fit their fields can be packed, and are unpacked again. -/
theorem unpack_pack_of_admits [Machine] {options : Options} {text : String} {format : Format}
    {data : List Datum} (reading : Format.parse options text = .ok format)
    (admitted : List.Forall₂ (fun field datum => field.type.Admits datum) format.fields data) :
    ∃ blocks,
      List.Forall₂ (Placement.Writes options.narrowing (data.map Datum.toValue))
        format.placements blocks ∧
      pack options text (data.map Datum.toValue) = .ok blocks.flatten ∧
      unpack options text blocks.flatten (.value .nothing) = .ok data := by
  have taken := takes_toValue options.narrowing admitted
  obtain ⟨blocks, written⟩ := exists_writes taken
  have count : (data.map Datum.toValue).length = format.fieldCount := by
    rw [List.length_map, ← taken.length_eq, Format.length_fields]
  obtain ⟨restored, unpacked, retaken⟩ := unpack_of_writes reading written
  have same : restored = data := takes_unique.forall₂ retaken taken
  refine ⟨blocks, written, ?_, ?_⟩
  · exact pack_eq_ok_iff.mpr ⟨format, blocks, reading, count, written, rfl⟩
  · rw [unpacked, same]

/-- Whatever is packed is unpacked to one datum for each field, the one that its value
is coerced to.  Booleans and integers in range come back unchanged. -/
theorem unpack_pack_roundTrip [Machine] (options : Options) (text : String) :
    (∀ (values : List Value) (bytes : List UInt8), pack options text values = .ok bytes →
      ∃ format data, Format.parse options text = .ok format ∧
        unpack options text bytes (.value .nothing) = .ok data ∧
        values.length = format.fieldCount ∧ data.length = format.fieldCount ∧
        ∀ (index : Nat) (field : FieldPlacement) (value : Value) (datum : Datum),
          format.fields[index]? = some field → values[index]? = some value →
          data[index]? = some datum →
          field.type.coerce options.narrowing value = .ok datum ∧
          ∃ number, value.number? = some number ∧
            (field.type = .boolean → datum = .boolean (number != 0)) ∧
            ∀ type, field.type = .integer type →
              ∃ narrowed, field.type.narrow options.narrowing number = .ok narrowed ∧
                datum = .integer narrowed) ∧
    ∀ (format : Format) (data : List Datum), Format.parse options text = .ok format →
      List.Forall₂ (fun field datum => field.type.Admits datum) format.fields data →
      ∃ bytes, pack options text (data.map Datum.toValue) = .ok bytes ∧
        unpack options text bytes (.value .nothing) = .ok data := by
  constructor
  · intro values bytes packed
    obtain ⟨format, blocks, reading, count, written, rfl⟩ := pack_eq_ok_iff.mp packed
    obtain ⟨data, unpacked, taken⟩ := unpack_of_writes reading written
    obtain ⟨length_eq, takenAt⟩ := Traversal.forall₂_iff_getElem?.mp taken
    rw [Format.length_fields] at length_eq
    refine ⟨format, data, reading, unpacked, count, length_eq.symm, ?_⟩
    intro index field value datum foundField foundValue foundDatum
    obtain ⟨value', present, coerced⟩ := takenAt index field datum foundField foundDatum
    rw [(Format.getElem?_fields_iff.mp foundField).2, foundValue] at present
    cases present
    obtain ⟨number, counts, ofNumber⟩ := ScalarType.coerce_spec coerced
    exact ⟨coerced, number, counts, ScalarType.datumOfInt_cases ofNumber⟩
  · intro format data reading admitted
    obtain ⟨blocks, _, packed, unpacked⟩ := unpack_pack_of_admits reading admitted
    exact ⟨blocks.flatten, packed, unpacked⟩

open SmallMachine in
theorem unpack_pack_narrowed :
    pack {} "<B >hx?" [.integer 300, .integer (-2), .register 5] = .ok [44, 255, 254, 0, 1] ∧
      ∃ format data, Format.parse {} "<B >hx?" = .ok format ∧
        unpack {} "<B >hx?" [44, 255, 254, 0, 1] (.value .nothing) = .ok data ∧
        data.length = format.fieldCount := by
  have packed : pack {} "<B >hx?" [.integer 300, .integer (-2), .register 5] =
      .ok [44, 255, 254, 0, 1] := rfl
  obtain ⟨format, data, reading, unpacked, _, count, _⟩ :=
    (unpack_pack_roundTrip {} "<B >hx?").1 _ _ packed
  exact ⟨packed, format, data, reading, unpacked, count⟩

/-! ### From bytes to values and back -/

/-- Unpacks a buffer and packs what was unpacked. -/
def repack [Machine] (options : Options) (text : String) (buffer : List UInt8) :
    Except CodecError (List UInt8) := do
  let data ← unpack options text buffer (.value .nothing)
  pack options text (data.map Datum.toValue)

namespace Format

/-- A result is the front of a buffer with its pad bytes set to zero and its booleans
to 0 or 1. -/
structure Canonicalizes (format : Format) (buffer result : List UInt8) : Prop where
  length_eq : result.length = format.size
  pad : ∀ offset ∈ format.padOffsets, result[offset]? = some 0
  truth : ∀ field ∈ format.fields, field.type = .boolean →
    ∃ byte, buffer[field.offset]? = some byte ∧
      result[field.offset]? = some (if byte = 0 then 0 else 1)
  integer : ∀ field ∈ format.fields, ∀ type, field.type = .integer type →
    ∀ position, field.offset ≤ position → position < field.offset + field.type.width →
      result[position]? = buffer[position]?

/-- The pad bytes at the front of a buffer are zero, and its booleans are 0 or 1. -/
def IsCanonical (format : Format) (buffer : List UInt8) : Prop :=
  (∀ offset ∈ format.padOffsets, buffer[offset]? = some 0) ∧
    ∀ field ∈ format.fields, field.type = .boolean →
      buffer[field.offset]? = some 0 ∨ buffer[field.offset]? = some 1

theorem Canonicalizes.isCanonical {format : Format} {buffer result : List UInt8}
    (canonical : format.Canonicalizes buffer result) : format.IsCanonical result := by
  refine ⟨canonical.pad, ?_⟩
  intro field member boolean
  obtain ⟨byte, _, written⟩ := canonical.truth field member boolean
  rw [written]
  by_cases zero : byte = 0
  · exact .inl (by rw [if_pos zero])
  · exact .inr (by rw [if_neg zero])

/-- Only a canonical buffer stays as it is. -/
theorem Canonicalizes.eq_take_iff {format : Format} {buffer result : List UInt8}
    (canonical : format.Canonicalizes buffer result) (long : format.size ≤ buffer.length) :
    result = buffer.take format.size ↔ format.IsCanonical buffer := by
  constructor
  · rintro rfl
    have kept : ∀ position < format.size,
        buffer[position]? = (buffer.take format.size)[position]? :=
      fun position inside => (List.getElem?_take_of_lt inside).symm
    obtain ⟨pads, booleans⟩ := canonical.isCanonical
    refine ⟨?_, ?_⟩
    · intro offset member
      rw [kept offset (padOffset_lt_size member)]
      exact pads offset member
    · intro field member boolean
      have width_pos := field.type.width_pos
      have inside := field_end_le_size member
      rw [kept field.offset (by omega)]
      exact booleans field member boolean
  · rintro ⟨pads, booleans⟩
    apply List.ext_getElem?
    intro position
    by_cases inside : position < format.size
    · rw [List.getElem?_take_of_lt inside]
      rcases position_cases inside with isPad | ⟨field, member, low, high⟩
      · rw [canonical.pad position isPad, pads position isPad]
      · cases typed : field.type with
        | integer type => exact canonical.integer field member type typed position low high
        | boolean =>
            have same : position = field.offset := by
              rw [typed, ScalarType.width] at high
              omega
            obtain ⟨byte, found, written⟩ := canonical.truth field member typed
            rw [same, written, found]
            rcases booleans field member typed with zero | one
            · rw [found] at zero
              cases zero
              rfl
            · rw [found] at one
              cases one
              rfl
    · rw [List.getElem?_eq_none (by rw [canonical.length_eq]; omega),
        List.getElem?_eq_none (by rw [List.length_take]; omega)]

theorem Canonicalizes.of_slices {format : Format} {buffer result : List UInt8}
    (long : format.size ≤ buffer.length) (length_eq : result.length = format.size)
    (pads : ∀ offset ∈ format.padOffsets, result[offset]? = some 0)
    (slices : ∀ field ∈ format.fields, field.slice result =
      field.order.toWire (field.type.normalized (field.order.fromWire (field.slice buffer)))) :
    format.Canonicalizes buffer result := by
  refine ⟨length_eq, pads, ?_, ?_⟩
  · intro field member boolean
    have slice := slices field member
    have complete : (field.slice buffer).length = 1 := by
      rw [FieldPlacement.length_slice ((field_end_le_size member).trans long), boolean]
      rfl
    obtain ⟨byte, single⟩ := List.length_eq_one_iff.mp complete
    have wide : 0 < field.type.width := field.type.width_pos
    have found : (field.slice buffer)[0]? = some byte := by rw [single]; rfl
    have written : (field.slice result)[0]? = some (if byte = 0 then 0 else 1) := by
      rw [slice, single, boolean]
      cases field.order <;> rfl
    rw [FieldPlacement.getElem?_slice wide] at found written
    exact ⟨byte, found, written⟩
  · intro field member type integer position low high
    have slice : field.slice result = field.slice buffer := by
      rw [slices field member, integer, ScalarType.normalized, ByteOrder.toWire_fromWire]
    have inside : position - field.offset < field.type.width := by omega
    have position_eq : position = field.offset + (position - field.offset) := by omega
    rw [position_eq, ← FieldPlacement.getElem?_slice inside,
      ← FieldPlacement.getElem?_slice inside, slice]

end Format

theorem exists_repack [Machine] {options : Options} {text : String} {format : Format}
    {buffer : List UInt8} (reading : Format.parse options text = .ok format)
    (long : format.size ≤ buffer.length) :
    ∃ result, repack options text buffer = .ok result ∧ format.Canonicalizes buffer result := by
  obtain ⟨data, unpacked, decoded⟩ := unpack_of_size_le reading long
  have normal : ∀ field ∈ format.fields, ∀ datum, field.Decodes buffer datum →
      field.type.Admits datum ∧ field.type.image datum.toInt =
        field.type.normalized (field.order.fromWire (field.slice buffer)) := by
    intro field member datum decodes
    have complete := (Format.field_end_le_size member).trans long
    obtain ⟨datum', decodes', admitted, image⟩ :=
      ScalarType.decode_of_length (FieldPlacement.length_fromWire_slice complete)
    rw [FieldPlacement.Decodes, decodes'] at decodes
    cases decodes
    exact ⟨admitted, image⟩
  have admitted : List.Forall₂ (fun field datum => field.type.Admits datum)
      format.fields data := by
    apply Traversal.imp_of_mem _ decoded
    intro field member datum decodes
    exact (normal field member datum decodes).1
  obtain ⟨blocks, written, packed, _⟩ := unpack_pack_of_admits reading admitted
  refine ⟨blocks.flatten, ?_, ?_⟩
  · rw [repack, unpacked]
    exact packed
  · apply Format.Canonicalizes.of_slices long (Format.length_of_writes written)
    · intro offset member
      exact Format.pad_of_writes written member
    · intro field member
      obtain ⟨index, found⟩ := List.mem_iff_getElem?.mp member
      obtain ⟨datum, foundDatum, decodes⟩ := Traversal.getElem?_of_forall₂ decoded found
      obtain ⟨taken, takes, slice⟩ := Format.slice_of_writes written member
      obtain ⟨datum', foundDatum', takes'⟩ :=
        Traversal.getElem?_of_forall₂ (takes_toValue options.narrowing admitted) found
      rw [foundDatum] at foundDatum'
      cases foundDatum'
      rw [slice, takes_unique takes takes', (normal field member datum decodes).2]

/-- Unpacking the front of a buffer and packing what was unpacked sets the pad bytes to
zero and the booleans to 0 or 1, and changes no byte of an integer.  What is canonical
already stays as it is, so doing so again changes nothing. -/
theorem repack_canonicalizes [Machine] {options : Options} {text : String} {format : Format}
    {buffer : List UInt8} (reading : Format.parse options text = .ok format)
    (long : format.size ≤ buffer.length) :
    ∃ result, repack options text buffer = .ok result ∧
      format.Canonicalizes buffer result ∧
      (result = buffer.take format.size ↔ format.IsCanonical buffer) ∧
      repack options text result = .ok result := by
  obtain ⟨result, repacked, canonical⟩ := exists_repack reading long
  have fits : format.size ≤ result.length := canonical.length_eq.ge
  obtain ⟨again, repackedAgain, canonicalAgain⟩ := exists_repack reading fits
  have same : again = result := by
    rw [(canonicalAgain.eq_take_iff fits).mpr canonical.isCanonical]
    exact List.take_of_length_le canonical.length_eq.le
  refine ⟨result, repacked, canonical, canonical.eq_take_iff long, ?_⟩
  rw [repackedAgain, same]

open SmallMachine in
theorem repack_canonicalizes_big :
    Format.parse {} ">hx?" = .ok
        [.marker .big, .field (.integer ⟨.signed, .two⟩), .pad, .field .boolean] ∧
      repack {} ">hx?" [255, 254, 9, 7, 3] = .ok [255, 254, 0, 1] ∧
      repack {} ">hx?" [255, 254, 0, 1] = .ok [255, 254, 0, 1] := by
  have reading : Format.parse {} ">hx?" = .ok
      [.marker .big, .field (.integer ⟨.signed, .two⟩), .pad, .field .boolean] := rfl
  have repacked : repack {} ">hx?" [255, 254, 9, 7, 3] = .ok [255, 254, 0, 1] := rfl
  have long : Format.size [.marker .big, .field (.integer ⟨.signed, .two⟩), .pad,
      .field .boolean] ≤ ([255, 254, 9, 7, 3] : List UInt8).length := by decide
  obtain ⟨result, repacked', _, _, again⟩ := repack_canonicalizes reading long
  rw [repacked] at repacked'
  cases repacked'
  exact ⟨reading, repacked, again⟩

end StructCodec

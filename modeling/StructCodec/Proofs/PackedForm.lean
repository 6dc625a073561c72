import StructCodec.Proofs.Packing
import StructCodec.Proofs.Unpacking

/-!
# The packed form, byte by byte

A compiled layout says where each byte of a packed form stands and what it means.
Neither packing nor unpacking looks at the layout: they agree with it because they
follow the same directives.
-/

namespace StructCodec

/-! ### Places and meanings of bytes -/

namespace FieldPlacement

/-- Where the byte of a weight of a field stands in its byte order. -/
def position (field : FieldPlacement) (weight : Nat) : Nat :=
  match field.order with
  | .little => field.offset + weight
  | .big => field.offset + (field.type.width - 1 - weight)

theorem getElem?_fromWire_slice {field : FieldPlacement} {bytes : List UInt8} {weight : Nat}
    (inside : weight < field.type.width)
    (complete : field.offset + field.type.width ≤ bytes.length) :
    (field.order.fromWire (field.slice bytes))[weight]? = bytes[field.position weight]? := by
  cases order : field.order with
  | little =>
      rw [position, order, ← getElem?_slice inside]
      rfl
  | big =>
      have length_eq := length_slice complete
      have mirrored : (field.slice bytes).reverse[weight]? =
          (field.slice bytes)[field.type.width - 1 - weight]? := by
        rw [List.getElem?_reverse (by omega), length_eq]
      rw [position, order, ← getElem?_slice (by omega)]
      exact mirrored

/-- The natural number that the bytes of a field stand for. -/
def magnitude (field : FieldPlacement) (buffer : List UInt8) : Nat :=
  ∑ weight ∈ Finset.range field.type.width,
    256 ^ weight * (buffer.getD (field.position weight) 0).toNat

/-- The datum that the bytes of a field stand for. -/
def meaning (field : FieldPlacement) (buffer : List UInt8) : Datum :=
  match field.type with
  | .boolean => .boolean (buffer.getD field.offset 0 != 0)
  | .integer type =>
      .integer
        (if type.signedness = .signed ∧ 2 ^ (type.bits - 1) ≤ field.magnitude buffer then
          field.magnitude buffer - 2 ^ type.bits
        else
          field.magnitude buffer)

theorem decodeNat_fromWire_slice {field : FieldPlacement} {buffer : List UInt8}
    (complete : field.offset + field.type.width ≤ buffer.length) :
    LittleEndian.decodeNat (field.order.fromWire (field.slice buffer)) =
      field.magnitude buffer := by
  rw [LittleEndian.decodeNat_eq_sum, length_fromWire_slice complete, magnitude]
  apply Finset.sum_congr rfl
  intro weight member
  have inside : weight < field.type.width := Finset.mem_range.mp member
  rw [List.getD_eq_getElem?_getD, getElem?_fromWire_slice inside complete,
    List.getD_eq_getElem?_getD]

/-- What stands at a complete field is what its bytes mean. -/
theorem decodes_meaning {field : FieldPlacement} {buffer : List UInt8}
    (complete : field.offset + field.type.width ≤ buffer.length) :
    field.Decodes buffer (field.meaning buffer) := by
  have length_eq := length_fromWire_slice complete
  have total := decodeNat_fromWire_slice complete
  unfold Decodes meaning
  cases typed : field.type with
  | integer type =>
      rw [typed] at length_eq
      rw [ScalarType.decode_integer length_eq, total]
  | boolean =>
      rw [typed] at length_eq complete
      obtain ⟨byte, single⟩ := List.length_eq_one_iff.mp length_eq
      have first : (field.slice buffer)[0]? = some byte := by
        have whole : field.slice buffer = field.order.toWire [byte] := by
          rw [← single, ByteOrder.toWire_fromWire]
        rw [whole]
        cases field.order <;> rfl
      rw [getElem?_slice field.type.width_pos] at first
      rw [single, List.getD_eq_getElem?_getD]
      simp only [Nat.add_zero] at first
      rw [first]
      rfl

/-- What the bytes of a field mean is in the range of its type. -/
theorem inRange_meaning {field : FieldPlacement} {buffer : List UInt8}
    (complete : field.offset + field.type.width ≤ buffer.length) :
    field.type.InRange (field.meaning buffer).toInt := by
  obtain ⟨datum, decoded, admitted, _⟩ :=
    ScalarType.decode_of_length (length_fromWire_slice complete)
  have means : Except.ok (field.meaning buffer) = .ok datum :=
    (decodes_meaning complete).symm.trans decoded
  rw [Except.ok.inj means]
  exact ScalarType.inRange_of_admits admitted

/-- The bytes of a field hold a number: each byte of an integer is the digit of its
weight, and a boolean tells whether the number is zero. -/
structure Holds (field : FieldPlacement) (number : Int) (bytes : List UInt8) : Prop where
  integer : ∀ type, field.type = .integer type → ∀ weight < field.type.width,
    ∃ byte, bytes[field.position weight]? = some byte ∧
      (byte.toNat : Int) = number / 256 ^ weight % 256
  boolean : field.type = .boolean →
    bytes[field.offset]? = some (if number = 0 then 0 else 1)

theorem Holds.of_slice {field : FieldPlacement} {number : Int} {bytes : List UInt8}
    (complete : field.offset + field.type.width ≤ bytes.length)
    (slice : field.slice bytes = field.order.toWire (field.type.image number)) :
    field.Holds number bytes := by
  constructor
  · intro type typed weight inside
    refine ⟨LittleEndian.byteOfWeight number weight, ?_,
      LittleEndian.toNat_byteOfWeight number weight⟩
    rw [← getElem?_fromWire_slice inside complete, slice, ByteOrder.fromWire_toWire]
    rw [typed] at inside ⊢
    exact LittleEndian.getElem?_encodeInt inside number
  · intro typed
    have first : (field.slice bytes)[0]? = some (if number = 0 then 0 else 1) := by
      rw [slice, typed]
      cases field.order <;> rfl
    rwa [getElem?_slice field.type.width_pos] at first

end FieldPlacement

theorem Layout.compile_eq_ok_iff {options : Options} {text : String} {layout : Layout} :
    Layout.compile options text = .ok layout ↔
      ∃ format, Format.parse options text = .ok format ∧ layout = ⟨text, options, format⟩ := by
  rw [compile]
  cases Format.parse options text with
  | error error =>
      constructor
      · intro compiled
        cases compiled
      · rintro ⟨format, reading, _⟩
        cases reading
  | ok format =>
      constructor
      · intro compiled
        cases compiled
        exact ⟨format, rfl, rfl⟩
      · rintro ⟨format', reading, rfl⟩
        cases reading
        rfl

/-! ### Packing by the layout -/

/-- What is packed has the size of the layout and takes one value for each field.
Each field holds the number of its value, however large, and every byte that belongs to
no field is zero. -/
theorem pack_follows_layout {options : Options} {text : String} {values : List Value}
    {bytes : List UInt8} (packed : pack options text values = .ok bytes) :
    ∃ layout, Layout.compile options text = .ok layout ∧
      bytes.length = layout.size ∧
      values.length = layout.fieldCount ∧
      (∀ (index : Nat) (field : FieldPlacement), layout.fields[index]? = some field →
        ∃ value number, values[index]? = some value ∧ value.number? = some number ∧
          field.Holds number bytes) ∧
      ∀ position < layout.size,
        (∀ field ∈ layout.fields,
          ¬(field.offset ≤ position ∧ position < field.offset + field.type.width)) →
        bytes[position]? = some 0 := by
  obtain ⟨format, blocks, reading, count, written, rfl⟩ := pack_eq_ok_iff.mp packed
  have length_eq : blocks.flatten.length = format.size := Format.length_of_writes written
  refine ⟨⟨text, options, format⟩, Layout.compile_eq_ok_iff.mpr ⟨format, reading, rfl⟩,
    length_eq, count, ?_, ?_⟩
  · intro index field found
    obtain ⟨member, standing⟩ := Format.getElem?_fields_iff.mp found
    obtain ⟨datum, ⟨value, present, coerced⟩, slice⟩ := Format.slice_of_writes written member
    obtain ⟨number, counts, ofNumber⟩ := ScalarType.coerce_spec coerced
    have sameImage := (ScalarType.datumOfInt_spec ofNumber).2
    have complete : field.offset + field.type.width ≤ blocks.flatten.length := by
      rw [length_eq]
      exact Format.field_end_le_size member
    rw [standing] at present
    rw [sameImage] at slice
    exact ⟨value, number, present, counts, .of_slice complete slice⟩
  · intro position inside outside
    rcases Format.position_cases inside with isPad | ⟨field, member, low, high⟩
    · exact Format.pad_of_writes written isPad
    · exact absurd ⟨low, high⟩ (outside field member)

theorem pack_follows_layout_wide :
    pack {} ">Hx?" [.integer (-70000), .integer 256] = .ok [238, 144, 0, 1] ∧
      ∃ layout, Layout.compile {} ">Hx?" = .ok layout ∧ layout.size = 4 := by
  have packed : pack {} ">Hx?" [.integer (-70000), .integer 256] = .ok [238, 144, 0, 1] := rfl
  obtain ⟨layout, compiled, length_eq, _⟩ := pack_follows_layout packed
  exact ⟨packed, layout, compiled, length_eq.symm⟩

/-! ### Unpacking by the layout -/

theorem Placement.read_truncated (policy : NarrowingPolicy) (text : String) {format : Format}
    {buffer : List UInt8} {placement : Placement} {position : Nat}
    (placed : placement ∈ format.placements) (standing : placement.offset? = some position)
    (short : buffer.length < position + placement.width) :
    ∃ shortage error,
      placement.read policy text (.uniform format.fieldCount) buffer = .error error ∧
      shortage = ⟨position, placement.width, buffer.length - position⟩ ∧
      (placement = .pad position ∧ error = .truncatedPad shortage ∨
        ∃ field, placement = .field field ∧ format.fields[field.index]? = some field ∧
          error = .truncatedField field.index field.type shortage) := by
  cases placement with
  | marker order => cases standing
  | pad offset =>
      cases standing
      exact ⟨_, _, if_neg (Nat.not_lt.mpr (Nat.le_of_lt_succ short)), rfl, .inl ⟨rfl, rfl⟩⟩
  | field field =>
      cases standing
      have member : field ∈ format.fields := Format.mem_fields_of_placed placed
      have found := Format.getElem?_fields_iff.mpr ⟨member, rfl⟩
      have declared := Format.index_lt_fieldCount member
      have incomplete : ¬ field.offset + field.type.width ≤ buffer.length :=
        Nat.not_le.mpr short
      refine ⟨_, .truncatedField field.index field.type _, ?_, rfl,
        .inr ⟨field, rfl, found, rfl⟩⟩
      simp [read, Slots.get?, declared, incomplete, width]

/-- A buffer is unpacked to what the bytes of each field mean if it is as long as the
layout.  Otherwise the first placement that ends beyond it is reported, with the bytes
that it needs and those that are left. -/
theorem unpack_follows_layout [Machine] {options : Options} {text : String} {layout : Layout}
    (compiled : Layout.compile options text = .ok layout) (buffer : List UInt8) :
    (layout.size ≤ buffer.length →
      layout.fields.length = layout.fieldCount ∧
      unpack options text buffer (.value .nothing) =
        .ok (layout.fields.map (fun field => field.meaning buffer))) ∧
    (buffer.length < layout.size →
      ∃ before placement after position shortage error,
        layout.format.placements = before ++ placement :: after ∧
        (∀ earlier ∈ before, ∀ start, earlier.offset? = some start →
          start + earlier.width ≤ buffer.length) ∧
        placement.offset? = some position ∧
        position ≤ buffer.length ∧ buffer.length < position + placement.width ∧
        shortage = ⟨position, placement.width, buffer.length - position⟩ ∧
        (placement = .pad position ∧ error = .truncatedPad shortage ∨
          ∃ field, placement = .field field ∧ layout.fields[field.index]? = some field ∧
            error = .truncatedField field.index field.type shortage) ∧
        error.kind = .library .bufferUnderrun ∧
        unpack options text buffer (.value .nothing) = .error error) := by
  obtain ⟨format, reading, rfl⟩ := Layout.compile_eq_ok_iff.mp compiled
  constructor
  · intro long
    obtain ⟨data, unpacked, decoded⟩ := unpack_of_size_le reading long
    have meanings : data = format.fields.map (fun field => field.meaning buffer) := by
      apply Traversal.eq_map_of_forall₂ decoded
      intro field member datum decodes
      have whole := (Format.field_end_le_size member).trans long
      have means := FieldPlacement.decodes_meaning whole
      rw [FieldPlacement.Decodes, decodes] at means
      cases means
      rfl
    refine ⟨Format.length_fields format, ?_⟩
    rw [unpacked, meanings]
    rfl
  · intro short
    change buffer.length < format.size at short
    rw [← Format.span_placements] at short
    obtain ⟨before, placement, after, split, low, high⟩ := Placement.exists_split_of_lt short
    have passed : ∀ earlier ∈ before, ∀ start, earlier.offset? = some start →
        start + earlier.width ≤ buffer.length := by
      intro earlier member start standing
      exact (Format.end_le_span_of_split split member standing).trans low
    have placed : placement ∈ format.placements := by
      rw [split]
      exact List.mem_append_right before List.mem_cons_self
    obtain ⟨position, standing⟩ : ∃ position, placement.offset? = some position := by
      cases placement with
      | marker order => exact absurd high (Nat.not_lt.mpr low)
      | pad offset => exact ⟨offset, rfl⟩
      | field field => exact ⟨field.offset, rfl⟩
    have start := Format.offset_of_split split standing
    rw [← start] at low high
    obtain ⟨shortage, error, failed, shortage_eq, reported⟩ :=
      Placement.read_truncated options.narrowing text placed standing high
    refine ⟨before, placement, after, position, shortage, error, split, passed, standing,
      low, high, shortage_eq, reported, ?_, ?_⟩
    · rcases reported with ⟨_, rfl⟩ | ⟨field, _, _, rfl⟩ <;> rfl
    · have readable : ∀ earlier ∈ before, ∃ result,
          earlier.read options.narrowing text (.uniform format.fieldCount) buffer =
            .ok result := by
        intro earlier member
        have earlierPlaced : earlier ∈ format.placements := by
          rw [split]
          exact List.mem_append_left _ member
        obtain ⟨result, _, success⟩ := Placement.exists_read_eq_ok options.narrowing text
          earlierPlaced (passed earlier member)
        exact ⟨result, success⟩
      have stopped := Traversal.mapM_eq_error readable failed after
      rw [unpack_eq_read reading rfl, split, stopped]
      rfl

open SmallMachine in
theorem unpack_follows_layout_signed :
    ∃ layout, Layout.compile {} "<Bx>h" = .ok layout ∧
      layout.fields.map (fun field => field.meaning [7, 9, 255, 254, 1]) =
        [.integer 7, .integer (-2)] ∧
      unpack {} "<Bx>h" [7, 9, 255, 254, 1] (.value .nothing) =
        .ok (layout.fields.map (fun field => field.meaning [7, 9, 255, 254, 1])) ∧
      ∃ error, error.kind = .library .bufferUnderrun ∧
        unpack {} "<Bx>h" [7, 9, 255] (.value .nothing) = .error error := by
  have compiled : Layout.compile {} "<Bx>h" = .ok ⟨"<Bx>h", {},
      [.marker .little, .field (.integer ⟨.unsigned, .one⟩), .pad, .marker .big,
        .field (.integer ⟨.signed, .two⟩)]⟩ := rfl
  obtain ⟨_, unpacked⟩ := (unpack_follows_layout compiled [7, 9, 255, 254, 1]).1 (by decide)
  obtain ⟨_, _, _, _, _, error, _, _, _, _, _, _, _, underrun, failed⟩ :=
    (unpack_follows_layout compiled [7, 9, 255]).2 (by decide)
  exact ⟨_, compiled, by decide, unpacked, error, underrun, failed⟩

end StructCodec

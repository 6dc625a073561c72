import StructCodec.Proofs.Composition
import StructCodec.Proofs.Delivery

/-!
# Narrowing slots read the low-order bytes

A slot that wraps an integer to fewer bytes delivers what these bytes of the field mean on
their own.  They stand at the front of the field in little-endian order and at its back in
big-endian order.  So the slot can be written into the format: the field is given the type
of the slot, and pad bytes take the place of the bytes that the slot drops.
-/

namespace StructCodec

/-- A slot takes a field as it is, or the low-order bytes of an integer. -/
inductive Slot.Trims : Slot → ScalarType → Prop where
  | whole (type : ScalarType) : Trims .asDecoded type
  | low {kept type : IntegerType} (narrower : kept.width.bytes ≤ type.width.bytes) :
      Trims (.scalar (.integer kept)) (.integer type)

/-- The directives that read what a slot takes of a field. -/
def Slot.trim (order : ByteOrder) (type : ScalarType) : Slot → Format
  | .scalar (.integer kept) =>
      let dropped := List.replicate (type.width - kept.width.bytes) Directive.pad
      match order with
      | .little => .field (.integer kept) :: dropped
      | .big => dropped ++ [.field (.integer kept)]
  | _ => [.field type]

/-- A format whose fields are those that slots take of the fields of another one. -/
def Format.trimFrom : ByteOrder → Format → List Slot → Format
  | _, [], _ => []
  | _, .marker next :: rest, slots => .marker next :: trimFrom next rest slots
  | order, .pad :: rest, slots => .pad :: trimFrom order rest slots
  | order, .field type :: rest, slot :: slots =>
      slot.trim order type ++ trimFrom order rest slots
  | order, .field type :: rest, [] => .field type :: trimFrom order rest []

/-- The same for the characters of a format, of which the tags alone are replaced. -/
def trimChars : ByteOrder → List Char → List Slot → List Char
  | _, [], _ => []
  | order, char :: chars, slots =>
      match Directive.ofChar? char, slots with
      | some (.marker next), slots => char :: trimChars next chars slots
      | some (.field type), slot :: slots =>
          (slot.trim order type).map Directive.toChar ++ trimChars order chars slots
      | _, slots => char :: trimChars order chars slots

def trimText (text : String) (slots : List Slot) : String :=
  String.ofList (trimChars .initial text.toList slots)

/-! ### The trimmed text is a format -/

theorem filterMap_trimChars (order : ByteOrder) (chars : List Char) (slots : List Slot) :
    (trimChars order chars slots).filterMap Directive.ofChar? =
      Format.trimFrom order (chars.filterMap Directive.ofChar?) slots := by
  induction chars generalizing order slots with
  | nil => rfl
  | cons char chars induction =>
      cases found : Directive.ofChar? char with
      | none => simp only [trimChars, found, List.filterMap_cons_none, induction]
      | some directive =>
          rw [List.filterMap_cons_some found]
          cases directive with
          | marker next =>
              simp only [trimChars, found]
              rw [List.filterMap_cons_some found, induction, Format.trimFrom]
          | pad =>
              simp only [trimChars, found]
              rw [List.filterMap_cons_some found, induction, Format.trimFrom]
          | field type =>
              cases slots with
              | nil =>
                  simp only [trimChars, found]
                  rw [List.filterMap_cons_some found, induction, Format.trimFrom]
              | cons slot slots =>
                  simp only [trimChars, found, List.filterMap_append,
                    filterMap_ofChar?_map_toChar, induction, Format.trimFrom]

theorem accepts_of_mem_trimChars {options : Options} {chars : List Char}
    (accepted : ∀ char ∈ chars, options.Accepts char) (order : ByteOrder)
    (slots : List Slot) : ∀ char ∈ trimChars order chars slots, options.Accepts char := by
  induction chars generalizing order slots with
  | nil => exact accepted
  | cons first chars induction =>
      have firstAccepted := accepted first List.mem_cons_self
      have later := induction
        (fun char member => accepted char (List.mem_cons_of_mem first member))
      intro char member
      simp only [trimChars] at member
      split at member
      · rcases List.mem_cons.mp member with rfl | inRest
        · exact firstAccepted
        · exact later _ _ char inRest
      · rcases List.mem_append.mp member with inField | inRest
        · obtain ⟨directive, _, written⟩ := List.mem_map.mp inField
          exact .inl ⟨directive, written⟩
        · exact later _ _ char inRest
      · rcases List.mem_cons.mp member with rfl | inRest
        · exact firstAccepted
        · exact later _ _ char inRest

theorem parse_trimText {options : Options} {text : String} {format : Format}
    (reading : Format.parse options text = .ok format) (slots : List Slot) :
    Format.parse options (trimText text slots) = .ok (format.trimFrom .initial slots) := by
  obtain ⟨accepted, rfl⟩ := Format.parse_eq_ok_iff.mp reading
  apply Format.parse_eq_ok_iff.mpr
  rw [trimText, String.toList_ofList, filterMap_trimChars]
  exact ⟨accepts_of_mem_trimChars accepted .initial slots, rfl⟩

/-! ### Where the trimmed fields stand -/

/-- The place of what a slot takes of a field. -/
def FieldPlacement.trim (field : FieldPlacement) : Slot → FieldPlacement
  | .scalar (.integer kept) =>
      let dropped := field.type.width - kept.width.bytes
      { field with
        type := .integer kept
        offset := match field.order with
          | .little => field.offset
          | .big => field.offset + dropped }
  | _ => field

namespace Format

theorem size_pads (count : Nat) : size (List.replicate count .pad) = count := by
  induction count with
  | zero => rfl
  | succ count induction =>
      rw [List.replicate_succ, size, induction, Directive.width, Nat.add_comm]

theorem fieldCount_pads (count : Nat) : fieldCount (List.replicate count .pad) = 0 := by
  induction count with
  | zero => rfl
  | succ count induction => rw [List.replicate_succ, fieldCount_pad, induction]

theorem orderAfter_pads (order : ByteOrder) (count : Nat) :
    orderAfter order (List.replicate count .pad) = order := by
  induction count with
  | zero => rfl
  | succ count induction => rw [List.replicate_succ, orderAfter, induction]

theorem fields_placeFrom_pads (order : ByteOrder) (offset index count : Nat) :
    Placement.fields (placeFrom order offset index (List.replicate count .pad)) = [] := by
  induction count generalizing offset with
  | zero => rfl
  | succ count induction =>
      rw [List.replicate_succ, placeFrom, Placement.fields_pad, induction]

end Format

namespace Slot

variable {slot : Slot} {type : ScalarType}

theorem size_trim (order : ByteOrder) (trims : slot.Trims type) :
    Format.size (slot.trim order type) = type.width := by
  cases trims with
  | whole type => exact Nat.add_zero _
  | @low kept type narrower =>
      cases order with
      | little =>
          simp only [trim, Format.size, Format.size_pads, Directive.width, ScalarType.width]
          omega
      | big =>
          simp only [trim, Format.size_append, Format.size, Format.size_pads, Directive.width,
            ScalarType.width]
          omega

theorem fieldCount_trim (order : ByteOrder) (trims : slot.Trims type) :
    Format.fieldCount (slot.trim order type) = 1 := by
  cases trims with
  | whole type => rfl
  | low narrower =>
      cases order with
      | little => simp [trim, Format.fieldCount_pads]
      | big => simp [trim, Format.fieldCount_append, Format.fieldCount_pads]

theorem orderAfter_trim (order : ByteOrder) (trims : slot.Trims type) :
    Format.orderAfter order (slot.trim order type) = order := by
  cases trims with
  | whole type => rfl
  | low narrower =>
      cases order with
      | little => simp [trim, Format.orderAfter, Format.orderAfter_pads]
      | big => simp [trim, Format.orderAfter, Format.orderAfter_append, Format.orderAfter_pads]

theorem fields_trim (order : ByteOrder) (offset index : Nat) (trims : slot.Trims type) :
    Placement.fields (Format.placeFrom order offset index (slot.trim order type)) =
      [FieldPlacement.trim ⟨index, type, offset, order⟩ slot] := by
  cases trims with
  | whole type => rfl
  | low narrower =>
      cases order with
      | little =>
          simp [trim, Format.placeFrom, Format.fields_placeFrom_pads, FieldPlacement.trim]
      | big =>
          simp [trim, Format.placeFrom, Format.fields_placeFrom_append,
            Format.fields_placeFrom_pads, Format.orderAfter_pads, Format.size_pads,
            Format.fieldCount_pads, FieldPlacement.trim]

end Slot

namespace Format

theorem size_trimFrom {format : Format} {order : ByteOrder} {offset index : Nat}
    {slots : List Slot}
    (trims : List.Forall₂ (fun field slot => slot.Trims field.type)
      (Placement.fields (format.placeFrom order offset index)) slots) :
    size (format.trimFrom order slots) = format.size := by
  induction format generalizing order offset index slots with
  | nil => rfl
  | cons directive format induction =>
      cases directive with
      | marker next => exact congrArg (0 + ·) (induction trims)
      | pad => exact congrArg (1 + ·) (induction trims)
      | field type =>
          obtain ⟨slot, others, first, rest, rfl⟩ := List.forall₂_cons_left_iff.mp trims
          rw [trimFrom, size_append, slot.size_trim order first, induction rest]
          rfl

/-- The fields of a trimmed format are the trimmed fields. -/
theorem fields_trimFrom {format : Format} {order : ByteOrder} {offset index : Nat}
    {slots : List Slot}
    (trims : List.Forall₂ (fun field slot => slot.Trims field.type)
      (Placement.fields (format.placeFrom order offset index)) slots) :
    Placement.fields ((format.trimFrom order slots).placeFrom order offset index) =
      List.zipWith FieldPlacement.trim
        (Placement.fields (format.placeFrom order offset index)) slots := by
  induction format generalizing order offset index slots with
  | nil => rfl
  | cons directive format induction =>
      cases directive with
      | marker next => exact induction trims
      | pad => exact induction trims
      | field type =>
          obtain ⟨slot, others, first, rest, rfl⟩ := List.forall₂_cons_left_iff.mp trims
          rw [trimFrom, fields_placeFrom_append, slot.fields_trim order offset index first,
            slot.orderAfter_trim order first, slot.size_trim order first,
            slot.fieldCount_trim order first, induction rest]
          rfl

end Format

/-! ### What the trimmed fields mean -/

namespace FieldPlacement

variable {field : FieldPlacement} {buffer : List UInt8}

theorem meaning_integer {type : IntegerType} (typed : field.type = .integer type)
    (complete : field.offset + field.type.width ≤ buffer.length) :
    ∃ number, field.meaning buffer = .integer number ∧
      (ScalarType.integer type).InRange number ∧
      number % 256 ^ type.width.bytes =
        (field.magnitude buffer : Int) % 256 ^ type.width.bytes := by
  obtain ⟨datum, decoded, admitted, _⟩ :=
    ScalarType.decode_of_length (length_fromWire_slice complete)
  have means : field.type.decode (field.order.fromWire (field.slice buffer)) =
      .ok (field.meaning buffer) := decodes_meaning complete
  rw [decoded] at means
  cases means
  rw [typed] at admitted
  simp only [meaning, typed] at admitted ⊢
  refine ⟨_, rfl, admitted, ?_⟩
  split
  · rw [type.two_pow_bits]
    exact Int.sub_emod_right _ _
  · rfl

/-- A field whose bytes are the low-order ones of another field stands for a residue. -/
theorem magnitude_of_position {low : FieldPlacement}
    (narrower : low.type.width ≤ field.type.width)
    (positions : ∀ weight < low.type.width, low.position weight = field.position weight)
    (lowComplete : low.offset + low.type.width ≤ buffer.length)
    (complete : field.offset + field.type.width ≤ buffer.length) :
    low.magnitude buffer = field.magnitude buffer % 256 ^ low.type.width := by
  have bytes_eq : low.order.fromWire (low.slice buffer) =
      (field.order.fromWire (field.slice buffer)).take low.type.width := by
    apply List.ext_getElem?
    intro weight
    by_cases inside : weight < low.type.width
    · rw [List.getElem?_take_of_lt inside, getElem?_fromWire_slice inside lowComplete,
        getElem?_fromWire_slice (Nat.lt_of_lt_of_le inside narrower) complete,
        positions weight inside]
    · have outside : low.type.width ≤ weight := Nat.not_lt.mp inside
      rw [List.getElem?_eq_none, List.getElem?_eq_none]
      · rw [List.length_take]
        omega
      · rw [length_fromWire_slice lowComplete]
        exact outside
  rw [← decodeNat_fromWire_slice lowComplete, bytes_eq, LittleEndian.decodeNat_take,
    decodeNat_fromWire_slice complete]

/-- The bytes that are kept stand where the bytes of the same weight stood. -/
theorem position_trim {kept : IntegerType} {weight : Nat} (inside : weight < kept.width.bytes)
    (narrower : kept.width.bytes ≤ field.type.width) :
    (field.trim (.scalar (.integer kept))).position weight = field.position weight := by
  cases order : field.order with
  | little => simp [trim, position, order]
  | big =>
      have width_eq : (ScalarType.integer kept).width = kept.width.bytes := rfl
      simp only [trim, position, order, width_eq]
      omega

theorem trim_end_le {kept : IntegerType} (narrower : kept.width.bytes ≤ field.type.width) :
    (field.trim (.scalar (.integer kept))).offset + kept.width.bytes ≤
      field.offset + field.type.width := by
  cases order : field.order <;> simp only [trim, order] <;> omega

/-- A slot that wraps gives what the bytes that it keeps mean. -/
theorem gives_meaning_trim {slot : Slot} (trims : slot.Trims field.type)
    (complete : field.offset + field.type.width ≤ buffer.length) :
    slot.Gives .wrap (field.meaning buffer) ((field.trim slot).meaning buffer) := by
  generalize typed : field.type = type at trims
  cases trims with
  | whole type => exact .asDecoded _
  | @low kept type narrower =>
      have fits : kept.width.bytes ≤ field.type.width := by
        rw [typed]
        exact narrower
      have lowComplete := (trim_end_le fits).trans complete
      have residue : (field.trim (.scalar (.integer kept))).magnitude buffer =
          field.magnitude buffer % 256 ^ kept.width.bytes := by
        apply magnitude_of_position _ _ lowComplete complete
        · exact fits
        · intro weight inside
          exact position_trim inside fits
      obtain ⟨number, means, _, congruent⟩ := meaning_integer typed complete
      obtain ⟨low, lowMeans, inRange, lowCongruent⟩ :
          ∃ low, (field.trim (.scalar (.integer kept))).meaning buffer = .integer low ∧
            (ScalarType.integer kept).InRange low ∧
            low % 256 ^ kept.width.bytes =
              ((field.trim (.scalar (.integer kept))).magnitude buffer : Int) %
                256 ^ kept.width.bytes := meaning_integer rfl lowComplete
      rw [means, lowMeans]
      apply Slot.Gives.narrowed
      apply ScalarType.narrow_wrap_iff.mpr
      refine ⟨inRange, ?_⟩
      calc
        low % 256 ^ kept.width.bytes =
            ((field.magnitude buffer % 256 ^ kept.width.bytes : Nat) : Int) %
              256 ^ kept.width.bytes := by
          rw [lowCongruent, residue]
        _ = (field.magnitude buffer : Int) % 256 ^ kept.width.bytes := by
          push_cast
          exact Int.emod_emod_of_dvd _ dvd_rfl
        _ = number % 256 ^ kept.width.bytes :=
          (ScalarType.emod_of_narrower narrower congruent).symm

theorem trim_same_width {kept type : IntegerType} (typed : field.type = .integer type)
    (same : kept.width = type.width) :
    field.trim (.scalar (.integer kept)) = { field with type := .integer kept } := by
  cases order : field.order <;> simp [trim, typed, ScalarType.width, same, order]

end FieldPlacement

/-! ### Formats that differ in signs -/

/-- Formats that are the same up to the signs of the integers that slots narrow. -/
inductive Format.Resigned : Format → Format → List Slot → Prop where
  | nil : Resigned [] [] []
  | marker {left right : Format} {slots : List Slot} (order : ByteOrder)
      (rest : Resigned left right slots) :
      Resigned (.marker order :: left) (.marker order :: right) slots
  | pad {left right : Format} {slots : List Slot} (rest : Resigned left right slots) :
      Resigned (.pad :: left) (.pad :: right) slots
  | same {left right : Format} {slots : List Slot} (type : ScalarType) (slot : Slot)
      (rest : Resigned left right slots) :
      Resigned (.field type :: left) (.field type :: right) (slot :: slots)
  | resigned {left right : Format} {slots : List Slot} (kept : IntegerType)
      (first second : Signedness) (width : IntegerWidth) (rest : Resigned left right slots) :
      Resigned (.field (.integer ⟨first, width⟩) :: left)
        (.field (.integer ⟨second, width⟩) :: right) (.scalar (.integer kept) :: slots)

namespace Format.Resigned

variable {left right : Format} {slots : List Slot}

theorem trimFrom_eq (resigned : Resigned left right slots) (order : ByteOrder) :
    right.trimFrom order slots = left.trimFrom order slots := by
  induction resigned generalizing order with
  | nil => rfl
  | marker next rest induction => exact congrArg (.marker next :: ·) (induction next)
  | pad rest induction => exact congrArg (.pad :: ·) (induction order)
  | same type slot rest induction => exact congrArg (slot.trim order type ++ ·) (induction order)
  | resigned kept first second width rest induction =>
      exact congrArg
        (Slot.trim order (.integer ⟨first, width⟩) (.scalar (.integer kept)) ++ ·)
        (induction order)

theorem trims (resigned : Resigned left right slots) {order : ByteOrder} {offset index : Nat}
    (trimmed : List.Forall₂ (fun field slot => slot.Trims field.type)
      (Placement.fields (left.placeFrom order offset index)) slots) :
    List.Forall₂ (fun field slot => slot.Trims field.type)
      (Placement.fields (right.placeFrom order offset index)) slots := by
  induction resigned generalizing order offset index with
  | nil => exact trimmed
  | marker next rest induction => exact induction trimmed
  | pad rest induction => exact induction trimmed
  | same type slot rest induction =>
      cases trimmed with
      | cons first others => exact .cons first (induction others)
  | resigned kept first second width rest induction =>
      cases trimmed with
      | cons narrower others =>
          cases narrower with
          | low narrower => exact .cons (.low narrower) (induction others)

end Format.Resigned

/-! ### Unpacking through slots that trim -/

section Trimmed

variable {blanks : Bool} {text : String} {format : Format} {buffer : List UInt8}
  {slots : List Slot}

/-- Slots that trim the fields deliver what the trimmed fields mean. -/
theorem unpack_trims [Machine] (reading : Format.parse ⟨.wrap, blanks⟩ text = .ok format)
    (long : format.size ≤ buffer.length)
    (trims : List.Forall₂ (fun field slot => slot.Trims field.type) format.fields slots) :
    unpack ⟨.wrap, blanks⟩ text buffer (.slots (slots.map .slot)) =
      .ok ((List.zipWith FieldPlacement.trim format.fields slots).map
        (fun field => field.meaning buffer)) := by
  have count : slots.length = format.fieldCount := by
    rw [← trims.length_eq, Format.length_fields]
  apply (unpack_eq_ok_iff reading (ShapeRequest.declares_slots format slots)).mpr
  refine ⟨long, count, Traversal.forall₂_iff_getElem?.mpr ⟨?_, ?_⟩⟩
  · simp [count]
  · intro index field datum foundField foundDatum
    obtain ⟨slot, foundSlot, fits⟩ := Traversal.getElem?_of_forall₂ trims foundField
    obtain ⟨member, standing⟩ := Format.getElem?_fields_iff.mp foundField
    have complete := (Format.field_end_le_size member).trans long
    simp only [List.getElem?_map, List.getElem?_zipWith, foundField, foundSlot,
      Option.map_some, Option.some.injEq] at foundDatum
    subst datum
    refine ⟨slot, ?_, complete, FieldPlacement.gives_meaning_trim fits complete⟩
    rw [standing]
    exact foundSlot

theorem unpack_trimText [Machine] (reading : Format.parse ⟨.wrap, blanks⟩ text = .ok format)
    (long : format.size ≤ buffer.length)
    (trims : List.Forall₂ (fun field slot => slot.Trims field.type) format.fields slots) :
    unpack ⟨.wrap, blanks⟩ (trimText text slots) buffer (.value .nothing) =
      .ok ((List.zipWith FieldPlacement.trim format.fields slots).map
        (fun field => field.meaning buffer)) := by
  have trimmedReading := parse_trimText reading slots
  have trimmedLong : Format.size (format.trimFrom .initial slots) ≤ buffer.length := by
    rw [Format.size_trimFrom trims]
    exact long
  have fields_eq : Format.fields (format.trimFrom .initial slots) =
      List.zipWith FieldPlacement.trim format.fields slots := Format.fields_trimFrom trims
  rw [unpack_meanings trimmedReading trimmedLong, fields_eq]

end Trimmed

/-- Unpacking through slots that wrap to no more bytes than their fields have is unpacking by
the format with the tags of the slots, in which pad bytes stand for the bytes of high order.
So the signs of the narrowed fields do not matter, and a slot of the same width reads the
bytes of its field as its own. -/
theorem unpack_low_order_bytes [Machine] {blanks : Bool} {text : String} {layout : Layout}
    {buffer : List UInt8} {slots : List Slot}
    (compiled : Layout.compile ⟨.wrap, blanks⟩ text = .ok layout)
    (long : layout.size ≤ buffer.length)
    (trims : List.Forall₂ (fun field slot => slot.Trims field.type) layout.fields slots) :
    ∃ trimmed data,
      Layout.compile ⟨.wrap, blanks⟩ (trimText text slots) = .ok trimmed ∧
      trimmed.size = layout.size ∧
      unpack ⟨.wrap, blanks⟩ text buffer (.slots (slots.map .slot)) = .ok data ∧
      unpack ⟨.wrap, blanks⟩ (trimText text slots) buffer (.value .nothing) = .ok data ∧
      (∀ otherText other, Layout.compile ⟨.wrap, blanks⟩ otherText = .ok other →
        Format.Resigned layout.format other.format slots →
        unpack ⟨.wrap, blanks⟩ otherText buffer (.slots (slots.map .slot)) = .ok data) ∧
      ∀ (index : Nat) (field : FieldPlacement) (type kept : IntegerType),
        layout.fields[index]? = some field → field.type = .integer type →
        slots[index]? = some (.scalar (.integer kept)) → kept.width = type.width →
        data[index]? = some (FieldPlacement.meaning { field with type := .integer kept } buffer) := by
  obtain ⟨format, reading, rfl⟩ := Layout.compile_eq_ok_iff.mp compiled
  refine ⟨⟨trimText text slots, ⟨.wrap, blanks⟩, format.trimFrom .initial slots⟩, _,
    Layout.compile_eq_ok_iff.mpr ⟨_, parse_trimText reading slots, rfl⟩,
    Format.size_trimFrom trims, unpack_trims reading long trims,
    unpack_trimText reading long trims, ?_, ?_⟩
  · intro otherText other otherCompiled resigned
    obtain ⟨otherFormat, otherReading, rfl⟩ := Layout.compile_eq_ok_iff.mp otherCompiled
    have otherTrims : List.Forall₂ (fun field slot => slot.Trims field.type)
        otherFormat.fields slots := resigned.trims trims
    have sameTrimmed : Format.trimFrom .initial otherFormat slots =
        Format.trimFrom .initial format slots := resigned.trimFrom_eq .initial
    have sameSize : otherFormat.size = format.size := by
      rw [← Format.size_trimFrom otherTrims, ← Format.size_trimFrom trims, sameTrimmed]
    have sameFields : List.zipWith FieldPlacement.trim otherFormat.fields slots =
        List.zipWith FieldPlacement.trim format.fields slots := by
      calc
        List.zipWith FieldPlacement.trim otherFormat.fields slots =
            Format.fields (otherFormat.trimFrom .initial slots) :=
          (Format.fields_trimFrom otherTrims).symm
        _ = Format.fields (format.trimFrom .initial slots) := by rw [sameTrimmed]
        _ = List.zipWith FieldPlacement.trim format.fields slots :=
          Format.fields_trimFrom trims
    rw [unpack_trims otherReading (sameSize.trans_le long) otherTrims, sameFields]
  · intro index field type kept foundField typed foundSlot same
    have fields_eq : format.fields[index]? = some field := foundField
    rw [List.getElem?_map, List.getElem?_zipWith, fields_eq, foundSlot]
    rw [← FieldPlacement.trim_same_width typed same]
    rfl

open SmallMachine in
theorem unpack_low_order_bytes_signed :
    trimText "<h >i?" [.scalar (.integer ⟨.unsigned, .one⟩),
        .scalar (.integer ⟨.signed, .two⟩), .asDecoded] = "<Bx >xxh?" ∧
      unpack {} "<h >i?" [255, 254, 9, 9, 128, 1, 2] (.slots
        [.slot (.scalar (.integer ⟨.unsigned, .one⟩)),
          .slot (.scalar (.integer ⟨.signed, .two⟩)), .slot .asDecoded]) =
        .ok [.integer 255, .integer (-32767), .boolean true] ∧
      unpack {} "<Bx >xxh?" [255, 254, 9, 9, 128, 1, 2] (.value .nothing) =
        .ok [.integer 255, .integer (-32767), .boolean true] := by
  have compiled : Layout.compile {} "<h >i?" = .ok ⟨"<h >i?", {},
      [.marker .little, .field (.integer ⟨.signed, .two⟩), .marker .big,
        .field (.integer ⟨.signed, .four⟩), .field .boolean]⟩ := rfl
  have trimmedText : trimText "<h >i?" [.scalar (.integer ⟨.unsigned, .one⟩),
      .scalar (.integer ⟨.signed, .two⟩), .asDecoded] = "<Bx >xxh?" := by decide
  have unpacked : unpack {} "<h >i?" [255, 254, 9, 9, 128, 1, 2] (.slots
      [.slot (.scalar (.integer ⟨.unsigned, .one⟩)),
        .slot (.scalar (.integer ⟨.signed, .two⟩)), .slot .asDecoded]) =
      .ok [.integer 255, .integer (-32767), .boolean true] := rfl
  have trims : List.Forall₂ (fun (field : FieldPlacement) (slot : Slot) =>
      slot.Trims field.type)
      [⟨0, .integer ⟨.signed, .two⟩, 0, .little⟩, ⟨1, .integer ⟨.signed, .four⟩, 2, .big⟩,
        ⟨2, .boolean, 6, .big⟩]
      [.scalar (.integer ⟨.unsigned, .one⟩), .scalar (.integer ⟨.signed, .two⟩),
        .asDecoded] :=
    .cons (.low (by decide)) (.cons (.low (by decide)) (.cons (.whole _) .nil))
  have long : 7 ≤ ([255, 254, 9, 9, 128, 1, 2] : List UInt8).length := by decide
  obtain ⟨trimmed, data, _, _, throughSlots, byTrimmed, _⟩ :=
    unpack_low_order_bytes compiled long trims
  refine ⟨trimmedText, unpacked, ?_⟩
  rw [← trimmedText, byTrimmed, ← throughSlots]
  exact unpacked

end StructCodec

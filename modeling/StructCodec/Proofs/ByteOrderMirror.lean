import StructCodec.Proofs.EffectiveLayout

/-!
# Formats in the opposite byte order

If the markers of a format are exchanged, and the order at its start is too, each field keeps
its place and stands in the opposite byte order.  So what is packed, or is to be unpacked, has
the bytes of each field the other way round, and nothing else changes.
-/

namespace StructCodec

/-! ### Fields the other way round -/

/-- Reverses in place the bytes of a field, if they are all there. -/
def FieldPlacement.reverseIn (field : FieldPlacement) (bytes : List UInt8) : List UInt8 :=
  if field.offset + field.type.width ≤ bytes.length then
    bytes.take field.offset ++ (field.slice bytes).reverse ++
      bytes.drop (field.offset + field.type.width)
  else bytes

/-- Reverses in place the bytes of each of some fields. -/
def reverseFields (fields : List FieldPlacement) (bytes : List UInt8) : List UInt8 :=
  fields.foldl (fun bytes field => field.reverseIn bytes) bytes

namespace FieldPlacement

variable {field : FieldPlacement} {bytes : List UInt8}

theorem reverseIn_append {front block : List UInt8} (start : field.offset = front.length)
    (fitting : block.length = field.type.width) (rest : List UInt8) :
    field.reverseIn (front ++ (block ++ rest)) = front ++ block.reverse ++ rest := by
  have complete : field.offset + field.type.width ≤ (front ++ (block ++ rest)).length := by
    simp only [List.length_append]
    omega
  rw [reverseIn, if_pos complete, slice, start, ← fitting, List.drop_left, List.take_left,
    List.take_left, ← List.drop_drop, List.drop_left, List.drop_left]

theorem slice_reverseIn (complete : field.offset + field.type.width ≤ bytes.length) :
    field.slice (field.reverseIn bytes) = (field.slice bytes).reverse := by
  have start : (bytes.take field.offset).length = field.offset := by
    rw [List.length_take]
    omega
  have fitting : (field.slice bytes).reverse.length = field.type.width := by
    rw [List.length_reverse, length_slice complete]
  rw [reverseIn, if_pos complete, List.append_assoc]
  conv_lhs => rw [slice]
  rw [List.drop_left' start, List.take_left' fitting]

@[simp] theorem length_reverseIn (field : FieldPlacement) (bytes : List UInt8) :
    (field.reverseIn bytes).length = bytes.length := by
  rw [reverseIn]
  split
  next complete =>
    simp only [List.length_append, List.length_reverse, List.length_take, List.length_drop,
      length_slice complete]
    omega
  next => rfl

theorem getElem?_reverseIn_of_outside {position : Nat}
    (outside : field.offset + field.type.width ≤ bytes.length →
      position < field.offset ∨ field.offset + field.type.width ≤ position) :
    (field.reverseIn bytes)[position]? = bytes[position]? := by
  rw [reverseIn]
  split
  next complete =>
    have blockLength := length_slice complete
    rcases outside complete with before | behind
    · rw [List.append_assoc, List.getElem?_append_left (by rw [List.length_take]; omega),
        List.getElem?_take_of_lt before]
    · have frontLength : (bytes.take field.offset ++ (field.slice bytes).reverse).length =
          field.offset + field.type.width := by
        rw [List.length_append, List.length_reverse, List.length_take, blockLength]
        omega
      rw [List.getElem?_append_right (by omega), frontLength, List.getElem?_drop,
        Nat.add_sub_cancel' behind]
  next => rfl

end FieldPlacement

@[simp] theorem length_reverseFields (fields : List FieldPlacement) (bytes : List UInt8) :
    (reverseFields fields bytes).length = bytes.length := by
  induction fields generalizing bytes with
  | nil => rfl
  | cons field fields induction =>
      rw [reverseFields, List.foldl_cons, ← reverseFields, induction,
        FieldPlacement.length_reverseIn]

theorem getElem?_reverseFields_of_outside {fields : List FieldPlacement} {bytes : List UInt8}
    {position : Nat}
    (outside : ∀ field ∈ fields, field.offset + field.type.width ≤ bytes.length →
      position < field.offset ∨ field.offset + field.type.width ≤ position) :
    (reverseFields fields bytes)[position]? = bytes[position]? := by
  induction fields generalizing bytes with
  | nil => rfl
  | cons field fields induction =>
      rw [reverseFields, List.foldl_cons, ← reverseFields, induction]
      · exact FieldPlacement.getElem?_reverseIn_of_outside (outside field List.mem_cons_self)
      · intro later member
        rw [FieldPlacement.length_reverseIn]
        exact outside later (List.mem_cons_of_mem field member)

theorem slice_reverseFields_of_apart {fields : List FieldPlacement} {field : FieldPlacement}
    (apart : ∀ other ∈ fields, other.offset + other.type.width ≤ field.offset ∨
      field.offset + field.type.width ≤ other.offset) (bytes : List UInt8) :
    field.slice (reverseFields fields bytes) = field.slice bytes := by
  apply FieldPlacement.slice_congr
  intro position low high
  apply getElem?_reverseFields_of_outside
  intro other member _
  rcases apart other member with before | behind
  · right
    omega
  · left
    omega

namespace Format

theorem slice_reverseFields {format : Format} {field : FieldPlacement} {bytes : List UInt8}
    (member : field ∈ format.fields)
    (complete : field.offset + field.type.width ≤ bytes.length) :
    field.slice (reverseFields format.fields bytes) = (field.slice bytes).reverse := by
  obtain ⟨before, after, split⟩ := List.append_of_mem member
  have ordered := format.pairwise_fields
  rw [split] at ordered
  obtain ⟨_, fromField, toField⟩ := List.pairwise_append.mp ordered
  have untouchedBefore : field.slice (reverseFields before bytes) = field.slice bytes := by
    apply slice_reverseFields_of_apart
    intro other earlier
    exact .inl (toField other earlier field List.mem_cons_self)
  have stillComplete :
      field.offset + field.type.width ≤ (reverseFields before bytes).length := by
    rwa [length_reverseFields]
  have stages : reverseFields format.fields bytes =
      reverseFields after (field.reverseIn (reverseFields before bytes)) := by
    rw [split, reverseFields, List.foldl_append, List.foldl_cons]
    rfl
  rw [stages, slice_reverseFields_of_apart, FieldPlacement.slice_reverseIn stillComplete,
    untouchedBefore]
  intro other later
  exact .inr ((List.pairwise_cons.mp fromField).1 other later)

theorem getElem?_reverseFields_pad {format : Format} {offset : Nat}
    (isPad : offset ∈ format.padOffsets) (bytes : List UInt8) :
    (reverseFields format.fields bytes)[offset]? = bytes[offset]? := by
  apply getElem?_reverseFields_of_outside
  intro field member _
  by_contra inside
  rw [not_or, Nat.not_lt, Nat.not_le] at inside
  exact not_mem_padOffsets member inside.1 inside.2 isPad

/-- Of bytes that are laid out block by block, the blocks of the fields are reversed.  The
others are too short to be changed by that. -/
theorem reverseFields_flatten {order : ByteOrder} {offset index : Nat} {format : Format}
    {blocks : List (List UInt8)} {front : List UInt8}
    (fitting : List.Forall₂ (fun placement block => block.length = Placement.width placement)
      (format.placeFrom order offset index) blocks) (start : front.length = offset) :
    reverseFields (Placement.fields (format.placeFrom order offset index))
        (front ++ blocks.flatten) =
      front ++ (blocks.map List.reverse).flatten := by
  induction format generalizing order offset index blocks front with
  | nil =>
      cases fitting
      rfl
  | cons directive format induction =>
      cases directive with
      | marker next =>
          obtain ⟨block, others, here, rest, rfl⟩ := List.forall₂_cons_left_iff.mp fitting
          obtain rfl := List.length_eq_zero_iff.mp here
          have later := induction rest start
          simpa [placeFrom] using later
      | pad =>
          obtain ⟨block, others, here, rest, rfl⟩ := List.forall₂_cons_left_iff.mp fitting
          obtain ⟨byte, rfl⟩ := List.length_eq_one_iff.mp here
          have moved : (front ++ [byte]).length = offset + 1 := by simp [start]
          have later := induction rest moved
          simpa [placeFrom] using later
      | field type =>
          obtain ⟨block, others, here, rest, rfl⟩ := List.forall₂_cons_left_iff.mp fitting
          have moved : (front ++ block.reverse).length = offset + type.width := by
            rw [List.length_append, List.length_reverse, start, here]
            rfl
          have later := induction rest moved
          rw [placeFrom, Placement.fields_field, reverseFields, List.foldl_cons,
            ← reverseFields, List.flatten_cons,
            FieldPlacement.reverseIn_append start.symm here, later, List.map_cons,
            List.flatten_cons, List.append_assoc]

end Format

/-! ### The mirrored format -/

/-- The other byte order. -/
def ByteOrder.opposite : ByteOrder → ByteOrder
  | .little => .big
  | .big => .little

theorem ByteOrder.opposite_toWire (order : ByteOrder) (bytes : List UInt8) :
    order.opposite.toWire bytes = (order.toWire bytes).reverse := by
  cases order with
  | little => rfl
  | big => exact bytes.reverse_reverse.symm

theorem ByteOrder.opposite_fromWire (order : ByteOrder) (bytes : List UInt8) :
    order.opposite.fromWire bytes.reverse = order.fromWire bytes := by
  cases order with
  | little => exact bytes.reverse_reverse
  | big => rfl

def Directive.mirror : Directive → Directive
  | .marker order => .marker order.opposite
  | .pad => .pad
  | .field type => .field type

def exchangeMarker (char : Char) : Char :=
  if char = '<' then '>' else if char = '>' then '<' else char

/-- The big-endian marker, and then a text with its markers exchanged. -/
def mirrorText (text : String) : String :=
  String.ofList ('>' :: text.toList.map exchangeMarker)

theorem ofChar?_exchangeMarker (char : Char) :
    Directive.ofChar? (exchangeMarker char) =
      (Directive.ofChar? char).map Directive.mirror := by
  rw [exchangeMarker]
  split
  next little =>
    subst little
    rfl
  next notLittle =>
    split
    next big =>
      subst big
      rfl
    next notBig =>
      cases found : Directive.ofChar? char with
      | none => rfl
      | some directive =>
          obtain rfl := Directive.ofChar?_eq_some_iff.mp found
          cases directive with
          | marker order =>
              cases order with
              | little => exact absurd rfl notLittle
              | big => exact absurd rfl notBig
          | pad => rfl
          | field type => rfl

theorem Options.accepts_exchangeMarker {options : Options} {char : Char}
    (accepted : options.Accepts char) : options.Accepts (exchangeMarker char) := by
  rw [exchangeMarker]
  split
  · exact options.accepts_marker .big
  · split
    · exact options.accepts_marker .little
    · exact accepted

namespace Format

theorem parse_mirrorText {options : Options} {text : String} {format : Format}
    (reading : parse options text = .ok format) :
    parse options (mirrorText text) = .ok (.marker .big :: format.map Directive.mirror) := by
  obtain ⟨accepted, rfl⟩ := parse_eq_ok_iff.mp reading
  apply parse_eq_ok_iff.mpr
  rw [mirrorText, String.toList_ofList]
  constructor
  · intro char member
    rcases List.mem_cons.mp member with rfl | exchanged
    · exact options.accepts_marker .big
    · obtain ⟨original, inText, rfl⟩ := List.mem_map.mp exchanged
      exact Options.accepts_exchangeMarker (accepted original inText)
  · have big : Directive.ofChar? '>' = some (.marker .big) := rfl
    rw [List.filterMap_cons_some big, List.filterMap_map, List.map_filterMap]
    congr 1
    apply List.filterMap_congr
    intro char _
    exact (ofChar?_exchangeMarker char).symm

theorem fieldCount_mirror (format : Format) :
    fieldCount (.marker .big :: format.map Directive.mirror) = format.fieldCount := by
  rw [fieldCount_marker, fieldCount, List.countP_map]
  apply List.countP_congr
  intro directive _
  cases directive <;> rfl

end Format

def Placement.mirror : Placement → Placement
  | .marker order => .marker order.opposite
  | .pad offset => .pad offset
  | .field placed => .field { placed with order := placed.order.opposite }

theorem Format.placeFrom_mirror (order : ByteOrder) (offset index : Nat) (format : Format) :
    placeFrom order.opposite offset index (format.map Directive.mirror) =
      (format.placeFrom order offset index).map Placement.mirror := by
  induction format generalizing order offset index with
  | nil => rfl
  | cons directive format induction =>
      cases directive <;> simp [Directive.mirror, placeFrom, Placement.mirror, induction]

/-- The added marker stands for the order at the start, mirrored. -/
theorem Format.placements_mirror (format : Format) :
    placements (.marker .big :: format.map Directive.mirror) =
      .marker .big :: format.placements.map Placement.mirror :=
  congrArg _ (placeFrom_mirror .initial 0 0 format)

/-! ### Packing and unpacking by the mirrored format -/

namespace Traversal

variable {ε α β γ : Type}

theorem gather_map (visit : β → Except ε (List γ)) (change : α → β) (items : List α) :
    gather visit (items.map change) = gather (fun item => visit (change item)) items := by
  rw [gather, gather, List.mapM_map]
  rfl

theorem mapM_map_results (visit : α → Except ε β) (change : β → γ) (items : List α) :
    items.mapM (fun item => (visit item).map change) =
      (items.mapM visit).map (List.map change) := by
  induction items with
  | nil => rfl
  | cons item items induction =>
      rw [List.mapM_cons, List.mapM_cons, induction]
      cases visit item with
      | error error => rfl
      | ok result => cases items.mapM visit <;> rfl

end Traversal

namespace Placement

theorem emits_mirror (policy : NarrowingPolicy) (values : List Value) (placement : Placement) :
    placement.mirror.emits policy values =
      (placement.emits policy values).map List.reverse := by
  cases placement with
  | marker order => rfl
  | pad offset => rfl
  | field field =>
      simp only [emits, mirror, write]
      cases values[field.index]? with
      | none => rfl
      | some value =>
          simp only [packField_eq, ByteOrder.opposite_toWire]
          cases field.type.coerce policy value <;> rfl

theorem length_of_emits {policy : NarrowingPolicy} {values : List Value}
    {placement : Placement} {block : List UInt8}
    (emitted : placement.emits policy values = .ok block) : block.length = placement.width := by
  rw [emits] at emitted
  cases written : placement.write policy "" values with
  | error error =>
      rw [written] at emitted
      cases emitted
  | ok own =>
      rw [written] at emitted
      cases emitted
      exact Writes.length_eq placement block (write_eq_ok_iff.mp written)

theorem yields_mirror (policy : NarrowingPolicy) (slots : Slots) (buffer : List UInt8)
    {format : Format} {placement : Placement} (placed : placement ∈ format.placements) :
    placement.mirror.yields policy slots (reverseFields format.fields buffer) =
      placement.yields policy slots buffer := by
  cases placement with
  | marker order => rfl
  | pad offset => simp only [yields, mirror, read, length_reverseFields]
  | field field =>
      simp only [yields, mirror, read, length_reverseFields]
      cases slots.get? field.index with
      | none => rfl
      | some slot =>
          by_cases complete : field.offset + field.type.width ≤ buffer.length
          · have reversed :=
              Format.slice_reverseFields (Format.mem_fields_of_placed placed) complete
            simp only [if_pos complete, unpackField]
            change ((((field.type.decode (field.order.opposite.fromWire
              (field.slice (reverseFields format.fields buffer)))).mapError _ >>= _).map
                some).map _).mapError _ = _
            rw [reversed, ByteOrder.opposite_fromWire]
          · simp only [if_neg complete]

end Placement

theorem Format.gather_emits_mirror (policy : NarrowingPolicy) (values : List Value)
    (format : Format) :
    Traversal.gather (Placement.emits policy values)
        (placements (.marker .big :: format.map Directive.mirror)) =
      (Traversal.gather (Placement.emits policy values) format.placements).map
        (reverseFields format.fields) := by
  rw [placements_mirror, Traversal.gather_cons, Traversal.gather_map]
  simp only [Placement.emits_mirror, Traversal.gather, Traversal.mapM_map_results]
  cases emitted : format.placements.mapM (Placement.emits policy values) with
  | error error => rfl
  | ok blocks =>
      have fitting := (Traversal.mapM_eq_ok_iff.mp emitted).imp
        (fun _ _ each => Placement.length_of_emits each)
      have start : ([] : List UInt8).length = 0 := rfl
      exact congrArg Except.ok (reverseFields_flatten fitting start).symm

theorem Format.gather_yields_mirror (policy : NarrowingPolicy) (slots : Slots)
    (buffer : List UInt8) (format : Format) :
    Traversal.gather
        (Placement.yields policy slots (reverseFields format.fields buffer))
        (placements (.marker .big :: format.map Directive.mirror)) =
      Traversal.gather (Placement.yields policy slots buffer) format.placements := by
  have each : format.placements.mapM (fun placement =>
        placement.mirror.yields policy slots (reverseFields format.fields buffer)) =
      format.placements.mapM (Placement.yields policy slots buffer) := by
    apply Traversal.mapM_congr
    intro placement placed
    exact Placement.yields_mirror policy slots buffer placed
  rw [placements_mirror, Traversal.gather_cons, Traversal.gather_map, Traversal.gather,
    Traversal.gather, each]
  cases format.placements.mapM (Placement.yields policy slots buffer) <;> rfl

/-- By the mirrored format the same values are packed to the same bytes, and the same data are
unpacked from them, but for the bytes of each field, which are the other way round. -/
theorem mirrored_format [Machine] {options : Options} {text : String} {layout : Layout}
    (compiled : Layout.compile options text = .ok layout) :
    (∀ values, (pack options (mirrorText text) values).mapError CodecError.kind =
      ((pack options text values).map (reverseFields layout.fields)).mapError
        CodecError.kind) ∧
    (∀ buffer shape,
      (unpack options (mirrorText text) (reverseFields layout.fields buffer) shape).mapError
          CodecError.kind =
        (unpack options text buffer shape).mapError CodecError.kind) ∧
    ∀ bytes,
      (∀ field ∈ layout.fields, field.offset + field.type.width ≤ bytes.length →
        field.slice (reverseFields layout.fields bytes) = (field.slice bytes).reverse) ∧
      (∀ offset ∈ layout.format.padOffsets,
        (reverseFields layout.fields bytes)[offset]? = bytes[offset]?) ∧
      ∀ position, (∀ field ∈ layout.fields, field.offset + field.type.width ≤ bytes.length →
          position < field.offset ∨ field.offset + field.type.width ≤ position) →
        (reverseFields layout.fields bytes)[position]? = bytes[position]? := by
  obtain ⟨format, reading, rfl⟩ := Layout.compile_eq_ok_iff.mp compiled
  have mirrored := Format.parse_mirrorText reading
  have count := format.fieldCount_mirror
  refine ⟨?_, ?_, ?_⟩
  · intro values
    have packed := pack_eq_gather reading values
    have commuted (outcome : Except CodecError (List UInt8)) :
        (outcome.map (reverseFields format.fields)).mapError CodecError.kind =
          (outcome.mapError CodecError.kind).map (reverseFields format.fields) := by
      cases outcome <;> rfl
    change _ = ((pack options text values).map (reverseFields format.fields)).mapError _
    rw [commuted, packed, pack_eq_gather mirrored, Format.gather_emits_mirror, count]
    cases Traversal.gather (Placement.emits options.narrowing values) format.placements with
    | error error => rfl
    | ok bytes =>
        change (if format.fieldCount < values.length then _ else _ : Except ErrorKind _) =
          (if format.fieldCount < values.length then _ else _ : Except ErrorKind _).map _
        split <;> rfl
  · intro buffer shape
    have resolution := ShapeRequest.resolve_congr count shape
    cases resolved : shape.resolve format with
    | error error =>
        rw [resolved] at resolution
        rw [unpack_of_shape_error mirrored resolution, unpack_of_shape_error reading resolved]
    | ok slots =>
        rw [resolved] at resolution
        rw [unpack_eq_gather mirrored resolution, unpack_eq_gather reading resolved]
        congr 1
        exact Format.gather_yields_mirror options.narrowing slots buffer format
  · intro bytes
    refine ⟨?_, ?_, ?_⟩
    · intro field member complete
      exact Format.slice_reverseFields member complete
    · intro offset isPad
      exact Format.getElem?_reverseFields_pad isPad bytes
    · intro position outside
      exact getElem?_reverseFields_of_outside outside

open SmallMachine in
/-- The second field is cut off by the end of the shorter buffer, so it is not reversed. -/
theorem mirrored_format_truncated :
    ∃ layout, Layout.compile {} "Hx>i" = .ok layout ∧
      mirrorText "Hx>i" = ">Hx<i" ∧
      (pack {} ">Hx<i" [.integer 258, .integer (-2)]).mapError CodecError.kind =
        .ok [1, 2, 0, 254, 255, 255, 255] ∧
      reverseFields layout.fields [2, 1, 9, 255, 254] = [1, 2, 9, 255, 254] ∧
      (unpack {} ">Hx<i" [1, 2, 9, 255, 254] (.value .nothing)).mapError CodecError.kind =
        .error (.library .bufferUnderrun) := by
  have compiled : Layout.compile {} "Hx>i" = .ok ⟨"Hx>i", {},
      [.field (.integer ⟨.unsigned, .two⟩), .pad, .marker .big,
        .field (.integer ⟨.signed, .four⟩)]⟩ := rfl
  obtain ⟨packing, unpacking, _⟩ := mirrored_format compiled
  refine ⟨_, compiled, rfl, ?_, rfl, ?_⟩
  · exact (packing [.integer 258, .integer (-2)]).trans rfl
  · exact (unpacking [2, 1, 9, 255, 254] (.value .nothing)).trans rfl

end StructCodec

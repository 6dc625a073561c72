import StructCodec.Proofs.PackedForm
import StructCodec.Proofs.Reading

/-!
# Formats one behind the other

Of what a format does, only the byte order reaches the format that is written behind it.
The placements of the second format are moved by the size and the fields of the first one,
and they stand in the byte order of the last marker of the first one.  So packing and
unpacking by both is packing and unpacking by the first one, and then by the second one
behind that marker.
-/

namespace StructCodec

/-! ### Placements behind other placements -/

def FieldPlacement.shift (bytes fields : Nat) (field : FieldPlacement) : FieldPlacement :=
  { field with index := fields + field.index, offset := bytes + field.offset }

/-- A placement behind a number of bytes and fields. -/
def Placement.shift (bytes fields : Nat) : Placement → Placement
  | .marker order => .marker order
  | .pad offset => .pad (bytes + offset)
  | .field placed => .field (placed.shift bytes fields)

namespace Format

/-- The byte order in effect behind a format. -/
def orderAfter : ByteOrder → Format → ByteOrder
  | order, [] => order
  | _, .marker order :: rest => orderAfter order rest
  | order, .pad :: rest => orderAfter order rest
  | order, .field _ :: rest => orderAfter order rest

theorem size_append (first second : Format) :
    size (first ++ second) = first.size + second.size := by
  induction first with
  | nil => exact (Nat.zero_add _).symm
  | cons directive first induction =>
      rw [List.cons_append, size, size, induction, Nat.add_assoc]

theorem fieldCount_append (first second : Format) :
    fieldCount (first ++ second) = first.fieldCount + second.fieldCount :=
  List.countP_append

theorem orderAfter_append (order : ByteOrder) (first second : Format) :
    orderAfter order (first ++ second) = second.orderAfter (first.orderAfter order) := by
  induction first generalizing order with
  | nil => rfl
  | cons directive first induction =>
      cases directive <;> exact induction _

theorem placeFrom_append (order : ByteOrder) (offset index : Nat) (first second : Format) :
    placeFrom order offset index (first ++ second) =
      first.placeFrom order offset index ++
        second.placeFrom (first.orderAfter order) (offset + first.size)
          (index + first.fieldCount) := by
  induction first generalizing order offset index with
  | nil => rfl
  | cons directive first induction =>
      cases directive with
      | marker next =>
          simp [placeFrom, orderAfter, size, Directive.width, induction]
      | pad =>
          simp [placeFrom, orderAfter, size, Directive.width, induction, Nat.add_assoc]
      | field type =>
          simp [placeFrom, orderAfter, size, Directive.width, induction, Nat.add_assoc,
            Nat.add_comm 1]

theorem fields_placeFrom_append (order : ByteOrder) (offset index : Nat)
    (first second : Format) :
    Placement.fields (placeFrom order offset index (first ++ second)) =
      Placement.fields (first.placeFrom order offset index) ++
        Placement.fields (second.placeFrom (first.orderAfter order) (offset + first.size)
          (index + first.fieldCount)) := by
  rw [placeFrom_append, Placement.fields, List.filterMap_append]
  rfl

theorem placeFrom_shift (bytes fields : Nat) (order : ByteOrder) (offset index : Nat)
    (format : Format) :
    format.placeFrom order (bytes + offset) (fields + index) =
      (format.placeFrom order offset index).map (Placement.shift bytes fields) := by
  induction format generalizing order offset index with
  | nil => rfl
  | cons directive format induction =>
      cases directive <;>
        simp [placeFrom, Placement.shift, FieldPlacement.shift, Nat.add_assoc, induction]

/-- Byte orders move no field. -/
theorem offsets_placeFrom (left right : ByteOrder) (offset index : Nat) (format : Format) :
    (Placement.fields (format.placeFrom left offset index)).map (·.offset) =
      (Placement.fields (format.placeFrom right offset index)).map (·.offset) := by
  induction format generalizing left right offset index with
  | nil => rfl
  | cons directive format induction =>
      cases directive with
      | marker order => rfl
      | pad => exact induction left right (offset + 1) index
      | field type =>
          simp only [placeFrom, Placement.fields_field, List.map_cons]
          rw [induction left right]

theorem placements_append (first second : Format) :
    placements (first ++ second) =
      first.placements ++
        (second.placeFrom (first.orderAfter .initial) 0 0).map
          (Placement.shift first.size first.fieldCount) := by
  rw [placements, placeFrom_append, ← placeFrom_shift, Nat.zero_add, Nat.zero_add,
    Nat.add_zero, Nat.add_zero]
  rfl

theorem fields_append (first second : Format) :
    fields (first ++ second) =
      first.fields ++
        (Placement.fields (second.placeFrom (first.orderAfter .initial) 0 0)).map
          (FieldPlacement.shift first.size first.fieldCount) := by
  have shifted (placements : List Placement) :
      Placement.fields (placements.map (Placement.shift first.size first.fieldCount)) =
        (Placement.fields placements).map
          (FieldPlacement.shift first.size first.fieldCount) := by
    induction placements with
    | nil => rfl
    | cons placement placements induction =>
        cases placement <;> simp [Placement.shift, induction]
  rw [fields, placements_append, List.filterMap_append, ← shifted]
  rfl

end Format

/-! ### The last marker of a text -/

def isMarker (char : Char) : Bool :=
  char = '<' || char = '>'

theorem isMarker_iff {char : Char} :
    isMarker char = true ↔ ∃ order : ByteOrder, order.marker = char := by
  constructor
  · intro marker
    rcases Bool.or_eq_true_iff.mp marker with little | big
    · exact ⟨.little, (of_decide_eq_true little).symm⟩
    · exact ⟨.big, (of_decide_eq_true big).symm⟩
  · rintro ⟨order, rfl⟩
    cases order <;> rfl

theorem isMarker_tag (type : ScalarType) : isMarker type.tag = false := by
  obtain ⟨⟨⟩ | ⟨⟩, ⟨⟩ | ⟨⟩ | ⟨⟩ | ⟨⟩⟩ | ⟨⟩ := type <;> rfl

/-- The last byte-order marker of a text, or the little-endian one. -/
def lastMarker (text : String) : Char :=
  (text.toList.filter isMarker).getLastD '<'

theorem Format.getLastD_markers (order : ByteOrder) (chars : List Char) :
    (chars.filter isMarker).getLastD order.marker =
      (orderAfter order (chars.filterMap Directive.ofChar?)).marker := by
  -- Generalised over the order, since every marker is the default for what follows it.
  induction chars generalizing order with
  | nil => rfl
  | cons char chars induction =>
      cases found : Directive.ofChar? char with
      | none =>
          have other : ¬ isMarker char = true := by
            intro marker
            obtain ⟨next, rfl⟩ := isMarker_iff.mp marker
            rw [Directive.ofChar?_marker] at found
            cases found
          rw [List.filterMap_cons_none found, List.filter_cons_of_neg other]
          exact induction order
      | some directive =>
          rw [List.filterMap_cons_some found]
          obtain rfl := Directive.ofChar?_eq_some_iff.mp found
          cases directive with
          | marker next =>
              rw [Directive.toChar, List.filter_cons_of_pos (isMarker_iff.mpr ⟨next, rfl⟩),
                List.getLastD_cons]
              exact induction next
          | pad =>
              rw [List.filter_cons_of_neg Bool.false_ne_true]
              exact induction order
          | field type =>
              rw [Directive.toChar, List.filter_cons_of_neg (by simp [isMarker_tag])]
              exact induction order

theorem lastMarker_eq {options : Options} {text : String} {format : Format}
    (reading : Format.parse options text = .ok format) :
    lastMarker text = (format.orderAfter .initial).marker := by
  obtain ⟨_, rfl⟩ := Format.parse_eq_ok_iff.mp reading
  exact Format.getLastD_markers .little text.toList

/-! ### Packing and unpacking -/

theorem FieldPlacement.takes_shift {policy : NarrowingPolicy} {values others : List Value}
    {bytes fields : Nat} {field : FieldPlacement} {datum : Datum}
    (same : values[fields + field.index]? = others[field.index]?) :
    (field.shift bytes fields).Takes policy values datum ↔
      field.Takes policy others datum := by
  unfold Takes
  rw [shift, same]

theorem FieldPlacement.decodes_shift {bytes fields : Nat} {field : FieldPlacement}
    {buffer : List UInt8} {datum : Datum} :
    (field.shift bytes fields).Decodes buffer datum ↔
      field.Decodes (buffer.drop bytes) datum := by
  unfold Decodes slice
  rw [shift, List.drop_drop]

theorem FieldPlacement.decodes_unique {buffer : List UInt8} :
    Relator.RightUnique (fun (field : FieldPlacement) (datum : Datum) =>
      field.Decodes buffer datum) := by
  intro field left right leftDecodes rightDecodes
  unfold Decodes at leftDecodes rightDecodes
  rw [leftDecodes] at rightDecodes
  cases rightDecodes
  rfl

namespace Placement

@[simp] theorem shift_zero (placement : Placement) : placement.shift 0 0 = placement := by
  cases placement <;> simp [shift, FieldPlacement.shift]

theorem writes_shift {policy : NarrowingPolicy} {values others : List Value}
    {bytes fields : Nat} {placement : Placement} {block : List UInt8}
    (same : ∀ field, placement = .field field →
      values[fields + field.index]? = others[field.index]?) :
    Writes policy values (placement.shift bytes fields) block ↔
      Writes policy others placement block := by
  cases placement with
  | marker order =>
      constructor
      · rintro ⟨⟩
        exact .marker order
      · rintro ⟨⟩
        exact .marker order
  | pad offset =>
      constructor
      · rintro ⟨⟩
        exact .pad offset
      · rintro ⟨⟩
        exact .pad (bytes + offset)
  | field field =>
      have takes (datum : Datum) : (field.shift bytes fields).Takes policy values datum ↔
          field.Takes policy others datum := FieldPlacement.takes_shift (same field rfl)
      constructor
      · intro writes
        cases writes with
        | @field _ datum taken => exact .field ((takes datum).mp taken)
      · intro writes
        cases writes with
        | @field _ datum taken =>
            have moved : Writes policy values (.field (field.shift bytes fields))
                (field.order.toWire (field.type.image datum.toInt)) :=
              .field ((takes datum).mpr taken)
            exact moved

end Placement

namespace Format

variable {policy : NarrowingPolicy} {first second : Format}

/-- The blocks of two formats are the blocks of the first one, and then those of the second
one in the byte order that the first one leaves. -/
theorem writes_append_iff {front back : List Value} {blocks : List (List UInt8)}
    (count : front.length = first.fieldCount) :
    List.Forall₂ (Placement.Writes policy (front ++ back)) (placements (first ++ second))
        blocks ↔
      ∃ frontBlocks backBlocks,
        List.Forall₂ (Placement.Writes policy front) first.placements frontBlocks ∧
        List.Forall₂ (Placement.Writes policy back)
          (second.placeFrom (first.orderAfter .initial) 0 0) backBlocks ∧
        blocks = frontBlocks ++ backBlocks := by
  -- No index of the first format reaches the values behind its own.
  have inFront (placement : Placement) (placed : placement ∈ first.placements)
      (block : List UInt8) :
      Placement.Writes policy (front ++ back) placement block ↔
        Placement.Writes policy front placement block := by
    have unmoved : Placement.Writes policy (front ++ back) (placement.shift 0 0) block ↔
        Placement.Writes policy front placement block := by
      apply Placement.writes_shift
      rintro field rfl
      have supplied := index_lt_fieldCount (mem_fields_of_placed placed)
      rw [Nat.zero_add, List.getElem?_append_left (by omega)]
    rwa [Placement.shift_zero] at unmoved
  have inBack (placement : Placement) (block : List UInt8) :
      Placement.Writes policy (front ++ back)
          (placement.shift first.size first.fieldCount) block ↔
        Placement.Writes policy back placement block := by
    apply Placement.writes_shift
    intro field _
    rw [← count, List.getElem?_append_right (Nat.le_add_right _ _), Nat.add_sub_cancel_left]
  rw [placements_append, Traversal.forall₂_append_iff]
  constructor
  · rintro ⟨frontBlocks, backBlocks, frontWritten, backWritten, rfl⟩
    rw [List.forall₂_map_left_iff] at backWritten
    refine ⟨frontBlocks, backBlocks, ?_, ?_, rfl⟩
    · exact Traversal.imp_of_mem (fun placement placed block =>
        (inFront placement placed block).mp) frontWritten
    · exact backWritten.imp (fun placement block => (inBack placement block).mp)
  · rintro ⟨frontBlocks, backBlocks, frontWritten, backWritten, rfl⟩
    refine ⟨frontBlocks, backBlocks, ?_, ?_, rfl⟩
    · exact Traversal.imp_of_mem (fun placement placed block =>
        (inFront placement placed block).mpr) frontWritten
    · rw [List.forall₂_map_left_iff]
      exact backWritten.imp (fun placement block => (inBack placement block).mpr)

/-- The fields of two formats hold what the fields of the first one hold, and then what those
of the second one hold behind the first one. -/
theorem decodes_append_iff {buffer : List UInt8} {data : List Datum} :
    List.Forall₂ (fun field datum => field.Decodes buffer datum) (fields (first ++ second))
        data ↔
      ∃ front back,
        List.Forall₂ (fun field datum => field.Decodes buffer datum) first.fields front ∧
        List.Forall₂ (fun field datum => field.Decodes (buffer.drop first.size) datum)
          (Placement.fields (second.placeFrom (first.orderAfter .initial) 0 0)) back ∧
        data = front ++ back := by
  rw [fields_append, Traversal.forall₂_append_iff]
  simp only [List.forall₂_map_left_iff, FieldPlacement.decodes_shift]

end Format

theorem pack_eq_ok_iff_of_reading {options : Options} {text : String} {format : Format}
    (reading : Format.parse options text = .ok format) {values : List Value}
    {bytes : List UInt8} :
    pack options text values = .ok bytes ↔
      values.length = format.fieldCount ∧ ∃ blocks,
        List.Forall₂ (Placement.Writes options.narrowing values) format.placements blocks ∧
        bytes = blocks.flatten := by
  rw [pack_eq_ok_iff]
  constructor
  · rintro ⟨read, blocks, reading', count, written, rfl⟩
    rw [reading] at reading'
    cases reading'
    exact ⟨count, blocks, written, rfl⟩
  · rintro ⟨count, blocks, written, rfl⟩
    exact ⟨format, blocks, reading, count, written, rfl⟩

theorem unpack_eq_ok_iff_of_size_le [Machine] {options : Options} {text : String} {format : Format}
    {buffer : List UInt8} (reading : Format.parse options text = .ok format)
    (long : format.size ≤ buffer.length) {data : List Datum} :
    unpack options text buffer (.value .nothing) = .ok data ↔
      List.Forall₂ (fun field datum => field.Decodes buffer datum) format.fields data := by
  obtain ⟨unpacked, success, decoded⟩ := unpack_of_size_le reading long
  constructor
  · intro succeeded
    rw [success] at succeeded
    cases succeeded
    exact decoded
  · intro decodes
    rw [success, FieldPlacement.decodes_unique.forall₂ decoded decodes]

section Behind

variable {options : Options} {firstText secondText : String} {first second : Format}

theorem pack_append_iff (firstReading : Format.parse options firstText = .ok first)
    (secondReading : Format.parse options secondText = .ok second)
    {front back : List Value} (count : front.length = first.fieldCount)
    {bytes : List UInt8} :
    pack options (firstText ++ secondText) (front ++ back) = .ok bytes ↔
      ∃ frontBytes backBytes,
        pack options firstText front = .ok frontBytes ∧
        pack options (String.singleton (lastMarker firstText) ++ secondText) back =
          .ok backBytes ∧
        bytes = frontBytes ++ backBytes := by
  have resumed := Format.parse_append (Format.parse_marker options (first.orderAfter .initial))
    secondReading
  rw [← lastMarker_eq firstReading] at resumed
  rw [pack_eq_ok_iff_of_reading (Format.parse_append firstReading secondReading),
    Format.fieldCount_append, List.length_append]
  constructor
  · rintro ⟨total, blocks, written, rfl⟩
    obtain ⟨frontBlocks, backBlocks, frontWritten, backWritten, rfl⟩ :=
      (Format.writes_append_iff count).mp written
    refine ⟨frontBlocks.flatten, backBlocks.flatten, ?_, ?_, List.flatten_append⟩
    · exact (pack_eq_ok_iff_of_reading firstReading).mpr ⟨count, _, frontWritten, rfl⟩
    · apply (pack_eq_ok_iff_of_reading resumed).mpr
      have rest : back.length = second.fieldCount := by omega
      exact ⟨rest, [] :: backBlocks, .cons (.marker _) backWritten, rfl⟩
  · rintro ⟨frontBytes, backBytes, frontPacked, backPacked, rfl⟩
    obtain ⟨_, frontBlocks, frontWritten, rfl⟩ :=
      (pack_eq_ok_iff_of_reading firstReading).mp frontPacked
    obtain ⟨rest, blocks, written, rfl⟩ := (pack_eq_ok_iff_of_reading resumed).mp backPacked
    obtain ⟨block, backBlocks, ⟨⟩, backWritten, rfl⟩ := List.forall₂_cons_left_iff.mp written
    have total : front.length + back.length = first.fieldCount + second.fieldCount := by
      rw [count, rest]
      rfl
    refine ⟨total, frontBlocks ++ backBlocks, ?_, ?_⟩
    · exact (Format.writes_append_iff count).mpr
        ⟨frontBlocks, backBlocks, frontWritten, backWritten, rfl⟩
    · rw [List.flatten_append, List.flatten_cons, List.nil_append]

theorem unpack_append [Machine] (firstReading : Format.parse options firstText = .ok first)
    (secondReading : Format.parse options secondText = .ok second)
    {buffer : List UInt8} (long : first.size + second.size ≤ buffer.length) :
    ∃ front back,
      unpack options firstText buffer (.value .nothing) = .ok front ∧
      unpack options (String.singleton (lastMarker firstText) ++ secondText)
        (buffer.drop first.size) (.value .nothing) = .ok back ∧
      unpack options (firstText ++ secondText) buffer (.value .nothing) =
        .ok (front ++ back) := by
  have resumed := Format.parse_append (Format.parse_marker options (first.orderAfter .initial))
    secondReading
  rw [← lastMarker_eq firstReading] at resumed
  have whole := Format.parse_append firstReading secondReading
  have wholeLong : Format.size (first ++ second) ≤ buffer.length := by
    rw [Format.size_append]
    exact long
  have backLong : Format.size ([.marker (first.orderAfter .initial)] ++ second) ≤
      (buffer.drop first.size).length := by
    rw [Format.size_append, List.length_drop]
    change 0 + second.size ≤ _
    omega
  obtain ⟨data, unpacked, decoded⟩ := unpack_of_size_le whole wholeLong
  obtain ⟨front, back, frontDecoded, backDecoded, rfl⟩ :=
    Format.decodes_append_iff.mp decoded
  refine ⟨front, back, ?_, ?_, unpacked⟩
  · exact (unpack_eq_ok_iff_of_size_le firstReading (by omega)).mpr frontDecoded
  · exact (unpack_eq_ok_iff_of_size_le resumed backLong).mpr backDecoded

theorem fieldOffsets_append (first second : Format) :
    (Format.fields (first ++ second)).map (·.offset) =
      first.fields.map (·.offset) ++
        (second.fields.map (·.offset)).map (first.size + ·) := by
  have unordered : second.fields.map (·.offset) =
      (Placement.fields (second.placeFrom (first.orderAfter .initial) 0 0)).map (·.offset) :=
    Format.offsets_placeFrom _ _ _ _ second
  rw [Format.fields_append, List.map_append, unordered, List.map_map, List.map_map]
  rfl

end Behind

/-- A format behind another one is compiled, packed and unpacked like the first one and then
the second one behind the last marker of the first one: of the first format only its byte
order reaches the second one. -/
theorem composition_of_compiled [Machine] {options : Options} {firstText secondText : String}
    {first second : Layout} (firstCompiled : Layout.compile options firstText = .ok first)
    (secondCompiled : Layout.compile options secondText = .ok second) :
    ∃ layout, Layout.compile options (firstText ++ secondText) = .ok layout ∧
      layout.size = first.size + second.size ∧
      layout.fieldOffsets = first.fieldOffsets ++ second.fieldOffsets.map (first.size + ·) ∧
      (∀ front back : List Value, front.length = first.fieldCount → ∀ bytes,
        pack options (firstText ++ secondText) (front ++ back) = .ok bytes ↔
          ∃ frontBytes backBytes,
            pack options firstText front = .ok frontBytes ∧
            pack options (String.singleton (lastMarker firstText) ++ secondText) back =
              .ok backBytes ∧
            bytes = frontBytes ++ backBytes) ∧
      ∀ buffer : List UInt8, layout.size ≤ buffer.length →
        ∃ front back,
          unpack options firstText buffer (.value .nothing) = .ok front ∧
          unpack options (String.singleton (lastMarker firstText) ++ secondText)
            (buffer.drop first.size) (.value .nothing) = .ok back ∧
          unpack options (firstText ++ secondText) buffer (.value .nothing) =
            .ok (front ++ back) := by
  obtain ⟨firstFormat, firstReading, rfl⟩ := Layout.compile_eq_ok_iff.mp firstCompiled
  obtain ⟨secondFormat, secondReading, rfl⟩ := Layout.compile_eq_ok_iff.mp secondCompiled
  have whole := Format.parse_append firstReading secondReading
  refine ⟨_, Layout.compile_eq_ok_iff.mpr ⟨_, whole, rfl⟩, Format.size_append _ _,
    fieldOffsets_append _ _, ?_, ?_⟩
  · intro front back count bytes
    exact pack_append_iff firstReading secondReading count
  · intro buffer long
    apply unpack_append firstReading secondReading
    rw [← Format.size_append]
    exact long

open SmallMachine in
theorem composition_of_compiled_sticky :
    lastMarker "<B>h" = '>' ∧
      ∃ layout, Layout.compile {} ("<B>h" ++ "xH<h") = .ok layout ∧ layout.size = 8 ∧
        layout.fieldOffsets = [0, 1, 4, 6] ∧
        (∃ front back, pack {} "<B>h" [.integer 1, .integer 2] = .ok front ∧
          pack {} (">" ++ "xH<h") [.integer 3, .integer 4] = .ok back ∧
          pack {} ("<B>h" ++ "xH<h") [.integer 1, .integer 2, .integer 3, .integer 4] =
            .ok (front ++ back)) ∧
        ∃ front back,
          unpack {} "<B>h" [1, 0, 2, 0, 0, 3, 4, 0, 9] (.value .nothing) = .ok front ∧
          unpack {} (">" ++ "xH<h") [0, 0, 3, 4, 0, 9] (.value .nothing) = .ok back ∧
          unpack {} ("<B>h" ++ "xH<h") [1, 0, 2, 0, 0, 3, 4, 0, 9] (.value .nothing) =
            .ok (front ++ back) := by
  have firstCompiled : Layout.compile {} "<B>h" = .ok ⟨"<B>h", {},
      [.marker .little, .field (.integer ⟨.unsigned, .one⟩), .marker .big,
        .field (.integer ⟨.signed, .two⟩)]⟩ := rfl
  have secondCompiled : Layout.compile {} "xH<h" = .ok ⟨"xH<h", {},
      [.pad, .field (.integer ⟨.unsigned, .two⟩), .marker .little,
        .field (.integer ⟨.signed, .two⟩)]⟩ := rfl
  obtain ⟨layout, compiled, size_eq, offsets_eq, packs, unpacks⟩ :=
    composition_of_compiled firstCompiled secondCompiled
  have packed : pack {} ("<B>h" ++ "xH<h") [.integer 1, .integer 2, .integer 3, .integer 4] =
      .ok [1, 0, 2, 0, 0, 3, 4, 0] := rfl
  obtain ⟨front, back, frontPacked, backPacked, bytes_eq⟩ :=
    (packs [.integer 1, .integer 2] [.integer 3, .integer 4] rfl _).mp packed
  refine ⟨by decide, layout, compiled, size_eq, offsets_eq, ⟨front, back, frontPacked,
    backPacked, ?_⟩, unpacks [1, 0, 2, 0, 0, 3, 4, 0, 9] ?_⟩
  · rw [packed, bytes_eq]
  · rw [size_eq]
    decide

end StructCodec

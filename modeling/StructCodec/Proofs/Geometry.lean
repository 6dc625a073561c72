import StructCodec.Proofs.Composition

/-!
# The geometry of a layout

The directives of a format, one behind the other, tile the packed form.  What no field covers
is exactly what the pads occupy, and a field stands behind as many bytes and as many fields as
the directives before it take, in the byte order of the last marker among them.
-/

namespace StructCodec

/-- Whether a byte belongs to a field. -/
def FieldPlacement.covers (field : FieldPlacement) (position : Nat) : Bool :=
  field.offset ≤ position && position < field.offset + field.type.width

/-- Whether a byte belongs to a field of a layout. -/
def Layout.covers (layout : Layout) (position : Nat) : Bool :=
  layout.fields.any (·.covers position)

theorem Layout.covers_iff {layout : Layout} {position : Nat} :
    layout.covers position = true ↔ ∃ field ∈ layout.fields,
      field.offset ≤ position ∧ position < field.offset + field.type.width := by
  simp [covers, FieldPlacement.covers]

/-- Where a directive is placed, behind what stands before it. -/
def Directive.placeAt (order : ByteOrder) (offset index : Nat) : Directive → Placement
  | .marker next => .marker next
  | .pad => .pad offset
  | .field type => .field ⟨index, type, offset, order⟩

namespace Placement

/-- The directive that is placed. -/
def directive : Placement → Directive
  | .marker order => .marker order
  | .pad _ => .pad
  | .field placed => .field placed.type

/-- Placements tile the bytes from one offset to another: each stands where those before it
end, and the last of them ends where the bytes do. -/
inductive Tiles : Nat → List Placement → Nat → Prop where
  | nil (offset : Nat) : Tiles offset [] offset
  | marker {low high : Nat} {placements : List Placement} (order : ByteOrder)
      (rest : Tiles low placements high) : Tiles low (.marker order :: placements) high
  | pad {low high : Nat} {placements : List Placement}
      (rest : Tiles (low + 1) placements high) : Tiles low (.pad low :: placements) high
  | field {high : Nat} {placements : List Placement} (placed : FieldPlacement)
      (rest : Tiles (placed.offset + placed.type.width) placements high) :
      Tiles placed.offset (.field placed :: placements) high

/-- The offsets of the pad bytes among a run of placements. -/
def padOffsets (placements : List Placement) : List Nat :=
  placements.filterMap padOffset?

@[simp] theorem padOffsets_nil : padOffsets [] = [] := rfl

@[simp] theorem padOffsets_marker (order : ByteOrder) (placements : List Placement) :
    padOffsets (.marker order :: placements) = padOffsets placements := rfl

@[simp] theorem padOffsets_pad (offset : Nat) (placements : List Placement) :
    padOffsets (.pad offset :: placements) = offset :: padOffsets placements := rfl

@[simp] theorem padOffsets_field (placed : FieldPlacement) (placements : List Placement) :
    padOffsets (.field placed :: placements) = padOffsets placements := rfl

end Placement

namespace Format

variable {order : ByteOrder} {offset index : Nat} {format : Format}

/-! ### The placements of a format -/

theorem tiles_placeFrom (order : ByteOrder) (offset index : Nat) (format : Format) :
    Placement.Tiles offset (format.placeFrom order offset index) (offset + format.size) := by
  induction format generalizing order offset index with
  | nil => exact .nil offset
  | cons directive rest induction =>
      rw [size, ← Nat.add_assoc]
      cases directive with
      | marker next => exact .marker next (induction next offset index)
      | pad => exact .pad (induction order (offset + 1) index)
      | field type =>
          exact .field ⟨index, type, offset, order⟩
            (induction order (offset + type.width) (index + 1))

theorem map_directive_placeFrom (order : ByteOrder) (offset index : Nat) (format : Format) :
    (format.placeFrom order offset index).map Placement.directive = format := by
  induction format generalizing order offset index with
  | nil => rfl
  | cons directive rest induction =>
      cases directive <;> simp [placeFrom, Placement.directive, induction]

/-- The directive behind the front of a format stands behind the bytes and the fields of the
front, in the byte order that the front leaves. -/
theorem placeFrom_split (order : ByteOrder) (offset index : Nat) (front : Format)
    (directive : Directive) (back : Format) :
    ∃ later, placeFrom order offset index (front ++ directive :: back) =
      front.placeFrom order offset index ++
        directive.placeAt (front.orderAfter order) (offset + front.size)
          (index + front.fieldCount) :: later := by
  rw [placeFrom_append]
  cases directive <;> exact ⟨_, rfl⟩

theorem mem_placeFrom_iff {placement : Placement} :
    placement ∈ format.placeFrom order offset index ↔
      ∃ (front : Format) (directive : Directive) (back : Format),
        format = front ++ directive :: back ∧
          placement = directive.placeAt (front.orderAfter order) (offset + front.size)
            (index + front.fieldCount) := by
  constructor
  · intro placed
    obtain ⟨before, after, split⟩ := List.append_of_mem placed
    have directives := map_directive_placeFrom order offset index format
    rw [split, List.map_append, List.map_cons] at directives
    refine ⟨before.map Placement.directive, placement.directive, after.map Placement.directive,
      directives.symm, ?_⟩
    obtain ⟨later, other⟩ := placeFrom_split order offset index
      (before.map Placement.directive) placement.directive (after.map Placement.directive)
    rw [directives, split] at other
    -- Both splits have the same number of placements in front.
    have front_length : before.length =
        (placeFrom order offset index (before.map Placement.directive)).length := by
      rw [length_placeFrom, List.length_map]
    exact (List.cons.inj (List.append_inj_right other front_length)).1
  · rintro ⟨front, directive, back, rfl, rfl⟩
    obtain ⟨later, split⟩ := placeFrom_split order offset index front directive back
    rw [split]
    exact List.mem_append_right _ List.mem_cons_self

/-- A field of a format comes from one of its directives. -/
theorem getElem?_fields_split {position : Nat} {field : FieldPlacement}
    (found : format.fields[position]? = some field) :
    ∃ (front back : Format), format = front ++ .field field.type :: back ∧
      front.fieldCount = position ∧ front.size = field.offset ∧
      field.order = front.orderAfter .initial := by
  obtain ⟨member, rfl⟩ := getElem?_fields_iff.mp found
  obtain ⟨front, directive, back, rfl, placement⟩ :=
    mem_placeFrom_iff.mp (placed_of_mem_fields member)
  cases directive with
  | marker next => cases placement
  | pad => cases placement
  | field type =>
      cases placement
      exact ⟨front, back, rfl, (Nat.zero_add _).symm, (Nat.zero_add _).symm, rfl⟩

/-- The pads of a format are where its pad directives stand. -/
theorem mem_padOffsets_iff {position : Nat} :
    position ∈ format.padOffsets ↔
      ∃ (front back : Format), format = front ++ .pad :: back ∧ front.size = position := by
  constructor
  · intro isPad
    obtain ⟨front, directive, back, rfl, placement⟩ :=
      mem_placeFrom_iff.mp (placed_of_mem_padOffsets isPad)
    cases directive with
    | marker next => cases placement
    | field type => cases placement
    | pad =>
        cases placement
        exact ⟨front, back, rfl, (Nat.zero_add _).symm⟩
  · rintro ⟨front, back, rfl, rfl⟩
    have placed : Placement.pad front.size ∈ placements (front ++ .pad :: back) :=
      mem_placeFrom_iff.mpr ⟨front, .pad, back, rfl, by rw [Nat.zero_add]; rfl⟩
    exact List.mem_filterMap.mpr ⟨_, placed, rfl⟩

/-! ### Counting -/

@[simp] theorem padCount_nil : padCount [] = 0 := rfl

@[simp] theorem padCount_marker (order : ByteOrder) (rest : Format) :
    padCount (.marker order :: rest) = rest.padCount := rfl

@[simp] theorem padCount_pad (rest : Format) : padCount (.pad :: rest) = rest.padCount + 1 :=
  List.countP_cons_of_pos rfl

@[simp] theorem padCount_field (type : ScalarType) (rest : Format) :
    padCount (.field type :: rest) = rest.padCount := rfl

theorem length_padOffsets_placeFrom (order : ByteOrder) (offset index : Nat)
    (format : Format) :
    (Placement.padOffsets (format.placeFrom order offset index)).length = format.padCount := by
  induction format generalizing order offset index with
  | nil => rfl
  | cons directive rest induction =>
      cases directive <;> simp [placeFrom, induction]

/-- The bytes of a format are those of its pads and those of its fields. -/
theorem size_eq_placeFrom (order : ByteOrder) (offset index : Nat) (format : Format) :
    format.size = format.padCount +
      ((Placement.fields (format.placeFrom order offset index)).map (·.type.width)).sum := by
  induction format generalizing order offset index with
  | nil => rfl
  | cons directive rest induction =>
      cases directive with
      | marker next =>
          rw [size, Directive.width, placeFrom, Placement.fields_marker, padCount_marker,
            induction next offset index, Nat.zero_add]
      | pad =>
          rw [size, Directive.width, placeFrom, Placement.fields_pad, padCount_pad,
            induction order (offset + 1) index]
          omega
      | field type =>
          rw [size, Directive.width, placeFrom, Placement.fields_field, padCount_field,
            List.map_cons, List.sum_cons,
            induction order (offset + type.width) (index + 1)]
          exact Nat.add_left_comm _ _ _

theorem pairwise_padOffsets (format : Format) : format.padOffsets.Pairwise (· < ·) := by
  apply List.Pairwise.filterMap Placement.padOffset? _ (pairwise_placeFrom .initial 0 0 format)
  intro first second ordered firstOffset isFirst secondOffset isSecond
  cases first <;> cases isFirst
  cases second <;> cases isSecond
  exact ordered _ _ rfl rfl

/-! ### The text of a format -/

/-- A split of what was read comes from a split of the text. -/
theorem exists_text_split {options : Options} {text : String} {front back : Format}
    {directive : Directive}
    (reading : parse options text = .ok (front ++ directive :: back)) :
    ∃ before after, text = before ++ String.singleton directive.toChar ++ after ∧
      parse options before = .ok front := by
  obtain ⟨accepted, split⟩ := parse_eq_ok_iff.mp reading
  obtain ⟨earlier, rest, chars, front_eq, rest_eq⟩ := List.filterMap_eq_append_iff.mp split.symm
  obtain ⟨skipped, char, later, rfl, nothing, isDirective, _⟩ :=
    List.filterMap_eq_cons_iff.mp rest_eq
  obtain rfl := Directive.ofChar?_eq_some_iff.mp isDirective
  refine ⟨String.ofList (earlier ++ skipped), String.ofList later, ?_, ?_⟩
  · apply String.toList_inj.mp
    simp [chars]
  · rw [parse_eq_ok_iff, String.toList_ofList, List.filterMap_append,
      List.filterMap_eq_nil_iff.mpr nothing, List.append_nil, front_eq]
    refine ⟨?_, rfl⟩
    intro char member
    apply accepted
    rw [chars, ← List.append_assoc]
    exact List.mem_append_left _ member

end Format

/-! ### The layout of a text -/

namespace Layout

variable {options : Options} {text : String} {layout : Layout}

/-- The bytes of a layout that no field covers are those at its pads. -/
theorem filter_not_covers (layout : Layout) :
    (List.range layout.size).filter (fun position => !layout.covers position) =
      layout.format.padOffsets := by
  -- Both lists increase, so it is enough that they have the same members.
  apply List.Pairwise.eq_of_mem_iff (List.pairwise_lt_range.filter _)
    (Format.pairwise_padOffsets layout.format)
  intro position
  rw [List.mem_filter, List.mem_range, Bool.not_eq_true', ← Bool.not_eq_true, covers_iff]
  constructor
  · rintro ⟨inside, uncovered⟩
    rcases Format.position_cases inside with isPad | covered
    · exact isPad
    · exact absurd covered uncovered
  · intro isPad
    refine ⟨Format.padOffset_lt_size isPad, ?_⟩
    rintro ⟨field, member, low, high⟩
    exact Format.not_mem_padOffsets member low high isPad

theorem increasing_fieldOffsets (layout : Layout) : layout.fieldOffsets.Pairwise (· < ·) := by
  apply List.pairwise_map.mpr
  apply (Format.pairwise_fields layout.format).imp
  intro first second ordered
  have positive := first.type.width_pos
  omega

/-- A field of a layout is written in the text as its tag, behind as many fields and as many
bytes as its index and its offset say, and stands in the order of the last marker before it. -/
theorem exists_tag_of_field (compiled : compile options text = .ok layout) {index : Nat}
    {field : FieldPlacement} (found : layout.fields[index]? = some field) :
    ∃ before after front,
      text = before ++ String.singleton field.type.tag ++ after ∧
      Format.parse options before = .ok front ∧ front.fieldCount = index ∧
      front.size = field.offset ∧ field.order.marker = lastMarker before := by
  obtain ⟨format, reading, rfl⟩ := compile_eq_ok_iff.mp compiled
  obtain ⟨front, back, rfl, count, offset, order⟩ := Format.getElem?_fields_split found
  obtain ⟨before, after, split, frontReading⟩ := Format.exists_text_split reading
  exact ⟨before, after, front, split, frontReading, count, offset,
    by rw [order, lastMarker_eq frontReading]⟩

end Layout

/-- The geometry of a layout.  Its fields stand in order, apart from each other and within
its size, each where the text has its tag and in the byte order of the last marker before it.
What they leave uncovered is exactly what the pads occupy, so fields and pads tile the packed
form; and as many data are unpacked as there are fields. -/
theorem geometry_of_compiled [Machine] {options : Options} {text : String} {layout : Layout}
    (compiled : Layout.compile options text = .ok layout) :
    (∀ index field, layout.fields[index]? = some field →
      field.index = index ∧ field.offset + field.type.width ≤ layout.size ∧
      ∃ before after front,
        text = before ++ String.singleton field.type.tag ++ after ∧
        Format.parse options before = .ok front ∧ front.fieldCount = index ∧
        front.size = field.offset ∧ field.order.marker = lastMarker before) ∧
    layout.fieldOffsets.Pairwise (· < ·) ∧
    layout.fields.Pairwise (fun first second =>
      first.offset + first.type.width ≤ second.offset) ∧
    (List.range layout.size).filter (fun position => !layout.covers position) =
      layout.format.padOffsets ∧
    layout.format.padOffsets.length = layout.padCount ∧
    (∀ position, position ∈ layout.format.padOffsets ↔
      ∃ (front back : Format), layout.format = front ++ .pad :: back ∧
        front.size = position) ∧
    layout.format.placements.map Placement.directive = layout.format ∧
    Placement.Tiles 0 layout.format.placements layout.size ∧
    layout.size = layout.padCount + (layout.fields.map (·.type.width)).sum ∧
    layout.fields.length = layout.fieldCount ∧
    layout.fieldCount = layout.format.countP Directive.isField ∧
    ∀ buffer, layout.size ≤ buffer.length →
      ∃ data, unpack options text buffer (.value .nothing) = .ok data ∧
        data.length = layout.fieldCount := by
  refine ⟨?_, layout.increasing_fieldOffsets, Format.pairwise_fields layout.format,
    layout.filter_not_covers, Format.length_padOffsets_placeFrom _ _ _ _,
    fun _ => Format.mem_padOffsets_iff, Format.map_directive_placeFrom _ _ _ _, ?_,
    Format.size_eq_placeFrom _ _ _ _, Format.length_fields layout.format, rfl, ?_⟩
  · intro index field found
    obtain ⟨member, standing⟩ := Format.getElem?_fields_iff.mp found
    exact ⟨standing, Format.field_end_le_size member,
      Layout.exists_tag_of_field compiled found⟩
  · have tiled := Format.tiles_placeFrom .initial 0 0 layout.format
    rwa [Nat.zero_add] at tiled
  · intro buffer long
    obtain ⟨format, reading, rfl⟩ := Layout.compile_eq_ok_iff.mp compiled
    obtain ⟨data, unpacked, decoded⟩ := unpack_of_size_le reading long
    exact ⟨data, unpacked, decoded.length_eq.symm.trans (Format.length_fields format)⟩

open SmallMachine in
theorem geometry_of_compiled_mixed :
    ∃ layout, Layout.compile {} "<Hx>I?" = .ok layout ∧ layout.fieldOffsets = [0, 3, 7] ∧
      (List.range layout.size).filter (fun position => !layout.covers position) = [2] ∧
      layout.padCount + (layout.fields.map (·.type.width)).sum = 8 ∧
      ∃ data, unpack {} "<Hx>I?" [1, 0, 9, 0, 0, 0, 2, 1, 5] (.value .nothing) = .ok data ∧
        data.length = 3 := by
  have compiled : Layout.compile {} "<Hx>I?" = .ok ⟨"<Hx>I?", {},
      [.marker .little, .field (.integer ⟨.unsigned, .two⟩), .pad, .marker .big,
        .field (.integer ⟨.unsigned, .four⟩), .field .boolean]⟩ := rfl
  obtain ⟨_, _, _, uncovered, _, _, _, _, size, _, _, counted⟩ := geometry_of_compiled compiled
  exact ⟨_, compiled, rfl, uncovered, size.symm, counted _ (by decide)⟩

end StructCodec

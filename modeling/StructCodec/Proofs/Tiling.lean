import Mathlib.Data.List.Forall2
import StructCodec.Layout

/-!
# Placements tile the packed form

The placements of a format stand one behind the other: each begins where those
before it end, and together they cover the packed form.  So whatever is laid out
block by block can be found again at the offset of its placement.
-/

namespace StructCodec

/-- Ranges, each given by its start and its length, stand one behind the other from one
position to another. -/
inductive Adjoin : Nat → List (Nat × Nat) → Nat → Prop where
  | nil (position : Nat) : Adjoin position [] position
  | cons {start length high : Nat} {ranges : List (Nat × Nat)}
      (rest : Adjoin (start + length) ranges high) : Adjoin start ((start, length) :: ranges) high

/-- The bytes at the place of a field. -/
def FieldPlacement.slice (field : FieldPlacement) (bytes : List UInt8) : List UInt8 :=
  (bytes.drop field.offset).take field.type.width

theorem FieldPlacement.getElem?_slice {field : FieldPlacement} {index : Nat}
    (inside : index < field.type.width) (bytes : List UInt8) :
    (field.slice bytes)[index]? = bytes[field.offset + index]? := by
  rw [slice, List.getElem?_take_of_lt inside, List.getElem?_drop]

theorem FieldPlacement.slice_congr {field : FieldPlacement} {left right : List UInt8}
    (same : ∀ position, field.offset ≤ position →
      position < field.offset + field.type.width → left[position]? = right[position]?) :
    field.slice left = field.slice right := by
  apply List.ext_getElem?
  intro index
  by_cases inside : index < field.type.width
  · rw [getElem?_slice inside, getElem?_slice inside]
    exact same _ (Nat.le_add_right _ _) (by omega)
  · rw [slice, slice, List.getElem?_take, List.getElem?_take, if_neg inside, if_neg inside]

namespace Placement

def width : Placement → Nat
  | .marker _ => 0
  | .pad _ => 1
  | .field placed => placed.type.width

/-- The offset of a placement; a marker stands nowhere. -/
def offset? : Placement → Option Nat
  | .marker _ => none
  | .pad offset => some offset
  | .field placed => some placed.offset

/-- The number of bytes at a run of placements. -/
def span : List Placement → Nat
  | [] => 0
  | placement :: placements => placement.width + span placements

@[simp] theorem span_nil : span [] = 0 := rfl

@[simp] theorem span_cons (placement : Placement) (placements : List Placement) :
    span (placement :: placements) = placement.width + span placements := rfl

@[simp] theorem span_append (before after : List Placement) :
    span (before ++ after) = span before + span after := by
  induction before with
  | nil => simp
  | cons first before induction =>
      rw [List.cons_append, span_cons, span_cons, induction, Nat.add_assoc]

/-- Every byte of a run of placements stands at one of them. -/
theorem exists_split_of_lt {placements : List Placement} {position : Nat}
    (inside : position < span placements) :
    ∃ before placement after, placements = before ++ placement :: after ∧
      span before ≤ position ∧ position < span before + placement.width := by
  induction placements generalizing position with
  | nil => simp at inside
  | cons first rest induction =>
      rw [span_cons] at inside
      by_cases here : position < first.width
      · exact ⟨[], first, rest, rfl, Nat.zero_le _, by simpa using here⟩
      · obtain ⟨before, placement, after, split, low, high⟩ :=
          induction (by omega : position - first.width < span rest)
        refine ⟨first :: before, placement, after, by rw [split]; rfl, ?_, ?_⟩
        · rw [span_cons]
          omega
        · rw [span_cons]
          omega

/-- Blocks that are as wide as their placements are found at the span of what
stands before them. -/
theorem exists_block_of_split {α : Type} {related : Placement → List α → Prop}
    (fitting : ∀ placement block, related placement block → block.length = placement.width)
    {before after : List Placement} {placement : Placement} {blocks : List (List α)}
    (laid : List.Forall₂ related (before ++ placement :: after) blocks) :
    ∃ block, related placement block ∧
      (blocks.flatten.drop (span before)).take placement.width = block := by
  induction before generalizing blocks with
  | nil =>
      obtain ⟨block, others, here, _, rfl⟩ := List.forall₂_cons_left_iff.mp laid
      refine ⟨block, here, ?_⟩
      rw [List.flatten_cons, span_nil, List.drop_zero,
        List.take_left' (fitting placement block here)]
  | cons first before induction =>
      obtain ⟨block, others, here, rest, rfl⟩ := List.forall₂_cons_left_iff.mp laid
      obtain ⟨found, related, slice⟩ := induction rest
      refine ⟨found, related, ?_⟩
      rw [List.flatten_cons, span_cons, ← fitting first block here,
        List.drop_length_add_append]
      exact slice

theorem length_flatten {α : Type} {related : Placement → List α → Prop}
    (fitting : ∀ placement block, related placement block → block.length = placement.width)
    {placements : List Placement} {blocks : List (List α)}
    (laid : List.Forall₂ related placements blocks) :
    blocks.flatten.length = span placements := by
  induction laid with
  | nil => rfl
  | @cons placement block placements blocks here _ induction =>
      rw [List.flatten_cons, List.length_append, induction, span_cons,
        fitting placement block here]

end Placement

namespace Format

theorem span_placeFrom (order : ByteOrder) (offset index : Nat) (format : Format) :
    Placement.span (format.placeFrom order offset index) = format.size := by
  induction format generalizing order offset index with
  | nil => rfl
  | cons directive rest induction =>
      cases directive <;>
        simp [placeFrom, size, Placement.width, Directive.width, induction]

/-- A placement begins where those before it end. -/
theorem offset_of_placeFrom_split {order : ByteOrder} {offset index position : Nat}
    {format : Format} {before after : List Placement} {placement : Placement}
    (split : format.placeFrom order offset index = before ++ placement :: after)
    (standing : placement.offset? = some position) :
    position = offset + Placement.span before := by
  induction format generalizing order offset index before with
  | nil => simp [placeFrom] at split
  | cons directive rest induction =>
      cases before with
      | nil =>
          cases directive <;> cases split <;> cases standing <;> rfl
      | cons first before =>
          rw [Placement.span_cons, ← Nat.add_assoc]
          cases directive with
          | marker next =>
              obtain ⟨rfl, tailSplit⟩ := List.cons.inj split
              exact induction tailSplit
          | pad =>
              obtain ⟨rfl, tailSplit⟩ := List.cons.inj split
              exact induction tailSplit
          | field type =>
              obtain ⟨rfl, tailSplit⟩ := List.cons.inj split
              exact induction tailSplit

private theorem index_of_getElem?_placeFrom {order : ByteOrder} {offset index position : Nat}
    {format : Format} {field : FieldPlacement}
    (found : (Placement.fields (format.placeFrom order offset index))[position]? = some field) :
    field.index = index + position := by
  induction format generalizing order offset index position with
  | nil => simp [placeFrom] at found
  | cons directive rest induction =>
      cases directive with
      | marker next => exact induction (by simpa [placeFrom] using found)
      | pad => exact induction (by simpa [placeFrom] using found)
      | field type =>
          rw [placeFrom, Placement.fields_field] at found
          cases position with
          | zero =>
              cases found
              rfl
          | succ position =>
              have shifted := induction (by simpa using found)
              omega

theorem span_placements (format : Format) :
    Placement.span format.placements = format.size :=
  span_placeFrom .initial 0 0 format

theorem mem_fields_of_placed {format : Format} {field : FieldPlacement}
    (placed : .field field ∈ format.placements) : field ∈ format.fields :=
  List.mem_filterMap.mpr ⟨.field field, placed, rfl⟩

theorem placed_of_mem_fields {format : Format} {field : FieldPlacement}
    (member : field ∈ format.fields) : .field field ∈ format.placements := by
  obtain ⟨placement, placed, isField⟩ := List.mem_filterMap.mp member
  cases placement <;> cases isField
  exact placed

theorem placed_of_mem_padOffsets {format : Format} {offset : Nat}
    (member : offset ∈ format.padOffsets) : .pad offset ∈ format.placements := by
  obtain ⟨placement, placed, isPad⟩ := List.mem_filterMap.mp member
  cases placement <;> cases isPad
  exact placed

/-- A field stands in the list of fields at its own index. -/
theorem getElem?_fields_iff {format : Format} {index : Nat} {field : FieldPlacement} :
    format.fields[index]? = some field ↔ field ∈ format.fields ∧ field.index = index := by
  constructor
  · intro found
    have placed := index_of_getElem?_placeFrom found
    exact ⟨List.mem_of_getElem? found, by omega⟩
  · rintro ⟨member, rfl⟩
    obtain ⟨index, found⟩ := List.mem_iff_getElem?.mp member
    have placed : field.index = 0 + index := index_of_getElem?_placeFrom found
    rwa [placed, Nat.zero_add]

/-- The index of a field is the number of fields before it. -/
theorem index_of_fields_split {format : Format} {before after : List FieldPlacement}
    {field : FieldPlacement} (split : format.fields = before ++ field :: after) :
    field.index = before.length := by
  have found : format.fields[before.length]? = some field := by
    rw [split, List.getElem?_append_right (Nat.le_refl _), Nat.sub_self]
    rfl
  exact (getElem?_fields_iff.mp found).2

theorem index_lt_fieldCount {format : Format} {field : FieldPlacement}
    (member : field ∈ format.fields) : field.index < format.fieldCount := by
  have found := getElem?_fields_iff.mpr ⟨member, rfl⟩
  rw [← length_fields]
  exact (List.getElem?_eq_some_iff.mp found).1

theorem offset_of_split {format : Format} {before after : List Placement}
    {placement : Placement} {position : Nat}
    (split : format.placements = before ++ placement :: after)
    (standing : placement.offset? = some position) : position = Placement.span before := by
  rw [offset_of_placeFrom_split split standing, Nat.zero_add]

/-- Each placement ends before the next ones begin. -/
theorem pairwise_placeFrom (order : ByteOrder) (offset index : Nat) (format : Format) :
    (format.placeFrom order offset index).Pairwise (fun first second =>
      ∀ start next, first.offset? = some start → second.offset? = some next →
        start + first.width ≤ next) := by
  induction format generalizing order offset index with
  | nil => exact .nil
  | cons directive rest induction =>
      have behind {order : ByteOrder} {offset index next : Nat} {later : Placement}
          (member : later ∈ placeFrom order offset index rest)
          (standing : later.offset? = some next) : offset ≤ next := by
        obtain ⟨before, after, split⟩ := List.append_of_mem member
        rw [offset_of_placeFrom_split split standing]
        exact Nat.le_add_right offset _
      cases directive with
      | marker next =>
          apply List.Pairwise.cons _ (induction next offset index)
          intro later member start next standing
          cases standing
      | pad =>
          apply List.Pairwise.cons _ (induction order (offset + 1) index)
          intro later member start next standing laterStanding
          cases standing
          exact behind member laterStanding
      | field type =>
          apply List.Pairwise.cons _ (induction order (offset + type.width) (index + 1))
          intro later member start next standing laterStanding
          cases standing
          exact behind member laterStanding

/-- Each field ends before the next ones begin. -/
theorem pairwise_fields (format : Format) :
    format.fields.Pairwise (fun first second =>
      first.offset + first.type.width ≤ second.offset) := by
  apply List.Pairwise.filterMap Placement.field? _ (pairwise_placeFrom .initial 0 0 format)
  intro first second ordered firstField isFirst secondField isSecond
  cases first <;> cases isFirst
  cases second <;> cases isSecond
  exact ordered _ _ rfl rfl

/-- Two different placements do not overlap. -/
theorem apart_of_ne {format : Format} {left right : Placement} {leftStart rightStart : Nat}
    (leftPlaced : left ∈ format.placements) (rightPlaced : right ∈ format.placements)
    (differ : left ≠ right) (leftStanding : left.offset? = some leftStart)
    (rightStanding : right.offset? = some rightStart) :
    leftStart + left.width ≤ rightStart ∨ rightStart + right.width ≤ leftStart := by
  obtain ⟨before, after, split⟩ := List.append_of_mem leftPlaced
  have ordered := pairwise_placeFrom .initial 0 0 format
  change format.placements.Pairwise _ at ordered
  rw [split] at rightPlaced ordered
  obtain ⟨_, fromLeft, toLeft⟩ := List.pairwise_append.mp ordered
  rcases List.mem_append.mp rightPlaced with earlier | later
  · right
    exact toLeft right earlier left List.mem_cons_self _ _ rightStanding leftStanding
  · left
    rcases List.mem_cons.mp later with same | later
    · exact absurd same.symm differ
    · exact (List.pairwise_cons.mp fromLeft).1 right later _ _ leftStanding rightStanding

theorem exists_split_of_mem_fields {format : Format} {field : FieldPlacement}
    (member : field ∈ format.fields) :
    ∃ before after, format.placements = before ++ .field field :: after ∧
      field.offset = Placement.span before := by
  obtain ⟨before, after, split⟩ := List.append_of_mem (placed_of_mem_fields member)
  exact ⟨before, after, split, offset_of_split split rfl⟩

/-- A split of the fields of a format comes from one of its placements. -/
theorem exists_split_of_fields_split {format : Format} {before after : List FieldPlacement}
    {field : FieldPlacement} (split : format.fields = before ++ field :: after) :
    ∃ earlier later, format.placements = earlier ++ .field field :: later ∧
      Placement.fields earlier = before := by
  obtain ⟨front, back, placed, front_eq, back_eq⟩ := List.filterMap_eq_append_iff.mp split
  obtain ⟨skipped, placement, later, rfl, nothing, isField, _⟩ :=
    List.filterMap_eq_cons_iff.mp back_eq
  cases placement with
  | marker order => cases isField
  | pad offset => cases isField
  | field placed' =>
      cases isField
      refine ⟨front ++ skipped, later, ?_, ?_⟩
      · rw [placed, List.append_assoc]
      · rw [Placement.fields, List.filterMap_append, front_eq,
          List.filterMap_eq_nil_iff.mpr nothing, List.append_nil]

theorem exists_split_of_mem_padOffsets {format : Format} {offset : Nat}
    (member : offset ∈ format.padOffsets) :
    ∃ before after, format.placements = before ++ .pad offset :: after ∧
      offset = Placement.span before := by
  obtain ⟨before, after, split⟩ := List.append_of_mem (placed_of_mem_padOffsets member)
  exact ⟨before, after, split, offset_of_split split rfl⟩

/-- The placements at the front of a format end within their span. -/
theorem end_le_span_of_split {format : Format} {before after : List Placement}
    {placement : Placement} {position : Nat} (split : format.placements = before ++ after)
    (placed : placement ∈ before) (standing : placement.offset? = some position) :
    position + placement.width ≤ Placement.span before := by
  obtain ⟨earlier, later, rfl⟩ := List.append_of_mem placed
  have whole : format.placements = earlier ++ placement :: (later ++ after) := by
    rw [split, List.append_assoc, List.cons_append]
  rw [offset_of_split whole standing, Placement.span_append, Placement.span_cons]
  omega

theorem end_le_size {format : Format} {placement : Placement} {position : Nat}
    (placed : placement ∈ format.placements) (standing : placement.offset? = some position) :
    position + placement.width ≤ format.size := by
  rw [← span_placements]
  exact end_le_span_of_split (List.append_nil _).symm placed standing

theorem field_end_le_size {format : Format} {field : FieldPlacement}
    (member : field ∈ format.fields) : field.offset + field.type.width ≤ format.size :=
  end_le_size (placed_of_mem_fields member) rfl

theorem padOffset_lt_size {format : Format} {offset : Nat}
    (member : offset ∈ format.padOffsets) : offset < format.size :=
  end_le_size (placed_of_mem_padOffsets member) rfl

theorem not_mem_padOffsets {format : Format} {field : FieldPlacement} {position : Nat}
    (member : field ∈ format.fields) (low : field.offset ≤ position)
    (high : position < field.offset + field.type.width) : position ∉ format.padOffsets := by
  intro isPad
  rcases apart_of_ne (placed_of_mem_fields member) (placed_of_mem_padOffsets isPad)
    Placement.noConfusion rfl rfl with ends | starts
  · exact Nat.not_le.mpr high ends
  · exact Nat.not_lt.mpr low starts

/-- Every byte of the packed form is a pad byte or belongs to a field. -/
theorem position_cases {format : Format} {position : Nat} (inside : position < format.size) :
    position ∈ format.padOffsets ∨
      ∃ field ∈ format.fields,
        field.offset ≤ position ∧ position < field.offset + field.type.width := by
  rw [← span_placements] at inside
  obtain ⟨before, placement, after, split, low, high⟩ := Placement.exists_split_of_lt inside
  have placed : placement ∈ format.placements := by
    rw [split]
    simp
  cases placement with
  | marker order =>
      rw [Placement.width] at high
      omega
  | pad offset =>
      left
      have start := offset_of_split split rfl
      rw [Placement.width] at high
      have same : position = offset := by omega
      exact List.mem_filterMap.mpr ⟨.pad offset, placed, by rw [same]; rfl⟩
  | field field =>
      right
      have start := offset_of_split split rfl
      rw [Placement.width] at high
      exact ⟨field, mem_fields_of_placed placed, by omega, by omega⟩

end Format

end StructCodec

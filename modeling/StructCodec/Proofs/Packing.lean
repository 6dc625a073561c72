import StructCodec.Proofs.ScalarCoding
import StructCodec.Proofs.Tiling
import StructCodec.Proofs.Traversal

/-!
# Packing follows the placements

What is written for a directive depends on its placement and the values alone:
the byte order in effect and the index of the next value are those of the layout.
So packing is a traversal of the placements, and the packed form is made of one
block for each of them.
-/

namespace StructCodec

/-- What is written at a placement. -/
def Placement.write (policy : NarrowingPolicy) (text : String) (values : List Value) :
    Placement → Except CodecError (List UInt8)
  | .marker _ => .ok []
  | .pad _ => .ok [0]
  | .field placed =>
      match values[placed.index]? with
      | none => .error (.insufficientValues text values.length)
      | some value => packField policy placed.order placed.index placed.type value

namespace Format

/-- Once all placements are written, values that are left are an error. -/
def conclude (text : String) (fields provided : Nat) (blocks : List (List UInt8)) :
    Except CodecError (List UInt8) :=
  if fields < provided then .error (.excessValues text fields provided)
  else .ok blocks.flatten

private theorem bind_conclude_cons (text : String) (fields provided : Nat)
    (block : List UInt8) (written : Except CodecError (List (List UInt8))) :
    ((written >>= fun blocks => pure (block :: blocks)) >>= conclude text fields provided) =
      (written >>= conclude text fields provided) >>= fun bytes => pure (block ++ bytes) := by
  cases written with
  | error error => rfl
  | ok blocks =>
      simp only [bind, Except.bind, pure, Except.pure, conclude, List.flatten_cons]
      split <;> rfl

/-- Packing from a byte order and an index on writes the placements from there on,
and then looks for values that are left. -/
theorem packFrom_eq_write (policy : NarrowingPolicy) (text : String) (values : List Value)
    (order : ByteOrder) (offset index : Nat) (format : Format) :
    format.packFrom policy text values.length order index (values.drop index) =
      (format.placeFrom order offset index).mapM (Placement.write policy text values) >>=
        conclude text (index + format.fieldCount) values.length := by
  induction format generalizing order offset index with
  | nil =>
      rw [placeFrom, List.mapM_nil]
      by_cases left : index < values.length
      · rw [List.drop_eq_getElem_cons left]
        exact (if_pos left).symm
      · rw [List.drop_eq_nil_of_le (by omega)]
        exact (if_neg left).symm
  | cons directive rest induction =>
      cases directive with
      | marker next =>
          rw [packFrom, induction next offset index, placeFrom, List.mapM_cons,
            fieldCount_marker, ← bind_pure (_ >>= _)]
          exact (bind_conclude_cons text _ _ [] _).symm
      | pad =>
          rw [packFrom, induction order (offset + 1) index, placeFrom, List.mapM_cons]
          exact (bind_conclude_cons text _ _ [0] _).symm
      | field type =>
          rw [placeFrom, List.mapM_cons]
          by_cases left : index < values.length
          · have present : values[index]? = some values[index] :=
              List.getElem?_eq_getElem left
            have count : index + fieldCount (.field type :: rest) =
                index + 1 + fieldCount rest := by
              rw [fieldCount_field]
              omega
            rw [List.drop_eq_getElem_cons left, packFrom,
              induction order (offset + type.width) (index + 1), count]
            simp only [Placement.write, present]
            cases packField policy order index type values[index] with
            | error error => rfl
            | ok block => exact (bind_conclude_cons text _ _ block _).symm
          · have absent : values[index]? = none := List.getElem?_eq_none (by omega)
            rw [List.drop_eq_nil_of_le (by omega), packFrom]
            simp only [Placement.write, absent]
            rfl

end Format

/-- A field is packed exactly if its value can be coerced: what a value is coerced
to can always be encoded. -/
theorem packField_eq (policy : NarrowingPolicy) (order : ByteOrder) (index : Nat)
    (type : ScalarType) (value : Value) :
    packField policy order index type value =
      ((type.coerce policy value).mapError (.field index type)).map
        (fun datum => order.toWire (type.image datum.toInt)) := by
  unfold packField
  cases coercion : type.coerce policy value with
  | error fault => rfl
  | ok datum =>
      have encoded := ScalarType.encode_of_admits (ScalarType.coerce_admits coercion)
      simp [encoded, Except.mapError, Except.map, bind, Except.bind, pure, Except.pure]

/-- A field takes the value at its index as a datum. -/
def FieldPlacement.Takes (policy : NarrowingPolicy) (values : List Value)
    (field : FieldPlacement) (datum : Datum) : Prop :=
  ∃ value, values[field.index]? = some value ∧ field.type.coerce policy value = .ok datum

namespace Placement

/-- What stands at a placement once values are packed. -/
inductive Writes (policy : NarrowingPolicy) (values : List Value) :
    Placement → List UInt8 → Prop where
  | marker (order : ByteOrder) : Writes policy values (.marker order) []
  | pad (offset : Nat) : Writes policy values (.pad offset) [0]
  | field {field : FieldPlacement} {datum : Datum} (taken : field.Takes policy values datum) :
      Writes policy values (.field field) (field.order.toWire (field.type.image datum.toInt))

theorem write_eq_ok_iff {policy : NarrowingPolicy} {text : String} {values : List Value}
    {placement : Placement} {block : List UInt8} :
    placement.write policy text values = .ok block ↔ Writes policy values placement block := by
  constructor
  · intro success
    cases placement with
    | marker order =>
        cases success
        exact .marker order
    | pad offset =>
        cases success
        exact .pad offset
    | field field =>
        simp only [write, packField_eq] at success
        cases present : values[field.index]? with
        | none => simp [present] at success
        | some value =>
            cases coercion : field.type.coerce policy value with
            | error fault =>
                simp [present, coercion, Except.mapError, Except.map] at success
            | ok datum =>
                simp only [present, coercion, Except.mapError, Except.map,
                  Except.ok.injEq] at success
                subst block
                exact .field ⟨value, present, coercion⟩
  · intro writes
    cases writes with
    | marker order => rfl
    | pad offset => rfl
    | field taken =>
        obtain ⟨value, present, coerced⟩ := taken
        simp [write, packField_eq, present, coerced, Except.mapError, Except.map]

theorem Writes.length_eq {policy : NarrowingPolicy} {values : List Value}
    (placement : Placement) (block : List UInt8) (writes : Writes policy values placement block) :
    block.length = placement.width := by
  cases writes <;> simp [width]

end Placement

namespace Format

/-- In the packed form each field holds the bytes of its own value. -/
theorem slice_of_writes {policy : NarrowingPolicy} {values : List Value} {format : Format}
    {blocks : List (List UInt8)} {field : FieldPlacement}
    (written : List.Forall₂ (Placement.Writes policy values) format.placements blocks)
    (member : field ∈ format.fields) :
    ∃ datum, field.Takes policy values datum ∧
      field.slice blocks.flatten = field.order.toWire (field.type.image datum.toInt) := by
  obtain ⟨before, after, split, start⟩ := exists_split_of_mem_fields member
  rw [split] at written
  obtain ⟨block, writes, slice⟩ :=
    Placement.exists_block_of_split Placement.Writes.length_eq written
  rw [← start] at slice
  cases writes with
  | field taken => exact ⟨_, taken, slice⟩

theorem pad_of_writes {policy : NarrowingPolicy} {values : List Value} {format : Format}
    {blocks : List (List UInt8)} {offset : Nat}
    (written : List.Forall₂ (Placement.Writes policy values) format.placements blocks)
    (member : offset ∈ format.padOffsets) : blocks.flatten[offset]? = some 0 := by
  obtain ⟨before, after, split, start⟩ := exists_split_of_mem_padOffsets member
  rw [split] at written
  obtain ⟨block, writes, slice⟩ :=
    Placement.exists_block_of_split Placement.Writes.length_eq written
  cases writes
  have first : ((blocks.flatten.drop offset).take 1)[0]? = some 0 := by
    rw [start]
    exact congrArg (·[0]?) slice
  simpa using first

theorem length_of_writes {policy : NarrowingPolicy} {values : List Value} {format : Format}
    {blocks : List (List UInt8)}
    (written : List.Forall₂ (Placement.Writes policy values) format.placements blocks) :
    blocks.flatten.length = format.size := by
  rw [Placement.length_flatten Placement.Writes.length_eq written, span_placements]

theorem fieldCount_le_of_writes {policy : NarrowingPolicy} {values : List Value}
    {format : Format} {blocks : List (List UInt8)}
    (written : List.Forall₂ (Placement.Writes policy values) format.placements blocks) :
    format.fieldCount ≤ values.length := by
  by_contra fewer
  have inside : values.length < format.fields.length := by
    rw [length_fields]
    omega
  have found : format.fields[values.length]? = some format.fields[values.length] :=
    List.getElem?_eq_getElem inside
  obtain ⟨member, index_eq⟩ := getElem?_fields_iff.mp found
  obtain ⟨datum, ⟨value, present, _⟩, _⟩ := slice_of_writes written member
  rw [index_eq, List.getElem?_eq_none (Nat.le_refl _)] at present
  cases present

end Format

/-- Packing by a format that was read writes its placements, and then looks for
values that are left. -/
theorem pack_eq_write {options : Options} {text : String} {format : Format}
    (reading : Format.parse options text = .ok format) (values : List Value) :
    pack options text values =
      format.placements.mapM (Placement.write options.narrowing text values) >>=
        Format.conclude text format.fieldCount values.length := by
  have follows := Format.packFrom_eq_write options.narrowing text values .initial 0 0 format
  rw [List.drop_zero, Nat.zero_add] at follows
  rw [pack, reading]
  exact follows

/-- Packing succeeds exactly if there is a value for each field and each can be
coerced, and the packed form is the blocks of all placements. -/
theorem pack_eq_ok_iff {options : Options} {text : String} {values : List Value}
    {bytes : List UInt8} :
    pack options text values = .ok bytes ↔
      ∃ format blocks, Format.parse options text = .ok format ∧
        values.length = format.fieldCount ∧
        List.Forall₂ (Placement.Writes options.narrowing values) format.placements blocks ∧
        bytes = blocks.flatten := by
  have written (format : Format) (blocks : List (List UInt8)) :
      format.placements.mapM (Placement.write options.narrowing text values) = .ok blocks ↔
        List.Forall₂ (Placement.Writes options.narrowing values) format.placements blocks := by
    simp only [Traversal.mapM_eq_ok_iff, Placement.write_eq_ok_iff]
  constructor
  · intro success
    cases reading : Format.parse options text with
    | error error =>
        rw [pack, reading] at success
        cases success
    | ok format =>
        rw [pack_eq_write reading] at success
        cases traversal : format.placements.mapM
            (Placement.write options.narrowing text values) with
        | error error =>
            rw [traversal] at success
            cases success
        | ok blocks =>
            have laid := (written format blocks).mp traversal
            have enough := Format.fieldCount_le_of_writes laid
            rw [traversal] at success
            change Format.conclude text format.fieldCount values.length blocks = _ at success
            rw [Format.conclude] at success
            split at success
            · cases success
            · cases success
              exact ⟨format, blocks, rfl, by omega, laid, rfl⟩
  · rintro ⟨format, blocks, reading, count, laid, rfl⟩
    rw [pack_eq_write reading, (written format blocks).mpr laid]
    exact if_neg (by omega)

end StructCodec

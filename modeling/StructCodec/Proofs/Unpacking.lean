import StructCodec.Proofs.ScalarCoding
import StructCodec.Proofs.Tiling
import StructCodec.Proofs.Traversal

/-!
# Unpacking follows the placements

The reader stands at the offset of the placement that it comes to, and a failed
step leaves it there.  So what is read for a directive depends on its placement,
the buffer and the slots alone, and unpacking is a traversal of the placements.
-/

namespace StructCodec

namespace Reader

/-- A reader that has passed over the front of a buffer. -/
def behind (buffer : List UInt8) (offset : Nat) : Reader :=
  ⟨offset, buffer.drop offset⟩

theorem take_behind {buffer : List UInt8} {offset count : Nat}
    (complete : offset + count ≤ buffer.length) :
    (behind buffer offset).take count =
      .ok ((buffer.drop offset).take count, behind buffer (offset + count)) := by
  have enough : count ≤ (behind buffer offset).remaining.length := by
    rw [behind, List.length_drop]
    omega
  rw [take_of_le enough]
  simp [behind, List.drop_drop]

theorem take_behind_error {buffer : List UInt8} {offset count : Nat}
    (truncated : buffer.length < offset + count) (inside : offset ≤ buffer.length) :
    (behind buffer offset).take count = .error ⟨offset, count, buffer.length - offset⟩ := by
  have short : (behind buffer offset).remaining.length < count := by
    rw [behind, List.length_drop]
    omega
  rw [take_of_lt short]
  simp [behind]

end Reader

/-- What is read at a placement: a field delivers a datum, and nothing else does. -/
def Placement.read (policy : NarrowingPolicy) (text : String) (slots : Slots)
    (buffer : List UInt8) : Placement → Except CodecError (Option Datum)
  | .marker _ => .ok none
  | .pad offset =>
      if offset < buffer.length then .ok none
      else .error (.truncatedPad ⟨offset, 1, buffer.length - offset⟩)
  | .field placed =>
      match slots.get? placed.index with
      | none => .error (.insufficientSlots text slots.count)
      | some slot =>
          if placed.offset + placed.type.width ≤ buffer.length then
            (unpackField policy placed.order placed.index placed.type slot
              (placed.slice buffer)).map some
          else
            .error (.truncatedField placed.index placed.type
              ⟨placed.offset, placed.type.width, buffer.length - placed.offset⟩)

namespace Format

theorem unpackFrom_eq_read (policy : NarrowingPolicy) (text : String) (slots : Slots)
    (buffer : List UInt8) (order : ByteOrder) {offset : Nat} (index : Nat) (format : Format)
    (inside : offset ≤ buffer.length) :
    format.unpackFrom policy text slots order index (Reader.behind buffer offset) =
      ((format.placeFrom order offset index).mapM
        (Placement.read policy text slots buffer)).map List.reduceOption := by
  induction format generalizing order offset index with
  | nil => rfl
  | cons directive rest induction =>
      cases directive with
      | marker next =>
          rw [unpackFrom, induction next index inside, placeFrom, List.mapM_cons]
          cases (placeFrom next offset index rest).mapM
            (Placement.read policy text slots buffer) <;> rfl
      | pad =>
          rw [unpackFrom, placeFrom, List.mapM_cons]
          by_cases left : offset < buffer.length
          · rw [Reader.take_behind left]
            simp only [Placement.read, if_pos left]
            rw [induction order index left]
            cases (placeFrom order (offset + 1) index rest).mapM
              (Placement.read policy text slots buffer) <;> rfl
          · rw [Reader.take_behind_error (by omega) inside]
            simp only [Placement.read, if_neg left]
            rfl
      | field type =>
          rw [unpackFrom, placeFrom, List.mapM_cons]
          cases declared : slots.get? index with
          | none =>
              simp only [Placement.read, declared]
              rfl
          | some slot =>
              by_cases complete : offset + type.width ≤ buffer.length
              · rw [Reader.take_behind complete]
                simp only [Placement.read, declared, if_pos complete, FieldPlacement.slice]
                rw [induction order (index + 1) complete]
                cases unpackField policy order index type slot
                    ((buffer.drop offset).take type.width) with
                | error error => rfl
                | ok datum =>
                    cases (placeFrom order (offset + type.width) (index + 1) rest).mapM
                      (Placement.read policy text slots buffer) <;> rfl
              · rw [Reader.take_behind_error (by omega) inside]
                simp only [Placement.read, declared, if_neg complete]
                rfl

end Format

/-- Unpacking by a format that was read, through slots that were declared, reads its
placements and then counts the data. -/
theorem unpack_eq_read [Machine] {options : Options} {text : String} {format : Format}
    {shape : ShapeRequest} {slots : Slots} (reading : Format.parse options text = .ok format)
    (resolved : shape.resolve format = .ok slots) (buffer : List UInt8) :
    unpack options text buffer shape =
      (format.placements.mapM
        (Placement.read options.narrowing text slots buffer)).map List.reduceOption >>=
        fun data =>
          if data.length = slots.count then .ok data
          else .error (.arityMismatch text data.length slots.count) := by
  have follows := Format.unpackFrom_eq_read options.narrowing text slots buffer .initial 0
    format (Nat.zero_le _)
  change format.unpackFrom options.narrowing text slots .initial 0 (.ofBytes buffer) = _
    at follows
  simp only [unpack, reading, resolved, bind, Except.bind, follows]
  rfl

theorem unpack_of_shape_error [Machine] {options : Options} {text : String} {format : Format}
    {shape : ShapeRequest} {error : CodecError} (reading : Format.parse options text = .ok format)
    (refused : shape.resolve format = .error error) (buffer : List UInt8) :
    unpack options text buffer shape = .error error := by
  simp only [unpack, reading, bind, Except.bind, refused]

/-! ### One slot for each field -/

/-- What the bytes at the place of a field stand for. -/
def FieldPlacement.Decodes (field : FieldPlacement) (buffer : List UInt8) (datum : Datum) :
    Prop :=
  field.type.decode (field.order.fromWire (field.slice buffer)) = .ok datum

theorem FieldPlacement.length_slice {field : FieldPlacement} {buffer : List UInt8}
    (complete : field.offset + field.type.width ≤ buffer.length) :
    (field.slice buffer).length = field.type.width := by
  rw [slice, List.length_take, List.length_drop]
  omega

theorem FieldPlacement.length_fromWire_slice {field : FieldPlacement} {buffer : List UInt8}
    (complete : field.offset + field.type.width ≤ buffer.length) :
    (field.order.fromWire (field.slice buffer)).length = field.type.width := by
  rw [ByteOrder.length_fromWire, length_slice complete]

namespace Placement

/-- What is read at a placement: a field gives a datum, and nothing else does. -/
inductive Reads (gives : FieldPlacement → Datum → Prop) : Placement → Option Datum → Prop where
  | marker (order : ByteOrder) : Reads gives (.marker order) none
  | pad (offset : Nat) : Reads gives (.pad offset) none
  | field {field : FieldPlacement} {datum : Datum} (given : gives field datum) :
      Reads gives (.field field) (some datum)

theorem exists_read_eq_ok (policy : NarrowingPolicy) (text : String) {format : Format}
    {buffer : List UInt8} {placement : Placement} (placed : placement ∈ format.placements)
    (complete : ∀ position, placement.offset? = some position →
      position + placement.width ≤ buffer.length) :
    ∃ result, Reads (fun field datum => field.Decodes buffer datum) placement result ∧
      placement.read policy text (.uniform format.fieldCount) buffer = .ok result := by
  cases placement with
  | marker order => exact ⟨none, .marker order, rfl⟩
  | pad offset =>
      have inside : offset < buffer.length := complete offset rfl
      exact ⟨none, .pad offset, if_pos inside⟩
  | field field =>
      have whole : field.offset + field.type.width ≤ buffer.length :=
        complete field.offset rfl
      have declared : field.index < format.fieldCount :=
        Format.index_lt_fieldCount (Format.mem_fields_of_placed placed)
      obtain ⟨datum, decoded, _⟩ :=
        ScalarType.decode_of_length (FieldPlacement.length_fromWire_slice whole)
      refine ⟨some datum, .field decoded, ?_⟩
      simp [read, Slots.get?, declared, whole, unpackField, Slot.deliver, decoded,
        Except.mapError, Except.map, bind, Except.bind]

theorem gives_of_reads {gives : FieldPlacement → Datum → Prop} {placements : List Placement}
    {results : List (Option Datum)} (reads : List.Forall₂ (Reads gives) placements results) :
    List.Forall₂ gives (fields placements) results.reduceOption := by
  induction reads with
  | nil => exact .nil
  | cons first _ induction =>
      cases first with
      | marker order => exact induction
      | pad offset => exact induction
      | field given => exact .cons given induction

end Placement

/-- A buffer that is long enough is unpacked to what stands at each field. -/
theorem unpack_of_size_le [Machine] {options : Options} {text : String} {format : Format}
    {buffer : List UInt8} (reading : Format.parse options text = .ok format)
    (long : format.size ≤ buffer.length) :
    ∃ data, unpack options text buffer (.value .nothing) = .ok data ∧
      List.Forall₂ (fun field datum => field.Decodes buffer datum) format.fields data := by
  have each : ∀ placement ∈ format.placements, ∃ result,
      Placement.Reads (fun field datum => field.Decodes buffer datum) placement result ∧
        placement.read options.narrowing text (.uniform format.fieldCount) buffer =
          .ok result := by
    intro placement placed
    apply Placement.exists_read_eq_ok options.narrowing text placed
    intro position standing
    exact (Format.end_le_size placed standing).trans long
  obtain ⟨results, read⟩ := Traversal.exists_forall₂ each
  have decoded := Placement.gives_of_reads (read.imp (fun _ _ both => both.1))
  have traversed := Traversal.mapM_eq_ok_iff.mpr (read.imp (fun _ _ both => both.2))
  refine ⟨results.reduceOption, ?_, decoded⟩
  have count : results.reduceOption.length = format.fieldCount := by
    rw [← decoded.length_eq]
    exact Format.length_fields format
  rw [unpack_eq_read reading rfl, traversed]
  exact if_pos count

end StructCodec

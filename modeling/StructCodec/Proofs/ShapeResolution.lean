import StructCodec.Proofs.Traversal
import StructCodec.Shape

/-!
# What shapes declare

A shape either declares slots for a format or is refused, whatever the buffer holds.  The
two relations below say which of both happens to each shape.
-/

namespace StructCodec

theorem Slots.get?_eq_none_iff {slots : Slots} {index : Nat} :
    slots.get? index = none ↔ slots.count ≤ index := by
  rw [← Slots.getElem?_toList, List.getElem?_eq_none_iff, Slots.length_toList]

theorem Slots.exists_get? {slots : Slots} {index : Nat} (declared : index < slots.count) :
    ∃ slot, slots.get? index = some slot := by
  apply Option.ne_none_iff_exists'.mp
  intro undeclared
  exact Nat.not_le.mpr declared (Slots.get?_eq_none_iff.mp undeclared)

namespace ShapeRequest

/-- The items of a shape that is a sequence. -/
def items? : ShapeRequest → Option (List SlotRequest)
  | .slots requests => some requests
  | .value (.list items) => some (items.map .value)
  | _ => none

/-- The slots that a shape declares. -/
inductive Declares [Machine] (format : Format) : ShapeRequest → Slots → Prop where
  | perField : Declares format (.value .nothing) (.uniform format.fieldCount)
  | counted {arity : Int} (low : 0 ≤ arity) (fits : arity < Machine.slotLimit) :
      Declares format (.value (.integer arity)) (.uniform arity.toNat)
  | listed {shape : ShapeRequest} {requests : List SlotRequest} {slots : List Slot}
      (sequence : shape.items? = some requests)
      (each : List.Forall₂ (fun request slot => request.slot? = some slot) requests slots) :
      Declares format shape (.listed slots)

/-- The kind of error that a shape is refused with.  What is wrong with a negative number of
slots, or with an item that is no slot type, is told only if the message can be written. -/
inductive Refused [Machine] : ShapeRequest → ErrorKind → Prop where
  | negative {arity : Int} (negative : arity < 0) :
      Refused (.value (.integer arity)) (.raised (Decimal.isWritable arity) (.library .schema))
  | beyondMemory {arity : Int} (beyond : Machine.slotLimit ≤ arity) (below : arity < arityLimit) :
      Refused (.value (.integer arity)) .outOfMemory
  | beyondLimit {arity : Int} (beyond : arityLimit ≤ arity) :
      Refused (.value (.integer arity)) .overflow
  | text (content : String) : Refused (.value (.text content)) (.library .schema)
  | bytes (content : List UInt8) : Refused (.value (.bytes content)) (.library .schema)
  | boolean (truth : Bool) : Refused (.value (.boolean truth)) .wrongType
  | float (literal : FloatLiteral) : Refused (.value (.float literal)) .wrongType
  | register (number : Int) : Refused (.value (.register number)) .wrongType
  | scalar (scalar : Scalar) : Refused (.value (.scalar scalar)) .wrongType
  | unsupported {shape : ShapeRequest} {before after : List SlotRequest} {request : SlotRequest}
      (sequence : shape.items? = some (before ++ request :: after))
      (supported : ∀ earlier ∈ before, earlier.slot? ≠ none)
      (unsupported : request.slot? = none) :
      Refused shape (.raised request.isWritable (.library .schema))

/-- Of a format, a shape looks at the number of fields only. -/
theorem resolve_congr [Machine] {left right : Format} (count : left.fieldCount = right.fieldCount)
    (shape : ShapeRequest) : shape.resolve left = shape.resolve right := by
  cases shape with
  | slots requests => rfl
  | value given =>
      cases given with
      | nothing => rw [resolve, resolve, count]
      | boolean | integer | float | text | bytes | list | register | scalar => rfl

theorem slotLimit_le_arityLimit [Machine] : (Machine.slotLimit : Int) ≤ arityLimit := by
  have least : ((1 <<< 60 : Nat) : Int) ≤ arityLimit := by decide
  exact Int.le_trans (Int.ofNat_le.mpr Machine.slotLimit_le) least

theorem readSlots_of_each {requests : List SlotRequest} {slots : List Slot}
    (each : List.Forall₂ (fun request slot => request.slot? = some slot) requests slots)
    (index : Nat) : readSlots index requests = .ok slots := by
  induction each generalizing index with
  | nil => rfl
  | cons first _ induction =>
      rw [readSlots, first, induction (index + 1)]
      rfl

/-- The error names the first item that is no slot type, by its place. -/
theorem readSlots_of_unsupported {before after : List SlotRequest} {request : SlotRequest}
    (supported : ∀ earlier ∈ before, earlier.slot? ≠ none)
    (unsupported : request.slot? = none) (index : Nat) :
    readSlots index (before ++ request :: after) =
      .error (.unsupportedSlot (index + before.length) request) := by
  induction before generalizing index with
  | nil =>
      rw [List.nil_append, readSlots, unsupported]
      rfl
  | cons first before induction =>
      have later := induction
        (fun earlier member => supported earlier (List.mem_cons_of_mem first member))
        (index + 1)
      have place : index + 1 + before.length = index + (first :: before).length := by
        rw [List.length_cons]
        omega
      obtain ⟨slot, found⟩ :=
        Option.ne_none_iff_exists'.mp (supported first List.mem_cons_self)
      rw [List.cons_append, readSlots, found, later, place]
      rfl

theorem resolve_of_items [Machine] {shape : ShapeRequest} {requests : List SlotRequest}
    (sequence : shape.items? = some requests) (format : Format) :
    shape.resolve format = (readSlots 0 requests).map .listed := by
  cases shape with
  | slots given =>
      cases sequence
      rfl
  | value given =>
      cases given with
      | list items =>
          cases sequence
          rfl
      | nothing | boolean | integer | float | text | bytes | register | scalar =>
          cases sequence

theorem resolve_of_unsupported [Machine] {shape : ShapeRequest} {before after : List SlotRequest}
    {request : SlotRequest} (sequence : shape.items? = some (before ++ request :: after))
    (supported : ∀ earlier ∈ before, earlier.slot? ≠ none)
    (unsupported : request.slot? = none) (format : Format) :
    shape.resolve format = .error (.unsupportedSlot before.length request) := by
  rw [resolve_of_items sequence, readSlots_of_unsupported supported unsupported 0,
    Nat.zero_add]
  rfl

theorem Declares.resolve_eq [Machine] {format : Format} {shape : ShapeRequest} {slots : Slots}
    (declared : Declares format shape slots) : shape.resolve format = .ok slots := by
  cases declared with
  | perField => rfl
  | counted low fits =>
      have below := Int.lt_of_lt_of_le fits slotLimit_le_arityLimit
      rw [resolve, if_neg (Int.not_lt.mpr low), if_neg (Int.not_le.mpr below),
        if_neg (Int.not_le.mpr fits)]
  | listed sequence each =>
      rw [resolve_of_items sequence, readSlots_of_each each]
      rfl

/-- No shape is refused as a number that is out of range. -/
theorem Refused.exists_error [Machine] {shape : ShapeRequest} {kind : ErrorKind}
    (refused : Refused shape kind) (format : Format) :
    ∃ error, shape.resolve format = .error error ∧ error.kind = kind ∧
      error.reportedKind ≠ .library .valueOutOfRange := by
  cases refused with
  | negative negative => exact ⟨_, if_pos negative, rfl, by simp [CodecError.reportedKind]⟩
  | @beyondMemory arity beyond below =>
      have positive : ¬ arity < 0 := by
        have limit : (0 : Int) ≤ Machine.slotLimit := Int.natCast_nonneg _
        omega
      refine ⟨.arityBeyondMemory, ?_, rfl, by simp [CodecError.reportedKind]⟩
      rw [resolve, if_neg positive, if_neg (Int.not_le.mpr below), if_pos beyond]
  | @beyondLimit arity beyond =>
      have positive : ¬ arity < 0 := by
        have limit : (0 : Int) ≤ arityLimit := by decide
        omega
      refine ⟨.arityTooLarge, ?_, rfl, by simp [CodecError.reportedKind]⟩
      rw [resolve, if_neg positive, if_pos beyond]
  | text | bytes | boolean | float | register | scalar =>
      exact ⟨_, rfl, rfl, by simp [CodecError.reportedKind]⟩
  | unsupported sequence supported unsupported =>
      exact ⟨_, resolve_of_unsupported sequence supported unsupported format, rfl,
        by simp [CodecError.reportedKind]⟩

theorem declares_or_refused_of_items [Machine] {shape : ShapeRequest} {requests : List SlotRequest}
    (sequence : shape.items? = some requests) (format : Format) :
    (∃ slots, Declares format shape slots) ∨ ∃ kind, Refused shape kind := by
  by_cases present : ∃ request ∈ requests, request.slot? = none
  · obtain ⟨before, request, after, rfl, supported, unsupported⟩ :=
      Traversal.exists_first present
    exact .inr ⟨_, .unsupported sequence supported unsupported⟩
  · left
    obtain ⟨slots, each⟩ : ∃ slots,
        List.Forall₂ (fun request slot => request.slot? = some slot) requests slots := by
      apply Traversal.exists_forall₂
      intro request member
      apply Option.ne_none_iff_exists'.mp
      intro unsupported
      exact present ⟨request, member, unsupported⟩
    exact ⟨.listed slots, .listed sequence each⟩

theorem declares_or_refused [Machine] (format : Format) (shape : ShapeRequest) :
    (∃ slots, Declares format shape slots) ∨ ∃ kind, Refused shape kind := by
  cases shape with
  | slots requests => exact declares_or_refused_of_items rfl format
  | value given =>
      cases given with
      | nothing => exact .inl ⟨_, .perField⟩
      | list items => exact declares_or_refused_of_items rfl format
      | text content => exact .inr ⟨_, .text content⟩
      | bytes content => exact .inr ⟨_, .bytes content⟩
      | boolean truth => exact .inr ⟨_, .boolean truth⟩
      | float literal => exact .inr ⟨_, .float literal⟩
      | register number => exact .inr ⟨_, .register number⟩
      | scalar scalar => exact .inr ⟨_, .scalar scalar⟩
      | integer arity =>
          by_cases negative : arity < 0
          · exact .inr ⟨_, .negative negative⟩
          · by_cases fits : arity < Machine.slotLimit
            · exact .inl ⟨_, .counted (Int.not_lt.mp negative) fits⟩
            · by_cases below : arity < arityLimit
              · exact .inr ⟨_, .beyondMemory (Int.not_lt.mp fits) below⟩
              · exact .inr ⟨_, .beyondLimit (Int.not_lt.mp below)⟩

end ShapeRequest

end StructCodec

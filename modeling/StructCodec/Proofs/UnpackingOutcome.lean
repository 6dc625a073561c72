import StructCodec.Proofs.PackedForm
import StructCodec.Proofs.Reading
import StructCodec.Proofs.ShapeResolution

/-!
# The outcome of unpacking

A placement fails for want of a slot, of bytes, or because its slot does not take what the
bytes mean, and the first placement that fails decides how unpacking fails.  The format and
the shape are looked at before, and slots that are left over after.  `UnpackOutcome` states
this as a relation, and unpacking is shown to have exactly the outcomes that it relates.
-/

namespace StructCodec

/-! ### Delivery through slots -/

/-- What a slot delivers for a decoded datum. -/
inductive Slot.Gives (policy : NarrowingPolicy) : Slot → Datum → Datum → Prop where
  | asDecoded (datum : Datum) : Gives policy .asDecoded datum datum
  | integer (datum : Datum) : Gives policy .integer datum (.integer datum.toInt)
  | boolean {slot : Slot} (isBoolean : slot.isBoolean = true) (truth : Bool) :
      Gives policy slot (.boolean truth) (.boolean truth)
  | narrowed {type : IntegerType} {datum : Datum} {number : Int}
      (narrowing : (ScalarType.integer type).narrow policy datum.toInt = .ok number) :
      Gives policy (.scalar (.integer type)) datum (.integer number)

theorem Slot.Gives.deliver_eq {policy : NarrowingPolicy} {slot : Slot}
    {datum delivered : Datum} (gives : slot.Gives policy datum delivered) (index : Nat) :
    slot.deliver policy index datum = .ok delivered := by
  cases gives with
  | asDecoded | integer => rfl
  | boolean isBoolean truth =>
      cases slot with
      | asDecoded | integer => cases isBoolean
      | boolean => rfl
      | scalar type =>
          cases type with
          | boolean => rfl
          | integer type => cases isBoolean
  | narrowed narrowing =>
      simp only [deliver, narrowing]

theorem Slot.exists_gives {policy : NarrowingPolicy} {slot : Slot} {datum : Datum}
    (isTruth : slot.isBoolean = true → ∃ truth, datum = .boolean truth)
    (inRange : ∀ type, policy = .strict → slot = .scalar (.integer type) →
      (ScalarType.integer type).InRange datum.toInt) :
    ∃ delivered, slot.Gives policy datum delivered := by
  cases slot with
  | asDecoded => exact ⟨_, .asDecoded datum⟩
  | integer => exact ⟨_, .integer datum⟩
  | boolean =>
      obtain ⟨truth, rfl⟩ := isTruth rfl
      exact ⟨_, .boolean rfl truth⟩
  | scalar type =>
      cases type with
      | boolean =>
          obtain ⟨truth, rfl⟩ := isTruth rfl
          exact ⟨_, .boolean rfl truth⟩
      | integer type =>
          cases policy with
          | strict =>
              exact ⟨_, .narrowed (ScalarType.narrow_of_inRange _ (inRange type rfl rfl))⟩
          | wrap =>
              obtain ⟨number, narrowing⟩ := ScalarType.exists_narrow_wrap type datum.toInt
              exact ⟨_, .narrowed narrowing⟩

namespace FieldPlacement

theorem meaning_boolean_iff {field : FieldPlacement} {buffer : List UInt8} :
    (∃ truth, field.meaning buffer = .boolean truth) ↔ field.type = .boolean := by
  unfold meaning
  cases field.type <;> simp

theorem unpackField_slice (policy : NarrowingPolicy) (slot : Slot) {field : FieldPlacement}
    {buffer : List UInt8} (complete : field.offset + field.type.width ≤ buffer.length) :
    unpackField policy field.order field.index field.type slot (field.slice buffer) =
      slot.deliver policy field.index (field.meaning buffer) := by
  have decodes : field.type.decode (field.order.fromWire (field.slice buffer)) =
      .ok (field.meaning buffer) := decodes_meaning complete
  rw [unpackField, decodes]
  rfl

/-- A field has a slot and is complete, and the slot delivers a datum for its bytes. -/
def Delivers (policy : NarrowingPolicy) (slots : Slots) (buffer : List UInt8)
    (field : FieldPlacement) (datum : Datum) : Prop :=
  ∃ slot, slots.get? field.index = some slot ∧
    field.offset + field.type.width ≤ buffer.length ∧
    slot.Gives policy (field.meaning buffer) datum

theorem Delivers.read_eq {policy : NarrowingPolicy} {slots : Slots} {buffer : List UInt8}
    {field : FieldPlacement} {datum : Datum} (delivers : field.Delivers policy slots buffer datum)
    (text : String) : (Placement.field field).read policy text slots buffer = .ok (some datum) := by
  obtain ⟨slot, declared, complete, gives⟩ := delivers
  simp only [Placement.read, declared, if_pos complete, unpackField_slice policy slot complete,
    gives.deliver_eq field.index]
  rfl

end FieldPlacement

/-! ### Failing placements -/

namespace Placement

/-- Why a placement fails. -/
inductive Fails (policy : NarrowingPolicy) (slots : Slots) (buffer : List UInt8) :
    Placement → ErrorClass → Prop where
  | pad {offset : Nat} (ended : buffer.length ≤ offset) :
      Fails policy slots buffer (.pad offset) .bufferUnderrun
  | undeclared {field : FieldPlacement} (undeclared : slots.count ≤ field.index) :
      Fails policy slots buffer (.field field) .insufficientOutputSlots
  | truncated {field : FieldPlacement} (declared : field.index < slots.count)
      (short : buffer.length < field.offset + field.type.width) :
      Fails policy slots buffer (.field field) .bufferUnderrun
  | notBoolean {field : FieldPlacement} {slot : Slot}
      (declared : slots.get? field.index = some slot)
      (complete : field.offset + field.type.width ≤ buffer.length)
      (isBoolean : slot.isBoolean = true) (differs : field.type ≠ .boolean) :
      Fails policy slots buffer (.field field) .slotType
  | outOfRange {field : FieldPlacement} {type : IntegerType}
      (strict : policy = .strict)
      (declared : slots.get? field.index = some (.scalar (.integer type)))
      (complete : field.offset + field.type.width ≤ buffer.length)
      (beyond : ¬ (ScalarType.integer type).InRange (field.meaning buffer).toInt) :
      Fails policy slots buffer (.field field) .valueOutOfRange

variable {policy : NarrowingPolicy} {slots : Slots} {buffer : List UInt8}

theorem deliver_of_notBoolean {slot : Slot} {datum : Datum} (isBoolean : slot.isBoolean = true)
    (integer : ¬ ∃ truth, datum = .boolean truth) (index : Nat) :
    slot.deliver policy index datum = .error (.slotNotBoolean index) := by
  cases datum with
  | boolean truth => exact absurd ⟨truth, rfl⟩ integer
  | integer number =>
      cases slot with
      | asDecoded | integer => cases isBoolean
      | boolean => rfl
      | scalar type =>
          cases type with
          | boolean => rfl
          | integer type => cases isBoolean

theorem Fails.exists_error {placement : Placement} {errorClass : ErrorClass}
    (fails : placement.Fails policy slots buffer errorClass) (text : String) :
    ∃ error, placement.read policy text slots buffer = .error error ∧
      error.kind = .library errorClass := by
  cases fails with
  | pad ended => exact ⟨_, if_neg (Nat.not_lt.mpr ended), rfl⟩
  | undeclared undeclared =>
      refine ⟨.insufficientSlots text slots.count, ?_, rfl⟩
      simp only [read, Slots.get?_eq_none_iff.mpr undeclared]
  | @truncated field declared short =>
      obtain ⟨slot, found⟩ := Slots.exists_get? declared
      refine ⟨.truncatedField field.index field.type
        ⟨field.offset, field.type.width, buffer.length - field.offset⟩, ?_, rfl⟩
      simp only [read, found, if_neg (Nat.not_le.mpr short)]
  | @notBoolean field slot declared complete isBoolean differs =>
      have integer : ¬ ∃ truth, field.meaning buffer = .boolean truth := by
        rw [FieldPlacement.meaning_boolean_iff]
        exact differs
      have refused : slot.deliver policy field.index (field.meaning buffer) =
          .error (.slotNotBoolean field.index) :=
        deliver_of_notBoolean isBoolean integer field.index
      refine ⟨.slotNotBoolean field.index, ?_, rfl⟩
      simp only [read, declared, if_pos complete,
        FieldPlacement.unpackField_slice policy slot complete, refused]
      rfl
  | @outOfRange field type strict declared complete beyond =>
      subst strict
      have refused : (ScalarType.integer type).narrow .strict (field.meaning buffer).toInt =
          .error (.outOfRange (field.meaning buffer).toInt (.integer type)) := if_neg beyond
      refine ⟨.slotValue field.index
        (.outOfRange (field.meaning buffer).toInt (.integer type)), ?_, ?_⟩
      · simp only [read, declared, if_pos complete,
          FieldPlacement.unpackField_slice .strict _ complete, Slot.deliver, refused]
        rfl
      · -- A decoded integer can be written, whatever the slot makes of it.
        have writable := ScalarType.isWritable_of_inRange (FieldPlacement.inRange_meaning complete)
        exact CodecError.kind_of_isWritable writable

theorem delivers_of_passed {field : FieldPlacement}
    (passed : ∀ errorClass, ¬ (Placement.field field).Fails policy slots buffer errorClass) :
    ∃ datum, field.Delivers policy slots buffer datum := by
  have declared : field.index < slots.count :=
    Nat.not_le.mp (fun undeclared => passed _ (.undeclared undeclared))
  have complete : field.offset + field.type.width ≤ buffer.length :=
    Nat.not_lt.mp (fun short => passed _ (.truncated declared short))
  obtain ⟨slot, found⟩ := Slots.exists_get? declared
  have gives : ∃ datum, slot.Gives policy (field.meaning buffer) datum := by
    apply Slot.exists_gives
    · intro isBoolean
      apply FieldPlacement.meaning_boolean_iff.mpr
      by_contra differs
      exact passed _ (.notBoolean found complete isBoolean differs)
    · rintro type strict rfl
      by_contra beyond
      exact passed _ (.outOfRange strict found complete beyond)
  obtain ⟨datum, gives⟩ := gives
  exact ⟨datum, slot, found, complete, gives⟩

theorem exists_read_of_passed {placement : Placement} (text : String)
    (passed : ∀ errorClass, ¬ placement.Fails policy slots buffer errorClass) :
    ∃ result,
      Reads (fun field datum => field.Delivers policy slots buffer datum) placement result ∧
      placement.read policy text slots buffer = .ok result := by
  cases placement with
  | marker order => exact ⟨none, .marker order, rfl⟩
  | pad offset =>
      have left : offset < buffer.length :=
        Nat.not_le.mp (fun ended => passed _ (.pad ended))
      exact ⟨none, .pad offset, if_pos left⟩
  | field field =>
      obtain ⟨datum, delivers⟩ := delivers_of_passed passed
      exact ⟨some datum, .field delivers, delivers.read_eq text⟩

end Placement

/-! ### Outcomes -/

/-- What unpacking comes to, up to the kind of its error. -/
inductive UnpackOutcome [Machine] (options : Options) (text : String) (buffer : List UInt8)
    (shape : ShapeRequest) : Except ErrorKind (List Datum) → Prop where
  | unread (refused : ∃ char ∈ text.toList, ¬ options.Accepts char) :
      UnpackOutcome options text buffer shape (.error (.library .unknownFormatChar))
  | undeclared {format : Format} {kind : ErrorKind}
      (reading : Format.parse options text = .ok format) (refused : shape.Refused kind) :
      UnpackOutcome options text buffer shape (.error kind)
  | failed {format : Format} {slots : Slots} {before after : List Placement}
      {placement : Placement} {errorClass : ErrorClass}
      (reading : Format.parse options text = .ok format)
      (declared : shape.Declares format slots)
      (split : format.placements = before ++ placement :: after)
      (passed : ∀ earlier ∈ before, ∀ errorClass,
        ¬ earlier.Fails options.narrowing slots buffer errorClass)
      (fails : placement.Fails options.narrowing slots buffer errorClass) :
      UnpackOutcome options text buffer shape (.error (.library errorClass))
  | surplus {format : Format} {slots : Slots}
      (reading : Format.parse options text = .ok format)
      (declared : shape.Declares format slots)
      (passed : ∀ placement ∈ format.placements, ∀ errorClass,
        ¬ placement.Fails options.narrowing slots buffer errorClass)
      (more : format.fieldCount < slots.count) :
      UnpackOutcome options text buffer shape (.error (.library .arityMismatch))
  | delivered {format : Format} {slots : Slots} {data : List Datum}
      (reading : Format.parse options text = .ok format)
      (declared : shape.Declares format slots)
      (passed : ∀ placement ∈ format.placements, ∀ errorClass,
        ¬ placement.Fails options.narrowing slots buffer errorClass)
      (enough : slots.count ≤ format.fieldCount)
      (delivered : List.Forall₂
        (fun field datum => field.Delivers options.narrowing slots buffer datum)
        format.fields data) :
      UnpackOutcome options text buffer shape (.ok data)

section Outcomes

variable {options : Options} {text : String} {buffer : List UInt8} {shape : ShapeRequest}
  {format : Format} {slots : Slots}

theorem delivers_unique {policy : NarrowingPolicy} :
    Relator.RightUnique (fun (field : FieldPlacement) (datum : Datum) =>
      field.Delivers policy slots buffer datum) := by
  intro field left right leftDelivers rightDelivers
  have same := leftDelivers.read_eq ""
  rw [rightDelivers.read_eq ""] at same
  cases same
  rfl

theorem fieldCount_le_of_delivers {policy : NarrowingPolicy} {data : List Datum}
    (delivered : List.Forall₂ (fun field datum => field.Delivers policy slots buffer datum)
      format.fields data) : format.fieldCount ≤ slots.count := by
  -- The field whose index is the number of slots would have to deliver through one.
  by_contra fewer
  obtain ⟨field, found⟩ : ∃ field, format.fields[slots.count]? = some field := by
    apply Option.ne_none_iff_exists'.mp
    intro missing
    rw [List.getElem?_eq_none_iff, Format.length_fields] at missing
    exact fewer missing
  obtain ⟨datum, _, slot, declared, _⟩ := Traversal.getElem?_of_forall₂ delivered found
  rw [(Format.getElem?_fields_iff.mp found).2,
    Slots.get?_eq_none_iff.mpr (Nat.le_refl _)] at declared
  cases declared

/-- If no placement fails, unpacking counts what the fields deliver. -/
theorem unpack_of_passed [Machine] (reading : Format.parse options text = .ok format)
    (declared : shape.Declares format slots)
    (passed : ∀ placement ∈ format.placements, ∀ errorClass,
      ¬ placement.Fails options.narrowing slots buffer errorClass) :
    ∃ data,
      List.Forall₂ (fun field datum => field.Delivers options.narrowing slots buffer datum)
        format.fields data ∧
      unpack options text buffer shape =
        if format.fieldCount = slots.count then .ok data
        else .error (.arityMismatch text format.fieldCount slots.count) := by
  have each : ∀ placement ∈ format.placements, ∃ result,
      Placement.Reads
        (fun field datum => field.Delivers options.narrowing slots buffer datum)
        placement result ∧
      placement.read options.narrowing text slots buffer = .ok result :=
    fun placement placed => Placement.exists_read_of_passed text (passed placement placed)
  obtain ⟨results, read⟩ := Traversal.exists_forall₂ each
  have delivered := Placement.gives_of_reads (read.imp (fun _ _ both => both.1))
  have traversed := Traversal.mapM_eq_ok_iff.mpr (read.imp (fun _ _ both => both.2))
  have count : results.reduceOption.length = format.fieldCount := by
    rw [← delivered.length_eq]
    exact Format.length_fields format
  refine ⟨results.reduceOption, delivered, ?_⟩
  rw [unpack_eq_read reading declared.resolve_eq, traversed, ← count]
  rfl

theorem unpack_of_fails [Machine] {before after : List Placement} {placement : Placement}
    {errorClass : ErrorClass} (reading : Format.parse options text = .ok format)
    (declared : shape.Declares format slots)
    (split : format.placements = before ++ placement :: after)
    (passed : ∀ earlier ∈ before, ∀ errorClass,
      ¬ earlier.Fails options.narrowing slots buffer errorClass)
    (fails : placement.Fails options.narrowing slots buffer errorClass) :
    ∃ error, unpack options text buffer shape = .error error ∧
      error.kind = .library errorClass := by
  obtain ⟨error, failed, kind⟩ := fails.exists_error text
  have readable : ∀ earlier ∈ before, ∃ result,
      earlier.read options.narrowing text slots buffer = .ok result := by
    intro earlier member
    obtain ⟨result, _, success⟩ :=
      Placement.exists_read_of_passed text (passed earlier member)
    exact ⟨result, success⟩
  refine ⟨error, ?_, kind⟩
  rw [unpack_eq_read reading declared.resolve_eq, split,
    Traversal.mapM_eq_error readable failed after]
  rfl

theorem UnpackOutcome.eq [Machine] {outcome : Except ErrorKind (List Datum)}
    (related : UnpackOutcome options text buffer shape outcome) :
    (unpack options text buffer shape).mapError CodecError.kind = outcome := by
  cases related with
  | unread refused =>
      obtain ⟨char, position, failed⟩ := Format.parse_of_refused refused
      rw [unpack, failed]
      rfl
  | @undeclared format kind reading refused =>
      obtain ⟨error, failed, kind, _⟩ := refused.exists_error format
      rw [unpack_of_shape_error reading failed, ← kind]
      rfl
  | failed reading declared split passed fails =>
      obtain ⟨error, failed, kind⟩ := unpack_of_fails reading declared split passed fails
      rw [failed, ← kind]
      rfl
  | surplus reading declared passed more =>
      obtain ⟨data, _, unpacked⟩ := unpack_of_passed reading declared passed
      rw [unpacked, if_neg (Nat.ne_of_lt more)]
      rfl
  | delivered reading declared passed enough delivered =>
      obtain ⟨data, delivers, unpacked⟩ := unpack_of_passed reading declared passed
      -- Fields that all deliver have a slot each, so the counts can differ in one way only.
      have complete := Nat.le_antisymm (fieldCount_le_of_delivers delivers) enough
      rw [unpacked, if_pos complete, delivers_unique.forall₂ delivers delivered]
      rfl

theorem exists_unpackOutcome [Machine] (options : Options) (text : String) (buffer : List UInt8)
    (shape : ShapeRequest) : ∃ outcome, UnpackOutcome options text buffer shape outcome := by
  rcases Format.parse_or_refused options text with ⟨format, reading⟩ | refused
  · rcases shape.declares_or_refused format with ⟨slots, declared⟩ | ⟨kind, refused⟩
    · rcases Traversal.first_failure_or_none
          (Placement.Fails options.narrowing slots buffer) format.placements with
        ⟨before, placement, after, errorClass, split, passed, fails⟩ | passed
      · exact ⟨_, .failed reading declared split passed fails⟩
      · by_cases more : format.fieldCount < slots.count
        · exact ⟨_, .surplus reading declared passed more⟩
        · obtain ⟨data, delivered, _⟩ := unpack_of_passed reading declared passed
          exact ⟨_, .delivered reading declared passed (Nat.not_lt.mp more) delivered⟩
    · exact ⟨_, .undeclared reading refused⟩
  · exact ⟨_, .unread refused⟩

theorem unpack_outcome_iff [Machine] {outcome : Except ErrorKind (List Datum)} :
    (unpack options text buffer shape).mapError CodecError.kind = outcome ↔
      UnpackOutcome options text buffer shape outcome := by
  constructor
  · rintro rfl
    obtain ⟨outcome, related⟩ := exists_unpackOutcome options text buffer shape
    rw [related.eq]
    exact related
  · exact UnpackOutcome.eq

end Outcomes

/-- Unpacking has exactly the outcomes that are related to it, and a shape that is a sequence
is refused at its first item that is no slot type. -/
theorem unpack_outcome [Machine] (options : Options) (text : String) (buffer : List UInt8)
    (shape : ShapeRequest) :
    (∀ outcome, (unpack options text buffer shape).mapError CodecError.kind = outcome ↔
      UnpackOutcome options text buffer shape outcome) ∧
    ∀ format before request after, Format.parse options text = .ok format →
      shape.items? = some (before ++ request :: after) →
      (∀ earlier ∈ before, earlier.slot? ≠ none) → request.slot? = none →
      unpack options text buffer shape = .error (.unsupportedSlot before.length request) := by
  refine ⟨fun outcome => unpack_outcome_iff, ?_⟩
  intro format before request after reading sequence supported unsupported
  have refused := ShapeRequest.resolve_of_unsupported sequence supported unsupported format
  exact unpack_of_shape_error reading refused buffer

open SmallMachine in
theorem unpack_outcome_strict :
    UnpackOutcome ⟨.strict, true⟩ "B >H" [7, 255, 255]
        (.slots [.slot .asDecoded, .slot (.scalar (.integer ⟨.signed, .two⟩))])
        (.error (.library .valueOutOfRange)) ∧
      unpack {} "Bh" [] (.value (.list [.nothing, .text "h", .integer 1])) =
        .error (.unsupportedSlot 1 (.value (.text "h"))) := by
  constructor
  · apply ((unpack_outcome ⟨.strict, true⟩ "B >H" [7, 255, 255] _).1 _).mp
    have failed : unpack ⟨.strict, true⟩ "B >H" [7, 255, 255]
        (.slots [.slot .asDecoded, .slot (.scalar (.integer ⟨.signed, .two⟩))]) =
        .error (.slotValue 1 (.outOfRange 65535 (.integer ⟨.signed, .two⟩))) := rfl
    have kind : (CodecError.slotValue 1 (.outOfRange 65535 (.integer ⟨.signed, .two⟩))).kind =
        .library .valueOutOfRange :=
      CodecError.kind_of_isWritable (Decimal.isWritable_of_natAbs_le (by decide))
    rw [failed, Except.mapError, kind]
  · apply (unpack_outcome {} "Bh" [] _).2
      [.field (.integer ⟨.unsigned, .one⟩), .field (.integer ⟨.signed, .two⟩)]
      [.value .nothing] (.value (.text "h")) [.value (.integer 1)] rfl rfl
    · intro earlier member
      cases List.mem_singleton.mp member
      exact Option.some_ne_none _
    · rfl

/-- Slots that no list or no memory can hold are not declared: the buffer, which would be too
short for the field, is not looked at.  That a number of slots is negative is not told if it
has too many digits. -/
theorem unpack_arity_beyond_limits :
    Format.parse {} "B" = .ok [.field (.integer ⟨.unsigned, .one⟩)] ∧
      Placement.Fails .wrap (.uniform (2 ^ 63)) []
        (.field ⟨0, .integer ⟨.unsigned, .one⟩, 0, .little⟩) .bufferUnderrun ∧
      ∀ [Machine],
        (unpack {} "B" [] (.value (.integer (2 ^ 63)))).mapError CodecError.kind =
          .error .overflow ∧
        (unpack {} "B" [] (.value (.integer (2 ^ 60)))).mapError CodecError.kind =
          .error .outOfMemory ∧
        (unpack {} "B" [] (.value (.integer (-Decimal.tooLong)))).mapError
          CodecError.kind = .error .invalidArgument := by
  refine ⟨rfl, .truncated (by decide) (by decide), ?_⟩
  intro machine
  refine ⟨?_, ?_, ?_⟩
  · exact unpack_outcome_iff.mpr (.undeclared rfl (.beyondLimit (by decide)))
  · have beyond : (Machine.slotLimit : Int) ≤ 2 ^ 60 := by
      exact_mod_cast Machine.slotLimit_le
    exact unpack_outcome_iff.mpr (.undeclared rfl (.beyondMemory beyond (by decide)))
  · have negative : -(Decimal.tooLong : Int) < 0 := by
      have positive := Decimal.tooLong_pos
      omega
    have unwritable : Decimal.isWritable (-(Decimal.tooLong : Int)) = false := by
      rw [Decimal.isWritable_neg]
      exact Decimal.not_isWritable_tooLong
    have refused := ShapeRequest.Refused.negative negative
    rw [unwritable, ErrorKind.raised_false] at refused
    exact unpack_outcome_iff.mpr (.undeclared rfl refused)

end StructCodec

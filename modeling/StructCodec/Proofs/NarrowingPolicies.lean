import StructCodec.Proofs.Delivery

/-!
# Strict and wrapping narrowing

Both policies come to the same wherever a number is in range.  Where it is not, the strict
policy stops and the wrapping one goes on.  This is shown for narrowing, carried through every
step of packing and unpacking, and then through whole runs: they agree up to the place where
the strict one stops, and the strict one does not stop exactly if wrapping alters nothing.
-/

namespace StructCodec

/-- Two outcomes of one step: they are the same, or the second one succeeds where the first
one fails with an error that is waived. -/
inductive Relaxes {ε α : Type} (waived : ε → Prop) : Except ε α → Except ε α → Prop where
  | ok (result : α) : Relaxes waived (.ok result) (.ok result)
  | kept {error : ε} (kept : ¬ waived error) : Relaxes waived (.error error) (.error error)
  | waived {error : ε} (isWaived : waived error) (result : α) :
      Relaxes waived (.error error) (.ok result)

namespace Relaxes

variable {ε η α β : Type} {waived : ε → Prop}

theorem map {strict lenient : Except ε α} (relaxes : Relaxes waived strict lenient)
    (next : α → β) : Relaxes waived (strict.map next) (lenient.map next) := by
  cases relaxes with
  | ok result => exact .ok _
  | kept kept => exact .kept kept
  | waived isWaived result => exact .waived isWaived _

theorem mapError {waivedAfter : η → Prop} {relabel : ε → η} {strict lenient : Except ε α}
    (same : ∀ error, waivedAfter (relabel error) ↔ waived error)
    (relaxes : Relaxes waived strict lenient) :
    Relaxes waivedAfter (strict.mapError relabel) (lenient.mapError relabel) := by
  cases relaxes with
  | ok result => exact .ok result
  | kept kept => exact .kept (fun isWaived => kept ((same _).mp isWaived))
  | waived isWaived result => exact .waived ((same _).mpr isWaived) result

/-- Two outcomes of a whole run.  Unlike single steps, a run that goes past a waived error may
still fail. -/
def Runs (waived : ε → Prop) (strict lenient : Except ε α) : Prop :=
  strict = lenient ∨ ∃ error, waived error ∧ strict = .error error

theorem runs {strict lenient : Except ε α} (relaxes : Relaxes waived strict lenient) :
    Runs waived strict lenient := by
  cases relaxes with
  | ok result =>
      left
      rfl
  | kept kept =>
      left
      rfl
  | waived isWaived result =>
      right
      exact ⟨_, isWaived, rfl⟩

namespace Runs

variable {strict lenient : Except ε α}

theorem ok (relaxed : Runs waived strict lenient) {result : α} (success : strict = .ok result) :
    lenient = .ok result := by
  rcases relaxed with same | ⟨error, _, failed⟩
  · rw [← same]
    exact success
  · rw [failed] at success
    cases success

theorem kept (relaxed : Runs waived strict lenient) {error : ε}
    (failed : strict = .error error) (kept : ¬ waived error) : lenient = .error error := by
  rcases relaxed with same | ⟨own, isWaived, failedOwn⟩
  · rw [← same]
    exact failed
  · rw [failed] at failedOwn
    cases failedOwn
    exact absurd isWaived kept

theorem map (relaxed : Runs waived strict lenient) (next : α → β) :
    Runs waived (strict.map next) (lenient.map next) := by
  rcases relaxed with same | ⟨error, isWaived, failed⟩
  · left
    rw [same]
  · right
    refine ⟨error, isWaived, ?_⟩
    rw [failed]
    rfl

theorem bind (relaxed : Runs waived strict lenient) (next : α → Except ε β) :
    Runs waived (strict >>= next) (lenient >>= next) := by
  rcases relaxed with same | ⟨error, isWaived, failed⟩
  · left
    rw [same]
  · right
    refine ⟨error, isWaived, ?_⟩
    rw [failed]
    rfl

end Runs

end Relaxes

/-! ### Runs of relaxed steps -/

namespace Traversal

variable {ε α β : Type} {waived : ε → Prop} {strict lenient : α → Except ε β}

theorem mapM_runs (each : ∀ item, Relaxes.Runs waived (strict item) (lenient item))
    (items : List α) : Relaxes.Runs waived (items.mapM strict) (items.mapM lenient) := by
  induction items with
  | nil =>
      left
      rfl
  | cons item items induction =>
      rw [List.mapM_cons, List.mapM_cons]
      rcases each item with same | ⟨error, isWaived, failed⟩
      · rw [← same]
        cases strict item with
        | error error =>
            left
            rfl
        | ok result => exact induction.bind _
      · right
        refine ⟨error, isWaived, ?_⟩
        rw [failed]
        rfl

theorem mapM_relaxed (each : ∀ item, Relaxes waived (strict item) (lenient item))
    (items : List α) : Relaxes.Runs waived (items.mapM strict) (items.mapM lenient) :=
  mapM_runs (fun item => (each item).runs) items

theorem StopsAt.not_waived (each : ∀ item, Relaxes waived (strict item) (lenient item))
    {items : List α} {position : Nat} {error : ε}
    (stops : StopsAt lenient items position error) : ¬ waived error := by
  obtain ⟨item, _, failed⟩ := stops.failed
  have relaxes := each item
  rw [failed] at relaxes
  generalize strict item = first at relaxes
  cases relaxes with
  | kept kept => exact kept

/-- Where the first run stops with a waived error, the second one goes past. -/
theorem StopsAt.lt_of_waived (each : ∀ item, Relaxes waived (strict item) (lenient item))
    {items : List α} {position later : Nat} {error laterError : ε}
    (stops : StopsAt strict items position error) (isWaived : waived error)
    (stopsLater : StopsAt lenient items later laterError) : position < later := by
  by_contra notLater
  obtain ⟨item, found, failed⟩ := stopsLater.failed
  have relaxes := each item
  rcases Nat.lt_or_eq_of_le (Nat.not_lt.mp notLater) with earlier | same
  · obtain ⟨result, success⟩ := stops.passed later earlier item found
    rw [success, failed] at relaxes
    cases relaxes
  · obtain ⟨other, foundOther, failedOther⟩ := stops.failed
    rw [← same, found] at foundOther
    cases foundOther
    rw [failed, failedOther] at relaxes
    cases relaxes with
    | kept kept => exact kept isWaived

end Traversal

/-! ### Steps of packing and unpacking -/

/-- A number is out of range, whether or not a message can show it. -/
def ValueFault.IsOutOfRange (fault : ValueFault) : Prop :=
  fault.errorClass = .valueOutOfRange

/-- A number is out of range, whether or not the message can be written. -/
def CodecError.IsOutOfRange (error : CodecError) : Prop :=
  error.reportedKind = .library .valueOutOfRange

theorem CodecError.IsOutOfRange.kind_eq {error : CodecError} (outOfRange : error.IsOutOfRange) :
    error.kind = .raised error.isWritable (.library .valueOutOfRange) := by
  rw [kind, outOfRange]

theorem CodecError.kind_eq_valueOutOfRange_iff {error : CodecError} :
    error.kind = .library .valueOutOfRange ↔
      error.IsOutOfRange ∧ error.isWritable = true := by
  constructor
  · intro told
    have writable : error.isWritable = true := isWritable_of_kind_ne (by simp [told])
    exact ⟨(kind_of_isWritable writable).symm.trans told, writable⟩
  · rintro ⟨outOfRange, writable⟩
    exact (kind_of_isWritable writable).trans outOfRange

namespace ScalarType

/-- The strict policy accepts what wrapping leaves as it is. -/
theorem datumOfInt_strict_iff {type : ScalarType} {number : Int} {datum : Datum} :
    type.datumOfInt .strict number = .ok datum ↔
      type.datumOfInt .wrap number = .ok datum ∧
        (type ≠ .boolean → number = datum.toInt) := by
  constructor
  · intro success
    have admitted := (datumOfInt_spec success).1
    cases type with
    | boolean => exact ⟨success, fun differs => absurd rfl differs⟩
    | integer type =>
        obtain ⟨narrowed, narrowing, rfl⟩ := (datumOfInt_cases success).2 type rfl
        obtain ⟨_, rfl⟩ := narrow_strict_iff.mp narrowing
        exact ⟨datumOfInt_toInt .wrap admitted, fun _ => rfl⟩
  · rintro ⟨success, unaltered⟩
    have admitted := (datumOfInt_spec success).1
    cases type with
    | boolean => exact success
    | integer type =>
        rw [unaltered ScalarType.noConfusion]
        exact datumOfInt_toInt .strict admitted

theorem coerce_strict_iff {type : ScalarType} {value : Value} {datum : Datum} :
    type.coerce .strict value = .ok datum ↔
      type.coerce .wrap value = .ok datum ∧
        (type ≠ .boolean → value.number? = some datum.toInt) := by
  cases value with
  | scalar scalar =>
      -- A scalar bypasses the policy and is packed as what it wraps.
      constructor
      · intro success
        refine ⟨success, fun _ => ?_⟩
        simp only [coerce] at success
        split at success
        · cases success
          rfl
        · cases success
      · intro success
        exact success.1
  | boolean | integer | register =>
      simp only [Value.number?, Value.integral?, Option.some.injEq]
      exact datumOfInt_strict_iff
  | nothing | float | text | bytes | list =>
      constructor
      · intro success
        cases success
      · intro success
        cases success.1

theorem narrow_relaxes (type : ScalarType) (number : Int) :
    Relaxes ValueFault.IsOutOfRange (type.narrow .strict number) (type.narrow .wrap number) := by
  unfold narrow
  split
  · exact .ok number
  · have isWaived : (ValueFault.outOfRange number type).IsOutOfRange := rfl
    exact .waived isWaived _

theorem datumOfInt_relaxes (type : ScalarType) (number : Int) :
    Relaxes ValueFault.IsOutOfRange (type.datumOfInt .strict number)
      (type.datumOfInt .wrap number) := by
  cases type with
  | boolean => exact .ok _
  | integer type => exact (narrow_relaxes (.integer type) number).map _

theorem coerce_relaxes (type : ScalarType) (value : Value) :
    Relaxes ValueFault.IsOutOfRange (type.coerce .strict value) (type.coerce .wrap value) := by
  have other {fault : ValueFault} (unsupported : fault.errorClass = .unsupportedValueType) :
      Relaxes ValueFault.IsOutOfRange (.error fault : Except ValueFault Datum)
        (.error fault) := by
    apply Relaxes.kept
    intro outOfRange
    rw [ValueFault.IsOutOfRange, unsupported] at outOfRange
    cases outOfRange
  cases value with
  | scalar scalar =>
      simp only [coerce]
      split
      · exact .ok scalar.datum
      · exact other rfl
  | boolean | integer | register => exact datumOfInt_relaxes type _
  | nothing | float | text | bytes | list => exact other rfl

end ScalarType

theorem packField_relaxes (order : ByteOrder) (index : Nat) (type : ScalarType)
    (value : Value) :
    Relaxes CodecError.IsOutOfRange (packField .strict order index type value)
      (packField .wrap order index type value) := by
  rw [packField_eq, packField_eq]
  apply Relaxes.map
  apply (ScalarType.coerce_relaxes type value).mapError
  intro fault
  exact iff_of_eq (ErrorKind.library.injEq _ _)

/-- What is written for a field. -/
def FieldPlacement.write (policy : NarrowingPolicy) (text : String) (values : List Value)
    (field : FieldPlacement) : Except CodecError (List UInt8) :=
  (Placement.field field).write policy text values

theorem FieldPlacement.write_relaxes (text : String) (values : List Value)
    (field : FieldPlacement) :
    Relaxes CodecError.IsOutOfRange (field.write .strict text values)
      (field.write .wrap text values) := by
  simp only [FieldPlacement.write, Placement.write]
  split
  · exact .kept (by simp [CodecError.IsOutOfRange, CodecError.reportedKind])
  · exact packField_relaxes _ _ _ _

theorem Placement.write_relaxes (text : String) (values : List Value) (placement : Placement) :
    Relaxes CodecError.IsOutOfRange (placement.write .strict text values)
      (placement.write .wrap text values) := by
  cases placement with
  | marker order => exact .ok []
  | pad offset => exact .ok [0]
  | field field => exact field.write_relaxes text values

theorem Slot.gives_strict_iff {slot : Slot} {datum delivered : Datum} :
    slot.Gives .strict datum delivered ↔
      slot.Gives .wrap datum delivered ∧
        ∀ type, slot = .scalar (.integer type) → delivered.toInt = datum.toInt := by
  constructor
  · intro gives
    cases gives with
    | asDecoded => exact ⟨.asDecoded datum, fun _ _ => rfl⟩
    | integer => exact ⟨.integer datum, fun _ _ => rfl⟩
    | boolean isBoolean truth => exact ⟨.boolean isBoolean truth, fun _ _ => rfl⟩
    | narrowed narrowing =>
        obtain ⟨inRange, rfl⟩ := ScalarType.narrow_strict_iff.mp narrowing
        exact ⟨.narrowed (ScalarType.narrow_of_inRange .wrap inRange), fun _ _ => rfl⟩
  · rintro ⟨gives, unaltered⟩
    cases gives with
    | asDecoded => exact .asDecoded datum
    | integer => exact .integer datum
    | boolean isBoolean truth => exact .boolean isBoolean truth
    | @narrowed type _ number narrowing =>
        have same : number = datum.toInt := unaltered type rfl
        have inRange := (ScalarType.narrow_spec narrowing).1
        rw [same] at inRange ⊢
        exact .narrowed (ScalarType.narrow_of_inRange .strict inRange)

theorem Slot.deliver_integer (policy : NarrowingPolicy) (index : Nat) (datum : Datum)
    (type : IntegerType) :
    Slot.deliver policy index datum (.scalar (.integer type)) =
      (((ScalarType.integer type).narrow policy datum.toInt).map .integer).mapError
        (.slotValue index) := by
  simp only [deliver]
  cases (ScalarType.integer type).narrow policy datum.toInt <;> rfl

theorem Slot.deliver_relaxes (index : Nat) (datum : Datum) (slot : Slot) :
    Relaxes CodecError.IsOutOfRange (slot.deliver .strict index datum)
      (slot.deliver .wrap index datum) := by
  have truth : Relaxes CodecError.IsOutOfRange (Slot.boolean.deliver .strict index datum)
      (Slot.boolean.deliver .wrap index datum) := by
    cases datum with
    | boolean truth => exact .ok _
    | integer number =>
        apply Relaxes.kept
        simp [CodecError.IsOutOfRange, CodecError.reportedKind]
  cases slot with
  | asDecoded => exact .ok datum
  | integer => exact .ok _
  | boolean => exact truth
  | scalar type =>
      cases type with
      | boolean => exact truth
      | integer type =>
          rw [Slot.deliver_integer, Slot.deliver_integer]
          apply ((ScalarType.narrow_relaxes (.integer type) datum.toInt).map _).mapError
          intro fault
          exact iff_of_eq (ErrorKind.library.injEq _ _)

theorem unpackField_relaxes (order : ByteOrder) (index : Nat) (type : ScalarType)
    (slot : Slot) (bytes : List UInt8) :
    Relaxes CodecError.IsOutOfRange (unpackField .strict order index type slot bytes)
      (unpackField .wrap order index type slot bytes) := by
  unfold unpackField
  cases type.decode (order.fromWire bytes) with
  | ok datum => exact slot.deliver_relaxes index datum
  | error fault =>
      apply Relaxes.kept
      cases fault <;> simp [CodecError.IsOutOfRange, CodecError.reportedKind, ScalarCodecFault.kind]

theorem Placement.read_relaxes (text : String) (slots : Slots) (buffer : List UInt8)
    (placement : Placement) :
    Relaxes CodecError.IsOutOfRange (placement.read .strict text slots buffer)
      (placement.read .wrap text slots buffer) := by
  cases placement with
  | marker order => exact .ok none
  | pad offset =>
      simp only [read]
      split
      · exact .ok none
      · exact .kept (by simp [CodecError.IsOutOfRange, CodecError.reportedKind])
  | field field =>
      simp only [read]
      split
      · exact .kept (by simp [CodecError.IsOutOfRange, CodecError.reportedKind])
      · split
        · exact (unpackField_relaxes _ _ _ _ _).map some
        · exact .kept (by simp [CodecError.IsOutOfRange, CodecError.reportedKind])

/-! ### Where packing and unpacking stop -/

section Stopping

variable {options : Options} {text : String} {format : Format}

/-- Markers and pads are always written, so writing stops at a field. -/
theorem Placement.mapM_write_eq_error_iff {policy : NarrowingPolicy} {values : List Value}
    {placements : List Placement} {error : CodecError} :
    placements.mapM (Placement.write policy text values) = .error error ↔
      (Placement.fields placements).mapM (FieldPlacement.write policy text values) =
        .error error := by
  induction placements with
  | nil => exact Iff.rfl
  | cons placement placements induction =>
      cases placement with
      | marker order =>
          have success : (Placement.marker order).write policy text values = .ok [] := rfl
          rw [Traversal.mapM_cons_eq_error_iff success, fields_marker]
          exact induction
      | pad offset =>
          have success : (Placement.pad offset).write policy text values = .ok [0] := rfl
          rw [Traversal.mapM_cons_eq_error_iff success, fields_pad]
          exact induction
      | field field =>
          rw [fields_field]
          cases first : (Placement.field field).write policy text values with
          | ok block =>
              have success : field.write policy text values = .ok block := first
              rw [Traversal.mapM_cons_eq_error_iff first,
                Traversal.mapM_cons_eq_error_iff success]
              exact induction
          | error own =>
              have failed : field.write policy text values = .error own := first
              rw [List.mapM_cons, List.mapM_cons, first, failed]
              exact Iff.rfl

theorem pack_stops {values : List Value} {error : CodecError}
    (reading : Format.parse options text = .ok format)
    (failed : pack options text values = .error error) :
    error = .excessValues text format.fieldCount values.length ∨
      ∃ index, Traversal.StopsAt (FieldPlacement.write options.narrowing text values)
        format.fields index error := by
  rw [pack_eq_write reading] at failed
  cases traversal : format.placements.mapM
      (Placement.write options.narrowing text values) with
  | error own =>
      rw [traversal] at failed
      cases failed
      right
      apply Traversal.mapM_eq_error_iff.mp
      exact Placement.mapM_write_eq_error_iff.mp traversal
  | ok blocks =>
      rw [traversal] at failed
      change Format.conclude text format.fieldCount values.length blocks = _ at failed
      rw [Format.conclude] at failed
      split at failed
      · cases failed
        exact .inl rfl
      · cases failed

theorem unpack_stops [Machine] {buffer : List UInt8} {shape : ShapeRequest} {slots : Slots}
    {error : CodecError} (reading : Format.parse options text = .ok format)
    (resolved : shape.resolve format = .ok slots)
    (failed : unpack options text buffer shape = .error error) :
    (∃ produced, error = .arityMismatch text produced slots.count) ∨
      ∃ position, Traversal.StopsAt (Placement.read options.narrowing text slots buffer)
        format.placements position error := by
  rw [unpack_eq_read reading resolved] at failed
  cases traversal : format.placements.mapM
      (Placement.read options.narrowing text slots buffer) with
  | error own =>
      rw [traversal] at failed
      cases failed
      right
      exact Traversal.mapM_eq_error_iff.mp traversal
  | ok results =>
      rw [traversal] at failed
      change (if results.reduceOption.length = slots.count then _ else _) = _ at failed
      split at failed
      · cases failed
      · cases failed
        exact .inl ⟨_, rfl⟩

/-- A field that stops packing has no value, or is named in the error. -/
theorem FieldPlacement.write_eq_error {policy : NarrowingPolicy} {values : List Value}
    {field : FieldPlacement} {error : CodecError}
    (failed : field.write policy text values = .error error) :
    error = .insufficientValues text values.length ∨
      ∃ value fault, values[field.index]? = some value ∧
        field.type.coerce policy value = .error fault ∧
        error = .field field.index field.type fault := by
  simp only [FieldPlacement.write, Placement.write] at failed
  split at failed
  · cases failed
    exact .inl rfl
  · next value present =>
      right
      rw [packField_eq] at failed
      cases coercion : field.type.coerce policy value with
      | ok datum =>
          rw [coercion] at failed
          cases failed
      | error fault =>
          rw [coercion] at failed
          cases failed
          exact ⟨value, fault, present, coercion, rfl⟩

/-- What is wrong with a value that can be shown is told. -/
theorem ScalarType.isWritable_of_coerce {policy : NarrowingPolicy} {type : ScalarType}
    {value : Value} {fault : ValueFault} (refused : type.coerce policy value = .error fault)
    (shown : value.isWritable = true) : fault.isWritable = true := by
  have narrowed {number : Int} (integral : value.integral? = some number)
      (failed : type.datumOfInt policy number = .error fault) : fault.isWritable = true := by
    cases type with
    | boolean => cases failed
    | integer type =>
        simp only [datumOfInt, narrow] at failed
        split at failed
        · cases failed
        · cases policy with
          | wrap => cases failed
          | strict =>
              cases failed
              exact (Value.isWritable_of_integral integral).trans shown
  cases value with
  | scalar scalar =>
      simp only [coerce] at refused
      split at refused
      · cases refused
      · cases refused
        rfl
  | boolean | integer | register => exact narrowed rfl refused
  | nothing | float | text | bytes | list =>
      cases refused
      exact shown

end Stopping

/-! ### Whole runs -/

/-- Packing under the strict policy and under the wrapping one.  What the strict policy
packs, or refuses for another reason than its range, is packed or refused alike; where it
stops for a number out of range, wrapping stops behind that field or not at all; and it packs
exactly what can be unpacked unaltered from what wrapping packs.  That a number is out of range
is told wherever the values can be shown. -/
structure PackingAgrees [Machine] (blanks : Bool) (text : String) (values : List Value) : Prop where
  packed : ∀ bytes, pack ⟨.strict, blanks⟩ text values = .ok bytes →
    pack ⟨.wrap, blanks⟩ text values = .ok bytes
  refused : ∀ error, pack ⟨.strict, blanks⟩ text values = .error error →
    ¬ error.IsOutOfRange → pack ⟨.wrap, blanks⟩ text values = .error error
  told : ∀ error, pack ⟨.strict, blanks⟩ text values = .error error →
    (∀ value ∈ values, value.isWritable = true) →
    (error.IsOutOfRange ↔ error.kind = .library .valueOutOfRange)
  outOfRange : ∀ error, pack ⟨.strict, blanks⟩ text values = .error error →
    error.IsOutOfRange →
    ∃ format index type fault, Format.parse ⟨.wrap, blanks⟩ text = .ok format ∧
      error = .field index type fault ∧
      error.kind = .raised error.isWritable (.library .valueOutOfRange) ∧
      Traversal.StopsAt (FieldPlacement.write .strict text values) format.fields index error ∧
      ∀ later, pack ⟨.wrap, blanks⟩ text values = .error later →
        later = .excessValues text format.fieldCount values.length ∨
          ∃ laterIndex, index < laterIndex ∧
            Traversal.StopsAt (FieldPlacement.write .wrap text values) format.fields
              laterIndex later
  unaltered : (∃ bytes, pack ⟨.strict, blanks⟩ text values = .ok bytes) ↔
    ∃ format bytes data, Format.parse ⟨.wrap, blanks⟩ text = .ok format ∧
      pack ⟨.wrap, blanks⟩ text values = .ok bytes ∧
      unpack ⟨.wrap, blanks⟩ text bytes (.value .nothing) = .ok data ∧
      ∀ (index : Nat) (field : FieldPlacement) (value : Value) (datum : Datum),
        format.fields[index]? = some field → values[index]? = some value →
        data[index]? = some datum → field.type ≠ .boolean →
        value.number? = some datum.toInt

/-- Unpacking under the strict policy and under the wrapping one.  That a number is out of range
is always told, since what is unpacked can be shown. -/
structure UnpackingAgrees [Machine] (blanks : Bool) (text : String) (buffer : List UInt8)
    (shape : ShapeRequest) : Prop where
  unpacked : ∀ data, unpack ⟨.strict, blanks⟩ text buffer shape = .ok data →
    unpack ⟨.wrap, blanks⟩ text buffer shape = .ok data
  refused : ∀ error, unpack ⟨.strict, blanks⟩ text buffer shape = .error error →
    ¬ error.IsOutOfRange → unpack ⟨.wrap, blanks⟩ text buffer shape = .error error
  told : ∀ error, unpack ⟨.strict, blanks⟩ text buffer shape = .error error →
    (error.IsOutOfRange ↔ error.kind = .library .valueOutOfRange)
  outOfRange : ∀ error, unpack ⟨.strict, blanks⟩ text buffer shape = .error error →
    error.IsOutOfRange →
    ∃ format slots position, Format.parse ⟨.wrap, blanks⟩ text = .ok format ∧
      shape.resolve format = .ok slots ∧
      Traversal.StopsAt (Placement.read .strict text slots buffer) format.placements
        position error ∧
      ∀ later, unpack ⟨.wrap, blanks⟩ text buffer shape = .error later →
        (∃ produced, later = .arityMismatch text produced slots.count) ∨
          ∃ laterPosition, position < laterPosition ∧
            Traversal.StopsAt (Placement.read .wrap text slots buffer) format.placements
              laterPosition later
  wraps : ∀ error, unpack ⟨.wrap, blanks⟩ text buffer shape = .error error →
    ¬ error.IsOutOfRange
  unaltered : (∃ data, unpack ⟨.strict, blanks⟩ text buffer shape = .ok data) ↔
    ∃ format slots data decoded, Format.parse ⟨.wrap, blanks⟩ text = .ok format ∧
      shape.resolve format = .ok slots ∧
      unpack ⟨.wrap, blanks⟩ text buffer shape = .ok data ∧
      unpack ⟨.wrap, blanks⟩ text buffer (.value .nothing) = .ok decoded ∧
      ∀ (index : Nat) (type : IntegerType) (delivered original : Datum),
        slots.get? index = some (.scalar (.integer type)) →
        data[index]? = some delivered → decoded[index]? = some original →
        delivered.toInt = original.toInt

section Agreement

variable (blanks : Bool) (text : String)

theorem pack_relaxed (values : List Value) :
    Relaxes.Runs CodecError.IsOutOfRange (pack ⟨.strict, blanks⟩ text values)
      (pack ⟨.wrap, blanks⟩ text values) := by
  cases reading : Format.parse ⟨.wrap, blanks⟩ text with
  | error error =>
      have strictReading : Format.parse ⟨.strict, blanks⟩ text = .error error := reading
      left
      rw [pack, pack, reading, strictReading]
      rfl
  | ok format =>
      have strictReading : Format.parse ⟨.strict, blanks⟩ text = .ok format := reading
      rw [pack_eq_write reading, pack_eq_write strictReading]
      apply Relaxes.Runs.bind
      exact Traversal.mapM_relaxed (Placement.write_relaxes text values) format.placements

theorem unpack_relaxed [Machine] (buffer : List UInt8) (shape : ShapeRequest) :
    Relaxes.Runs CodecError.IsOutOfRange (unpack ⟨.strict, blanks⟩ text buffer shape)
      (unpack ⟨.wrap, blanks⟩ text buffer shape) := by
  cases reading : Format.parse ⟨.wrap, blanks⟩ text with
  | error error =>
      have strictReading : Format.parse ⟨.strict, blanks⟩ text = .error error := reading
      left
      rw [unpack, unpack, reading, strictReading]
      rfl
  | ok format =>
      have strictReading : Format.parse ⟨.strict, blanks⟩ text = .ok format := reading
      cases resolved : shape.resolve format with
      | error error =>
          left
          rw [unpack_of_shape_error reading resolved,
            unpack_of_shape_error strictReading resolved]
      | ok slots =>
          rw [unpack_eq_read reading resolved, unpack_eq_read strictReading resolved]
          apply Relaxes.Runs.bind
          apply Relaxes.Runs.map
          exact Traversal.mapM_relaxed (Placement.read_relaxes text slots buffer)
            format.placements

theorem exists_parse_of_outOfRange {policy : NarrowingPolicy} {values : List Value}
    {error : CodecError} (failed : pack ⟨policy, blanks⟩ text values = .error error)
    (outOfRange : error.IsOutOfRange) :
    ∃ format, Format.parse ⟨policy, blanks⟩ text = .ok format := by
  rcases Format.parse_or_refused ⟨policy, blanks⟩ text with reading | refused
  · exact reading
  · obtain ⟨char, position, unread⟩ := Format.parse_of_refused refused
    rw [pack, unread] at failed
    cases failed
    cases outOfRange

/-- Only data can be out of range: the format was read and the shape declared slots. -/
theorem exists_slots_of_outOfRange [Machine] {policy : NarrowingPolicy} {buffer : List UInt8}
    {shape : ShapeRequest} {error : CodecError}
    (failed : unpack ⟨policy, blanks⟩ text buffer shape = .error error)
    (outOfRange : error.IsOutOfRange) :
    ∃ format slots, Format.parse ⟨policy, blanks⟩ text = .ok format ∧
      shape.resolve format = .ok slots := by
  rcases Format.parse_or_refused ⟨policy, blanks⟩ text with ⟨format, reading⟩ | refused
  · rcases shape.declares_or_refused format with ⟨slots, declared⟩ | ⟨kind, refused⟩
    · exact ⟨format, slots, reading, declared.resolve_eq⟩
    · obtain ⟨own, unresolved, _, other⟩ := refused.exists_error format
      rw [unpack_of_shape_error reading unresolved] at failed
      cases failed
      exact absurd outOfRange other
  · obtain ⟨char, position, unread⟩ := Format.parse_of_refused refused
    rw [unpack, unread] at failed
    cases failed
    cases outOfRange

/-- Packing reports a value that it can show. -/
theorem isWritable_of_pack {options : Options} {values : List Value} {error : CodecError}
    (failed : pack options text values = .error error)
    (shown : ∀ value ∈ values, value.isWritable = true) : error.isWritable = true := by
  rcases Format.parse_or_refused options text with ⟨format, reading⟩ | refused
  · rcases pack_stops reading failed with rfl | ⟨index, stops⟩
    · rfl
    · obtain ⟨field, _, refused⟩ := stops.failed
      rcases field.write_eq_error refused with rfl | ⟨value, fault, present, coercion, rfl⟩
      · rfl
      · exact ScalarType.isWritable_of_coerce coercion
          (shown value (List.mem_of_getElem? present))
  · obtain ⟨char, position, unread⟩ := Format.parse_of_refused refused
    rw [pack, unread] at failed
    cases failed
    rfl

/-- A number that is out of range was unpacked, so it can be shown. -/
theorem isWritable_of_unpack [Machine] {policy : NarrowingPolicy} {buffer : List UInt8}
    {shape : ShapeRequest} {error : CodecError}
    (failed : unpack ⟨policy, blanks⟩ text buffer shape = .error error)
    (outOfRange : error.IsOutOfRange) : error.isWritable = true := by
  obtain ⟨format, slots, reading, resolved⟩ :=
    exists_slots_of_outOfRange blanks text failed outOfRange
  have related : UnpackOutcome ⟨policy, blanks⟩ text buffer shape (.error error.kind) := by
    apply unpack_outcome_iff.mp
    rw [failed]
    rfl
  apply CodecError.isWritable_of_kind_ne
  generalize outcome_eq : Except.error error.kind = outcome at related
  cases related with
  | unread => simp [Except.error.inj outcome_eq]
  | undeclared reading' refused =>
      obtain ⟨own, unresolved, _⟩ := refused.exists_error format
      rw [resolved] at unresolved
      cases unresolved
  | failed => simp [Except.error.inj outcome_eq]
  | surplus => simp [Except.error.inj outcome_eq]
  | delivered => cases outcome_eq

theorem pack_outOfRange {values : List Value} {error : CodecError}
    (failed : pack ⟨.strict, blanks⟩ text values = .error error)
    (outOfRange : error.IsOutOfRange) :
    ∃ format index type fault, Format.parse ⟨.wrap, blanks⟩ text = .ok format ∧
      error = .field index type fault ∧
      error.kind = .raised error.isWritable (.library .valueOutOfRange) ∧
      Traversal.StopsAt (FieldPlacement.write .strict text values) format.fields index error ∧
      ∀ later, pack ⟨.wrap, blanks⟩ text values = .error later →
        later = .excessValues text format.fieldCount values.length ∨
          ∃ laterIndex, index < laterIndex ∧
            Traversal.StopsAt (FieldPlacement.write .wrap text values) format.fields
              laterIndex later := by
  obtain ⟨format, reading⟩ := exists_parse_of_outOfRange blanks text failed outOfRange
  rcases pack_stops reading failed with rfl | ⟨index, stops⟩
  · cases outOfRange
  obtain ⟨field, found, refused⟩ := stops.failed
  rcases field.write_eq_error refused with rfl | ⟨_, fault, _, _, named⟩
  · cases outOfRange
  rw [(Format.getElem?_fields_iff.mp found).2] at named
  refine ⟨format, index, field.type, fault, reading, named, outOfRange.kind_eq, stops, ?_⟩
  intro later failedLater
  have wrapReading : Format.parse ⟨.wrap, blanks⟩ text = .ok format := reading
  rcases pack_stops wrapReading failedLater with excess | ⟨laterIndex, stopsLater⟩
  · exact .inl excess
  · right
    exact ⟨laterIndex, stops.lt_of_waived (FieldPlacement.write_relaxes text values)
      outOfRange stopsLater, stopsLater⟩

theorem unpack_outOfRange [Machine] {buffer : List UInt8} {shape : ShapeRequest}
    {error : CodecError}
    (failed : unpack ⟨.strict, blanks⟩ text buffer shape = .error error)
    (outOfRange : error.IsOutOfRange) :
    ∃ format slots position, Format.parse ⟨.wrap, blanks⟩ text = .ok format ∧
      shape.resolve format = .ok slots ∧
      Traversal.StopsAt (Placement.read .strict text slots buffer) format.placements
        position error ∧
      ∀ later, unpack ⟨.wrap, blanks⟩ text buffer shape = .error later →
        (∃ produced, later = .arityMismatch text produced slots.count) ∨
          ∃ laterPosition, position < laterPosition ∧
            Traversal.StopsAt (Placement.read .wrap text slots buffer) format.placements
              laterPosition later := by
  obtain ⟨format, slots, reading, resolved⟩ :=
    exists_slots_of_outOfRange blanks text failed outOfRange
  rcases unpack_stops reading resolved failed with ⟨produced, rfl⟩ | ⟨position, stops⟩
  · cases outOfRange
  refine ⟨format, slots, position, reading, resolved, stops, ?_⟩
  intro later failedLater
  have wrapReading : Format.parse ⟨.wrap, blanks⟩ text = .ok format := reading
  rcases unpack_stops wrapReading resolved failedLater with surplus | ⟨laterPosition, stopsLater⟩
  · exact .inl surplus
  · right
    exact ⟨laterPosition, stops.lt_of_waived (Placement.read_relaxes text slots buffer)
      outOfRange stopsLater, stopsLater⟩

theorem unpack_wrap_not_outOfRange [Machine] {buffer : List UInt8} {shape : ShapeRequest}
    {error : CodecError} (failed : unpack ⟨.wrap, blanks⟩ text buffer shape = .error error) :
    ¬ error.IsOutOfRange := by
  intro outOfRange
  obtain ⟨format, slots, reading, resolved⟩ :=
    exists_slots_of_outOfRange blanks text failed outOfRange
  rcases unpack_stops reading resolved failed with ⟨produced, rfl⟩ | ⟨position, stops⟩
  · cases outOfRange
  · exact stops.not_waived (Placement.read_relaxes text slots buffer) outOfRange

/-! ### Nothing is altered -/

theorem FieldPlacement.takes_strict_iff {values : List Value} {field : FieldPlacement}
    {datum : Datum} :
    field.Takes .strict values datum ↔
      field.Takes .wrap values datum ∧
        (field.type ≠ .boolean → ∀ value, values[field.index]? = some value →
          value.number? = some datum.toInt) := by
  constructor
  · rintro ⟨value, present, coerced⟩
    obtain ⟨wrapped, unaltered⟩ := ScalarType.coerce_strict_iff.mp coerced
    refine ⟨⟨value, present, wrapped⟩, ?_⟩
    intro isInteger other presentOther
    rw [present] at presentOther
    cases presentOther
    exact unaltered isInteger
  · rintro ⟨⟨value, present, wrapped⟩, unaltered⟩
    refine ⟨value, present, ScalarType.coerce_strict_iff.mpr ⟨wrapped, ?_⟩⟩
    intro isInteger
    exact unaltered isInteger value present

theorem Format.takes_strict_iff {format : Format} {values : List Value}
    {data : List Datum} :
    List.Forall₂ (fun field datum => field.Takes .strict values datum) format.fields data ↔
      List.Forall₂ (fun field datum => field.Takes .wrap values datum) format.fields data ∧
        ∀ (index : Nat) (field : FieldPlacement) (value : Value) (datum : Datum),
          format.fields[index]? = some field → values[index]? = some value →
          data[index]? = some datum → field.type ≠ .boolean →
          value.number? = some datum.toInt := by
  rw [Traversal.forall₂_and_iff (fun _ _ => FieldPlacement.takes_strict_iff)]
  apply and_congr_right
  intro _
  constructor
  · intro unaltered index field value datum foundField foundValue foundDatum isInteger
    apply unaltered index field datum foundField foundDatum isInteger
    rw [(Format.getElem?_fields_iff.mp foundField).2]
    exact foundValue
  · intro unaltered index field datum foundField foundDatum isInteger value present
    rw [(Format.getElem?_fields_iff.mp foundField).2] at present
    exact unaltered index field value datum foundField present foundDatum isInteger

theorem pack_strict_iff [Machine] {values : List Value} :
    (∃ bytes, pack ⟨.strict, blanks⟩ text values = .ok bytes) ↔
      ∃ format bytes data, Format.parse ⟨.wrap, blanks⟩ text = .ok format ∧
        pack ⟨.wrap, blanks⟩ text values = .ok bytes ∧
        unpack ⟨.wrap, blanks⟩ text bytes (.value .nothing) = .ok data ∧
        ∀ (index : Nat) (field : FieldPlacement) (value : Value) (datum : Datum),
          format.fields[index]? = some field → values[index]? = some value →
          data[index]? = some datum → field.type ≠ .boolean →
          value.number? = some datum.toInt := by
  constructor
  · rintro ⟨bytes, packed⟩
    have sameBytes := (pack_relaxed blanks text values).ok packed
    obtain ⟨format, blocks, reading, _, written, rfl⟩ := pack_eq_ok_iff.mp packed
    -- The strict data are the wrapped ones, since no slot narrows them.
    obtain ⟨data, unpacked, taken⟩ := unpack_of_writes reading written
    have sameData := (unpack_relaxed blanks text blocks.flatten (.value .nothing)).ok unpacked
    exact ⟨format, blocks.flatten, data, reading, sameBytes, sameData,
      (Format.takes_strict_iff.mp taken).2⟩
  · rintro ⟨format, bytes, data, reading, packed, unpacked, unaltered⟩
    obtain ⟨format', blocks, reading', count, written, rfl⟩ := pack_eq_ok_iff.mp packed
    rw [reading] at reading'
    cases reading'
    obtain ⟨data', unpacked', taken⟩ := unpack_of_writes reading written
    rw [unpacked] at unpacked'
    cases unpacked'
    have strictlyTaken := Format.takes_strict_iff.mpr ⟨taken, unaltered⟩
    obtain ⟨strictBlocks, strictlyWritten⟩ := exists_writes strictlyTaken
    exact ⟨_, pack_eq_ok_iff.mpr
      ⟨format, strictBlocks, reading, count, strictlyWritten, rfl⟩⟩

theorem FieldPlacement.delivers_strict_iff {slots : Slots} {buffer : List UInt8}
    {field : FieldPlacement} {datum : Datum} :
    field.Delivers .strict slots buffer datum ↔
      field.Delivers .wrap slots buffer datum ∧
        ∀ type, slots.get? field.index = some (.scalar (.integer type)) →
          datum.toInt = (field.meaning buffer).toInt := by
  constructor
  · rintro ⟨slot, declared, complete, gives⟩
    obtain ⟨wrapped, unaltered⟩ := Slot.gives_strict_iff.mp gives
    refine ⟨⟨slot, declared, complete, wrapped⟩, ?_⟩
    intro type declaredType
    rw [declared] at declaredType
    exact unaltered type (Option.some.inj declaredType)
  · rintro ⟨⟨slot, declared, complete, wrapped⟩, unaltered⟩
    refine ⟨slot, declared, complete, Slot.gives_strict_iff.mpr ⟨wrapped, ?_⟩⟩
    rintro type rfl
    exact unaltered type declared

theorem Format.delivers_strict_iff {format : Format} {slots : Slots} {buffer : List UInt8}
    {data : List Datum} :
    List.Forall₂ (fun field datum => field.Delivers .strict slots buffer datum)
        format.fields data ↔
      List.Forall₂ (fun field datum => field.Delivers .wrap slots buffer datum)
          format.fields data ∧
        ∀ (index : Nat) (type : IntegerType) (delivered original : Datum),
          slots.get? index = some (.scalar (.integer type)) →
          data[index]? = some delivered →
          (format.fields.map (fun field => field.meaning buffer))[index]? = some original →
          delivered.toInt = original.toInt := by
  rw [Traversal.forall₂_and_iff (fun _ _ => FieldPlacement.delivers_strict_iff)]
  apply and_congr_right
  intro _
  constructor
  · intro unaltered index type delivered original declared foundDatum foundOriginal
    rw [List.getElem?_map] at foundOriginal
    obtain ⟨field, foundField, rfl⟩ := Option.map_eq_some_iff.mp foundOriginal
    apply unaltered index field delivered foundField foundDatum type
    rw [(Format.getElem?_fields_iff.mp foundField).2]
    exact declared
  · intro unaltered index field delivered foundField foundDatum type declared
    rw [(Format.getElem?_fields_iff.mp foundField).2] at declared
    apply unaltered index type delivered (field.meaning buffer) declared foundDatum
    rw [List.getElem?_map, foundField]
    rfl

theorem unpack_strict_iff [Machine] {buffer : List UInt8} {shape : ShapeRequest} :
    (∃ data, unpack ⟨.strict, blanks⟩ text buffer shape = .ok data) ↔
      ∃ format slots data decoded, Format.parse ⟨.wrap, blanks⟩ text = .ok format ∧
        shape.resolve format = .ok slots ∧
        unpack ⟨.wrap, blanks⟩ text buffer shape = .ok data ∧
        unpack ⟨.wrap, blanks⟩ text buffer (.value .nothing) = .ok decoded ∧
        ∀ (index : Nat) (type : IntegerType) (delivered original : Datum),
          slots.get? index = some (.scalar (.integer type)) →
          data[index]? = some delivered → decoded[index]? = some original →
          delivered.toInt = original.toInt := by
  constructor
  · rintro ⟨data, unpacked⟩
    obtain ⟨format, slots, reading, declared⟩ := declared_of_unpack unpacked
    have wrapReading : Format.parse ⟨.wrap, blanks⟩ text = .ok format := reading
    obtain ⟨long, _, delivered⟩ := (unpack_eq_ok_iff reading declared).mp unpacked
    exact ⟨format, slots, data, _, reading, declared.resolve_eq,
      (unpack_relaxed blanks text buffer shape).ok unpacked, unpack_meanings wrapReading long,
      (Format.delivers_strict_iff.mp delivered).2⟩
  · rintro ⟨format, slots, data, decoded, reading, resolved, unpacked, original, unaltered⟩
    have strictReading : Format.parse ⟨.strict, blanks⟩ text = .ok format := reading
    have declared := ShapeRequest.declares_of_resolve resolved
    obtain ⟨long, count, delivered⟩ := (unpack_eq_ok_iff reading declared).mp unpacked
    rw [unpack_meanings reading long] at original
    cases original
    have strictlyDelivered := Format.delivers_strict_iff.mpr ⟨delivered, unaltered⟩
    exact ⟨data, (unpack_eq_ok_iff strictReading declared).mpr
      ⟨long, count, strictlyDelivered⟩⟩

end Agreement

/-- The two policies differ for numbers out of range only, in packing and in unpacking. -/
theorem policies_agree [Machine] (blanks : Bool) (text : String) :
    (∀ values, PackingAgrees blanks text values) ∧
      ∀ buffer shape, UnpackingAgrees blanks text buffer shape := by
  constructor
  · intro values
    have relaxed := pack_relaxed blanks text values
    refine ⟨fun _ => relaxed.ok, fun _ => relaxed.kept, ?_, fun _ => pack_outOfRange blanks text,
      pack_strict_iff blanks text⟩
    intro error failed shown
    have writable := isWritable_of_pack text failed shown
    simp [CodecError.kind_eq_valueOutOfRange_iff, writable]
  · intro buffer shape
    have relaxed := unpack_relaxed blanks text buffer shape
    refine ⟨fun _ => relaxed.ok, fun _ => relaxed.kept, ?_, fun _ => unpack_outOfRange blanks text,
      fun _ => unpack_wrap_not_outOfRange blanks text, unpack_strict_iff blanks text⟩
    intro error failed
    rw [CodecError.kind_eq_valueOutOfRange_iff, iff_self_and]
    exact isWritable_of_unpack blanks text failed

/-- The strict policy stops at the first field, the wrapping one at the second. -/
example :
    pack ⟨.strict, true⟩ "BB" [.integer 300, .nothing] =
        .error (.field 0 (.integer ⟨.unsigned, .one⟩)
          (.outOfRange 300 (.integer ⟨.unsigned, .one⟩))) ∧
      pack ⟨.wrap, true⟩ "BB" [.integer 300, .nothing] =
        .error (.field 1 (.integer ⟨.unsigned, .one⟩)
          (.notIntegral .nothing (.integer ⟨.unsigned, .one⟩))) :=
  ⟨rfl, rfl⟩

/-- Where the strict policy refuses an integer of too many digits, this is not told, though
wrapping packs the integer. -/
theorem pack_unwritable :
    (pack ⟨.strict, true⟩ "B" [.integer Decimal.tooLong]).mapError
        CodecError.kind = .error .invalidArgument ∧
      pack ⟨.wrap, true⟩ "B" [.integer Decimal.tooLong] = .ok [0] := by
  have unwritable := Decimal.not_isWritable_tooLong
  have divisible : (Decimal.tooLong : Int) % 256 = 0 := by
    have power (digits : Nat) (more : 8 ≤ digits) : 2 ^ 8 ∣ Nat.pow 10 digits :=
      (pow_dvd_pow 2 more).trans (pow_dvd_pow_of_dvd (by decide) digits)
    have divides := power Decimal.digitLimit (by decide)
    rw [← Decimal.tooLong_eq] at divides
    omega
  generalize (Decimal.tooLong : Int) = number at unwritable divisible ⊢
  constructor
  · have refused : (ScalarType.integer ⟨.unsigned, .one⟩).coerce .strict (.integer number) =
        .error (.outOfRange number (.integer ⟨.unsigned, .one⟩)) := by
      simp [ScalarType.coerce, Value.integral?, ScalarType.datumOfInt, ScalarType.narrow,
        ScalarType.not_inRange_of_unwritable unwritable, Except.map]
    have failed : pack ⟨.strict, true⟩ "B" [.integer number] =
        .error (.field 0 (.integer ⟨.unsigned, .one⟩)
          (.outOfRange number (.integer ⟨.unsigned, .one⟩))) := by
      change (packField .strict .little 0 _ (.integer number) >>= _) = _
      rw [packField, refused]
      rfl
    rw [failed]
    exact congrArg Except.error (CodecError.kind_of_not_isWritable unwritable)
  · have narrowed : (ScalarType.integer ⟨.unsigned, .one⟩).narrow .wrap number = .ok 0 :=
      ScalarType.narrow_wrap_iff.mpr ⟨by decide, divisible.symm⟩
    have taken : (ScalarType.integer ⟨.unsigned, .one⟩).coerce .wrap (.integer number) =
        .ok (.integer 0) := by
      simp [ScalarType.coerce, Value.integral?, ScalarType.datumOfInt, narrowed, Except.map]
    change (packField .wrap .little 0 _ (.integer number) >>= _) = _
    rw [packField, taken]
    rfl

end StructCodec

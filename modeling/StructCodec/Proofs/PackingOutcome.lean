import StructCodec.Proofs.Packing
import StructCodec.Proofs.Reading

/-!
# The outcome of packing

A field refuses its value for one of four reasons, and the first field that does so
decides how packing fails.  The reason is told only if the value can be written in a message.
If no field refuses its value, packing fails only for values that are left over.
`PackOutcome` states this as a relation, and packing is shown to have exactly the outcomes
that it relates.
-/

namespace StructCodec

/-- Why a value stands for no datum of a type. -/
inductive ScalarType.Rejects (policy : NarrowingPolicy) (type : ScalarType) :
    Value → ErrorKind → Prop where
  | mismatched {scalar : Scalar} (differs : scalar.type ≠ type) :
      Rejects policy type (.scalar scalar) (.library .unsupportedValueType)
  | notIntegral {value : Value} (unsupported : value.number? = none) :
      Rejects policy type value (.raised value.isWritable (.library .unsupportedValueType))
  | outOfRange {value : Value} {integerType : IntegerType} {number : Int}
      (strict : policy = .strict) (typed : type = .integer integerType)
      (integral : value.integral? = some number) (beyond : ¬ type.InRange number) :
      Rejects policy type value (.raised value.isWritable (.library .valueOutOfRange))

namespace ScalarType

theorem coerce_of_rejects {policy : NarrowingPolicy} {type : ScalarType} {value : Value}
    {kind : ErrorKind} (rejected : type.Rejects policy value kind) :
    ∃ fault, type.coerce policy value = .error fault ∧ fault.kind = kind := by
  cases rejected with
  | mismatched differs =>
      exact ⟨_, if_neg differs, rfl⟩
  | notIntegral unsupported =>
      cases value with
      | scalar | boolean | integer | register => cases unsupported
      | nothing | float | text | bytes | list => exact ⟨_, rfl, rfl⟩
  | @outOfRange _ integerType number strict typed integral beyond =>
      subst typed strict
      have refused : (ScalarType.integer integerType).narrow .strict number =
          .error (.outOfRange number (.integer integerType)) := if_neg beyond
      refine ⟨.outOfRange number (.integer integerType), ?_, ?_⟩
      rotate_left
      · rw [← Value.isWritable_of_integral integral]
        rfl
      cases value with
      | boolean | integer | register =>
          cases integral
          simp [coerce, Value.integral?, datumOfInt, refused, Except.map]
      | nothing | float | text | bytes | list | scalar => cases integral

theorem exists_datumOfInt {policy : NarrowingPolicy} {type : ScalarType} {number : Int}
    (fitting : ∀ integerType, policy = .strict → type = .integer integerType →
      type.InRange number) :
    ∃ datum, type.datumOfInt policy number = .ok datum := by
  cases type with
  | boolean => exact ⟨_, rfl⟩
  | integer integerType =>
      have narrows : ∃ narrowed,
          (ScalarType.integer integerType).narrow policy number = .ok narrowed := by
        cases policy with
        | strict => exact ⟨number, narrow_of_inRange .strict (fitting integerType rfl rfl)⟩
        | wrap => exact exists_narrow_wrap integerType number
      obtain ⟨narrowed, narrowing⟩ := narrows
      refine ⟨.integer narrowed, ?_⟩
      rw [datumOfInt, narrowing]
      rfl

theorem exists_coerce {policy : NarrowingPolicy} {type : ScalarType} {value : Value}
    (accepted : ∀ kind, ¬ type.Rejects policy value kind) :
    ∃ datum, type.coerce policy value = .ok datum := by
  have fitting (number : Int) (integral : value.integral? = some number) :
      ∃ datum, type.datumOfInt policy number = .ok datum := by
    apply exists_datumOfInt
    intro integerType strict typed
    by_contra beyond
    exact accepted _ (.outOfRange strict typed integral beyond)
  cases value with
  | scalar scalar =>
      by_cases same : scalar.type = type
      · exact ⟨scalar.datum, if_pos same⟩
      · exact absurd (.mismatched same) (accepted _)
  | boolean | integer | register => exact fitting _ rfl
  | nothing | float | text | bytes | list => exact absurd (.notIntegral rfl) (accepted _)

end ScalarType

/-- Why a field takes no value. -/
inductive FieldPlacement.Refuses (policy : NarrowingPolicy) (values : List Value)
    (field : FieldPlacement) : ErrorKind → Prop where
  | missing (absent : values.length ≤ field.index) :
      Refuses policy values field (.library .insufficientValues)
  | rejected {value : Value} {kind : ErrorKind}
      (present : values[field.index]? = some value)
      (rejected : field.type.Rejects policy value kind) :
      Refuses policy values field kind

/-- The error of a field that refuses its value names the field, unless it has none. -/
theorem Placement.write_of_refuses {policy : NarrowingPolicy} {values : List Value}
    {field : FieldPlacement} {kind : ErrorKind} (text : String)
    (refused : field.Refuses policy values kind) :
    ∃ error, (Placement.field field).write policy text values = .error error ∧
      error.kind = kind ∧
      (kind ≠ .library .insufficientValues →
        ∃ fault, error = .field field.index field.type fault) := by
  cases refused with
  | missing absent =>
      refine ⟨.insufficientValues text values.length, ?_, rfl, fun named => absurd rfl named⟩
      simp [write, List.getElem?_eq_none absent]
  | @rejected value kind present rejected =>
      obtain ⟨fault, coercion, same⟩ := ScalarType.coerce_of_rejects rejected
      refine ⟨.field field.index field.type fault, ?_, same, fun _ => ⟨fault, rfl⟩⟩
      simp only [write, present, packField_eq, coercion]
      rfl

theorem Placement.exists_write {policy : NarrowingPolicy} {values : List Value}
    {placement : Placement} (text : String)
    (taken : ∀ field, placement = .field field → ∀ kind, ¬ field.Refuses policy values kind) :
    ∃ block, placement.write policy text values = .ok block := by
  cases placement with
  | marker order => exact ⟨[], rfl⟩
  | pad offset => exact ⟨[0], rfl⟩
  | field field =>
      have accepts := taken field rfl
      cases present : values[field.index]? with
      | none =>
          have absent := List.getElem?_eq_none_iff.mp present
          exact absurd (.missing absent) (accepts _)
      | some value =>
          obtain ⟨datum, coerced⟩ := ScalarType.exists_coerce
            (fun kind rejected => accepts kind (.rejected present rejected))
          refine ⟨field.order.toWire (field.type.image datum.toInt), ?_⟩
          simp only [write, present, packField_eq, coerced]
          rfl

theorem Text.quoteWith_tag (type : ScalarType) :
    quoteWith isPrintable [type.tag] = ['\'', type.tag, '\''] := by
  obtain ⟨⟨⟩ | ⟨⟩, ⟨⟩ | ⟨⟩ | ⟨⟩ | ⟨⟩⟩ | ⟨⟩ := type <;> rfl

theorem CodecError.text_field (index : Nat) (type : ScalarType) (fault : ValueFault) :
    (CodecError.field index type fault).text =
      "Field " ++ toString index ++ " (" ++ Text.quoted type.tag.toString ++ "): " ++
        fault.text := by
  change s!"Field {index} ('{type.tag}'): {fault.text}" = _
  apply String.toList_inj.mp
  simp [toString, Text.quoted, Text.quoteWith_tag]

/-- What packing comes to, up to the kind of its error. -/
inductive PackOutcome (options : Options) (text : String) (values : List Value) :
    Except ErrorKind (List UInt8) → Prop where
  | unread (refused : ∃ char ∈ text.toList, ¬ options.Accepts char) :
      PackOutcome options text values (.error (.library .unknownFormatChar))
  | refused {format : Format} {before after : List FieldPlacement} {field : FieldPlacement}
      {kind : ErrorKind}
      (reading : Format.parse options text = .ok format)
      (split : format.fields = before ++ field :: after)
      (taken : ∀ earlier ∈ before, ∀ kind, ¬ earlier.Refuses options.narrowing values kind)
      (refused : field.Refuses options.narrowing values kind) :
      PackOutcome options text values (.error kind)
  | excess {format : Format}
      (reading : Format.parse options text = .ok format)
      (taken : ∀ field ∈ format.fields, ∀ kind, ¬ field.Refuses options.narrowing values kind)
      (more : format.fieldCount < values.length) :
      PackOutcome options text values (.error (.library .excessValues))
  | packed {format : Format} {blocks : List (List UInt8)}
      (reading : Format.parse options text = .ok format)
      (taken : ∀ field ∈ format.fields, ∀ kind, ¬ field.Refuses options.narrowing values kind)
      (enough : values.length ≤ format.fieldCount)
      (written : List.Forall₂ (Placement.Writes options.narrowing values) format.placements
        blocks) :
      PackOutcome options text values (.ok blocks.flatten)

/-- The first field that refuses its value decides the error. -/
theorem pack_of_refuses {options : Options} {text : String} {values : List Value}
    {format : Format} {before after : List FieldPlacement} {field : FieldPlacement}
    {error : CodecError}
    (reading : Format.parse options text = .ok format)
    (split : format.fields = before ++ field :: after)
    (taken : ∀ earlier ∈ before, ∀ kind, ¬ earlier.Refuses options.narrowing values kind)
    (failed : (Placement.field field).write options.narrowing text values = .error error) :
    pack options text values = .error error := by
  obtain ⟨earlier, later, placed, fields_eq⟩ := Format.exists_split_of_fields_split split
  -- Markers and pads in front of the field never fail, so the fields alone decide.
  have passed : ∀ placement ∈ earlier, ∃ block,
      placement.write options.narrowing text values = .ok block := by
    intro placement member
    apply Placement.exists_write
    rintro field rfl
    apply taken field
    rw [← fields_eq]
    exact List.mem_filterMap.mpr ⟨_, member, rfl⟩
  rw [pack_eq_write reading, placed, Traversal.mapM_eq_error passed failed later]
  rfl

theorem exists_writes_of_taken {policy : NarrowingPolicy} {format : Format}
    {values : List Value}
    (taken : ∀ field ∈ format.fields, ∀ kind, ¬ field.Refuses policy values kind) :
    ∃ blocks, List.Forall₂ (Placement.Writes policy values) format.placements blocks := by
  apply Traversal.exists_forall₂
  intro placement placed
  obtain ⟨block, written⟩ : ∃ block, placement.write policy "" values = .ok block := by
    apply Placement.exists_write
    rintro field rfl
    exact taken field (Format.mem_fields_of_placed placed)
  exact ⟨block, Placement.write_eq_ok_iff.mp written⟩

theorem pack_of_taken {options : Options} {text : String} {values : List Value}
    {format : Format} {blocks : List (List UInt8)}
    (reading : Format.parse options text = .ok format)
    (written : List.Forall₂ (Placement.Writes options.narrowing values) format.placements
      blocks) :
    pack options text values = Format.conclude text format.fieldCount values.length blocks := by
  have traversed : format.placements.mapM (Placement.write options.narrowing text values) =
      .ok blocks := by
    apply Traversal.mapM_eq_ok_iff.mpr
    exact written.imp (fun _ _ => Placement.write_eq_ok_iff.mpr)
  rw [pack_eq_write reading, traversed]
  rfl

theorem PackOutcome.eq {options : Options} {text : String} {values : List Value}
    {outcome : Except ErrorKind (List UInt8)}
    (related : PackOutcome options text values outcome) :
    (pack options text values).mapError CodecError.kind = outcome := by
  cases related with
  | unread refused =>
      obtain ⟨char, position, failed⟩ := Format.parse_of_refused refused
      rw [pack, failed]
      rfl
  | refused reading split taken refused =>
      obtain ⟨error, failed, same, _⟩ := Placement.write_of_refuses text refused
      rw [pack_of_refuses reading split taken failed, ← same]
      rfl
  | excess reading taken more =>
      obtain ⟨blocks, written⟩ := exists_writes_of_taken taken
      rw [pack_of_taken reading written, Format.conclude, if_pos more]
      rfl
  | packed reading taken enough written =>
      rw [pack_of_taken reading written, Format.conclude, if_neg (Nat.not_lt.mpr enough)]
      rfl

theorem exists_packOutcome (options : Options) (text : String) (values : List Value) :
    ∃ outcome, PackOutcome options text values outcome := by
  rcases Format.parse_or_refused options text with ⟨format, reading⟩ | refused
  · rcases Traversal.first_failure_or_none
        (FieldPlacement.Refuses options.narrowing values) format.fields with
      ⟨before, field, after, kind, split, taken, refused⟩ | taken
    · exact ⟨_, .refused reading split taken refused⟩
    · by_cases more : format.fieldCount < values.length
      · exact ⟨_, .excess reading taken more⟩
      · obtain ⟨blocks, written⟩ := exists_writes_of_taken taken
        exact ⟨_, .packed reading taken (Nat.not_lt.mp more) written⟩
  · exact ⟨_, .unread refused⟩

theorem pack_outcome_iff {options : Options} {text : String} {values : List Value}
    {outcome : Except ErrorKind (List UInt8)} :
    (pack options text values).mapError CodecError.kind = outcome ↔
      PackOutcome options text values outcome := by
  constructor
  · rintro rfl
    obtain ⟨outcome, related⟩ := exists_packOutcome options text values
    rw [related.eq]
    exact related
  · exact PackOutcome.eq

/-- Packing fails for a character, for values that are left over, or at the first field that
refuses its value. -/
theorem pack_error_cases {options : Options} {text : String} {values : List Value}
    {error : CodecError} (failed : pack options text values = .error error) :
    error.kind = .library .unknownFormatChar ∨ error.kind = .library .excessValues ∨
      ∃ format before field after,
        Format.parse options text = .ok format ∧
        format.fields = before ++ field :: after ∧
        (∀ earlier ∈ before, ∀ kind, ¬ earlier.Refuses options.narrowing values kind) ∧
        field.Refuses options.narrowing values error.kind ∧
        (error.kind ≠ .library .insufficientValues →
          ∃ fault, error = .field field.index field.type fault) := by
  have related : PackOutcome options text values (.error error.kind) := by
    apply pack_outcome_iff.mp
    rw [failed]
    rfl
  generalize outcome_eq : Except.error error.kind = outcome at related
  cases related with
  | unread refused => exact .inl (Except.error.inj outcome_eq)
  | excess reading taken more => exact .inr (.inl (Except.error.inj outcome_eq))
  | packed reading taken enough written => cases outcome_eq
  | @refused format before after field kind reading split taken refused =>
      right; right
      obtain rfl := Except.error.inj outcome_eq
      obtain ⟨reported, written, _, named⟩ := Placement.write_of_refuses text refused
      rw [pack_of_refuses reading split taken written] at failed
      cases failed
      exact ⟨format, before, field, after, reading, split, taken, refused, named⟩

/-- A value is rejected as unsupported or as out of range, or else cannot be written. -/
theorem ScalarType.Rejects.cases {policy : NarrowingPolicy} {type : ScalarType} {value : Value}
    {kind : ErrorKind} (rejected : type.Rejects policy value kind) :
    kind = .library .unsupportedValueType ∨ kind = .library .valueOutOfRange ∨
      kind = .invalidArgument ∧ value.isWritable = false := by
  cases rejected with
  | mismatched differs => exact .inl rfl
  | notIntegral unsupported => cases value.isWritable <;> simp
  | outOfRange strict typed integral beyond => cases value.isWritable <;> simp

theorem ScalarType.Rejects.of_outOfRange {policy : NarrowingPolicy} {type : ScalarType}
    {value : Value} (rejected : type.Rejects policy value (.library .valueOutOfRange)) :
    policy = .strict ∧ type ≠ .boolean := by
  generalize kind_eq : ErrorKind.library .valueOutOfRange = kind at rejected
  cases rejected with
  | mismatched differs => cases kind_eq
  | notIntegral unsupported => cases writable : value.isWritable <;> simp [writable] at kind_eq
  | outOfRange strict typed integral beyond =>
      refine ⟨strict, ?_⟩
      rw [typed]
      exact ScalarType.noConfusion

theorem FieldPlacement.Refuses.of_outOfRange {policy : NarrowingPolicy} {values : List Value}
    {field : FieldPlacement}
    (refused : field.Refuses policy values (.library .valueOutOfRange)) :
    policy = .strict ∧ field.type ≠ .boolean := by
  cases refused with
  | rejected present rejected => exact rejected.of_outOfRange

theorem FieldPlacement.Refuses.cases {policy : NarrowingPolicy} {values : List Value}
    {field : FieldPlacement} {kind : ErrorKind} (refused : field.Refuses policy values kind) :
    kind = .library .insufficientValues ∨ kind = .library .unsupportedValueType ∨
      kind = .library .valueOutOfRange ∨
      kind = .invalidArgument ∧
        ∃ value, values[field.index]? = some value ∧ value.isWritable = false := by
  cases refused with
  | missing absent => exact .inl rfl
  | @rejected value _ present rejected =>
      right
      rcases rejected.cases with unsupported | outOfRange | ⟨failed, unwritable⟩
      · exact .inl unsupported
      · exact .inr (.inl outOfRange)
      · exact .inr (.inr ⟨failed, value, present, unwritable⟩)

theorem FieldPlacement.Refuses.of_invalidArgument {policy : NarrowingPolicy}
    {values : List Value} {field : FieldPlacement}
    (refused : field.Refuses policy values .invalidArgument) :
    ∃ value, values[field.index]? = some value ∧ value.isWritable = false := by
  rcases refused.cases with kind | kind | kind | ⟨_, unwritable⟩
  · cases kind
  · cases kind
  · cases kind
  · exact unwritable

/-- Packing has exactly the outcomes that are related to it.  It fails in no other way than
for a character, for a value that is missing, unsupported, out of range or left over, unless it
fails to write a value into the message.  A value is out of range under the strict policy and
for an integer field only, and a value that is at fault is reported with its field. -/
theorem pack_outcome (options : Options) (text : String) (values : List Value) :
    (∀ outcome, (pack options text values).mapError CodecError.kind = outcome ↔
      PackOutcome options text values outcome) ∧
    ∀ error, pack options text values = .error error →
      ((∃ errorClass, error.kind = .library errorClass ∧
          errorClass ∈ [ErrorClass.unknownFormatChar, .insufficientValues,
            .unsupportedValueType, .valueOutOfRange, .excessValues]) ∨
        error.kind = .invalidArgument) ∧
      (error.kind = .library .valueOutOfRange → options.narrowing = .strict) ∧
      (error.kind = .library .unsupportedValueType ∨ error.kind = .library .valueOutOfRange ∨
          error.kind = .invalidArgument →
        ∃ format before field after,
          Format.parse options text = .ok format ∧
          format.fields = before ++ field :: after ∧
          (∀ earlier ∈ before, ∀ kind, ¬ earlier.Refuses options.narrowing values kind) ∧
          field.Refuses options.narrowing values error.kind ∧
          (error.kind = .library .valueOutOfRange → field.type ≠ .boolean) ∧
          (error.kind ≠ .invalidArgument →
            ∃ rest, error.message = "Field " ++ toString before.length ++ " (" ++
              Text.quoted field.type.tag.toString ++ "): " ++ rest) ∧
          (error.kind = .invalidArgument → error.message = Decimal.limitMessage ∧
            ∃ value, values[before.length]? = some value ∧ value.isWritable = false)) := by
  refine ⟨fun outcome => pack_outcome_iff, ?_⟩
  intro error failed
  rcases pack_error_cases failed with kind | kind | ⟨format, before, field, after,
    reading, split, taken, refused, named⟩
  · exact ⟨.inl ⟨_, kind, by simp⟩, by simp [kind], by simp [kind]⟩
  · exact ⟨.inl ⟨_, kind, by simp⟩, by simp [kind], by simp [kind]⟩
  · refine ⟨?_, ?_, ?_⟩
    · rcases refused.cases with kind | kind | kind | ⟨kind, _⟩ <;> simp [kind]
    · intro outOfRange
      rw [outOfRange] at refused
      exact refused.of_outOfRange.1
    · intro atFault
      have present : error.kind ≠ .library .insufficientValues := by
        intro missing
        simp [missing] at atFault
      obtain ⟨fault, rfl⟩ := named present
      refine ⟨format, before, field, after, reading, split, taken, refused, ?_, ?_, ?_⟩
      · intro outOfRange
        rw [outOfRange] at refused
        exact refused.of_outOfRange.2
      · intro reported
        refine ⟨fault.text, ?_⟩
        rw [CodecError.message_of_isWritable (CodecError.isWritable_of_kind_ne reported),
          CodecError.text_field, Format.index_of_fields_split split]
      · intro unreported
        have unwritable := CodecError.not_isWritable_of_kind unreported
          (by simp [CodecError.reportedKind])
        refine ⟨CodecError.message_of_not_isWritable unwritable, ?_⟩
        rw [unreported] at refused
        rw [← Format.index_of_fields_split split]
        exact refused.of_invalidArgument

theorem pack_outcome_strict :
    pack ⟨.strict, true⟩ "B? >h" [.integer 5, .integer 300, .integer 40000, .nothing] =
        .error (.field 2 (.integer ⟨.signed, .two⟩)
          (.outOfRange 40000 (.integer ⟨.signed, .two⟩))) ∧
      PackOutcome ⟨.strict, true⟩ "B? >h"
        [.integer 5, .integer 300, .integer 40000, .nothing]
        (.error (.library .valueOutOfRange)) ∧
      ∃ format before field after, Format.parse ⟨.strict, true⟩ "B? >h" = .ok format ∧
        format.fields = before ++ field :: after ∧ field.type ≠ .boolean := by
  have failed : pack ⟨.strict, true⟩ "B? >h"
      [.integer 5, .integer 300, .integer 40000, .nothing] =
      .error (.field 2 (.integer ⟨.signed, .two⟩)
        (.outOfRange 40000 (.integer ⟨.signed, .two⟩))) := rfl
  have kind : (CodecError.field 2 (.integer ⟨.signed, .two⟩)
      (.outOfRange 40000 (.integer ⟨.signed, .two⟩))).kind = .library .valueOutOfRange :=
    CodecError.kind_of_isWritable (Decimal.isWritable_of_natAbs_le (by decide))
  obtain ⟨outcome_iff, errors⟩ := pack_outcome ⟨.strict, true⟩ "B? >h"
    [.integer 5, .integer 300, .integer 40000, .nothing]
  obtain ⟨_, _, reported⟩ := errors _ failed
  obtain ⟨format, before, field, after, reading, split, _, _, isInteger, _⟩ :=
    reported (.inr (.inl kind))
  refine ⟨failed, (outcome_iff _).mp ?_, format, before, field, after, reading, split,
    isInteger kind⟩
  rw [failed, Except.mapError, kind]

/-- An integer of too many digits is out of range, and the error that says so cannot be
written. -/
theorem pack_of_unwritable :
    ¬ (ScalarType.integer ⟨.unsigned, .one⟩).InRange Decimal.tooLong ∧
      (pack ⟨.strict, true⟩ "B" [.integer Decimal.tooLong]).mapError
        CodecError.kind = .error .invalidArgument := by
  have unwritable := Decimal.not_isWritable_tooLong
  generalize (Decimal.tooLong : Int) = number at unwritable ⊢
  have beyond : ¬ (ScalarType.integer ⟨.unsigned, .one⟩).InRange number :=
    ScalarType.not_inRange_of_unwritable unwritable
  have related : PackOutcome ⟨.strict, true⟩ "B" [.integer number]
      (.error (.raised (Decimal.isWritable number) (.library .valueOutOfRange))) :=
    .refused rfl (List.nil_append _).symm (List.forall_mem_nil _)
      (.rejected rfl (.outOfRange rfl rfl rfl beyond))
  rw [unwritable] at related
  exact ⟨beyond, related.eq⟩

end StructCodec

import StructCodec.Error
import StructCodec.Proofs.Composition
import StructCodec.Proofs.PackingOutcome

/-!
# What wrapping forgets

Wrapping keeps of an integer its residue modulo the number of patterns of a type, as the one
integer in range that has this residue.  So packing under the wrapping policy tells integers
apart exactly if their residues differ, and a boolean field tells zero from everything else.
The sign of a type only says which integer stands for a residue, so the bytes do not show it.
-/

namespace StructCodec

/-! ### Reduction to the range of a type -/

/-- An integer is in the range of a type, and congruent to a number modulo the number of
patterns of the type. -/
structure IntegerType.Reduces (type : IntegerType) (number reduced : Int) : Prop where
  low : type.minimum ≤ reduced
  high : reduced ≤ type.maximum
  congruent : reduced ≡ number [ZMOD 2 ^ type.bits]

theorem IntegerType.modEq_iff {type : IntegerType} {left right : Int} :
    left ≡ right [ZMOD 2 ^ type.bits] ↔
      left % 256 ^ type.width.bytes = right % 256 ^ type.width.bytes := by
  rw [type.two_pow_bits]
  rfl

theorem IntegerType.bytes_le_of_bits_le {inner outer : IntegerType}
    (narrower : inner.bits ≤ outer.bits) : inner.width.bytes ≤ outer.width.bytes := by
  rw [IntegerType.bits, IntegerType.bits] at narrower
  omega

namespace ScalarType

variable {type : IntegerType} {number reduced : Int}

theorem narrow_wrap_iff_reduces :
    (ScalarType.integer type).narrow .wrap number = .ok reduced ↔
      type.Reduces number reduced := by
  rw [narrow_wrap_iff]
  constructor
  · rintro ⟨⟨low, high⟩, congruent⟩
    exact ⟨low, high, IntegerType.modEq_iff.mpr congruent⟩
  · intro reduces
    exact ⟨⟨reduces.low, reduces.high⟩, IntegerType.modEq_iff.mp reduces.congruent⟩

theorem existsUnique_reduces (type : IntegerType) (number : Int) :
    ∃! reduced, type.Reduces number reduced := by
  obtain ⟨reduced, narrowing⟩ := exists_narrow_wrap type number
  refine ⟨reduced, narrow_wrap_iff_reduces.mp narrowing, ?_⟩
  intro other reduces
  have again := narrow_wrap_iff_reduces.mpr reduces
  rw [narrowing] at again
  exact (Except.ok.inj again).symm

theorem narrow_strict_of_beyond {type : ScalarType} {number : Int}
    (beyond : ¬ type.InRange number) :
    type.narrow .strict number = .error (.outOfRange number type) :=
  if_neg beyond

end ScalarType

/-- Wrapping finds the one integer in range that is congruent to a number, so it keeps what is
in range, and wrapping on to a type no wider forgets nothing more than wrapping to it at once.
The strict policy keeps what is in range and refuses everything else as out of range, except that
it cannot say so of integers with too many digits. -/
theorem narrow_is_reduction (type : IntegerType) (number : Int) :
    (∃! reduced, type.Reduces number reduced) ∧
      (∀ reduced, (ScalarType.integer type).narrow .wrap number = .ok reduced ↔
        type.Reduces number reduced) ∧
      ((ScalarType.integer type).narrow .wrap number = .ok number ↔
        type.minimum ≤ number ∧ number ≤ type.maximum) ∧
      (∀ kept, (ScalarType.integer type).narrow .strict number = .ok kept ↔
        (type.minimum ≤ number ∧ number ≤ type.maximum) ∧ kept = number) ∧
      (¬(type.minimum ≤ number ∧ number ≤ type.maximum) →
        ∃ fault, (ScalarType.integer type).narrow .strict number = .error fault ∧
          fault = .outOfRange number (.integer type) ∧
          (number.natAbs < Decimal.tooLong → fault.kind = .library .valueOutOfRange) ∧
          (Decimal.tooLong ≤ number.natAbs →
            fault.kind = .invalidArgument ∧ fault.message = Decimal.limitMessage)) ∧
      ∀ reduced, (ScalarType.integer type).narrow .wrap number = .ok reduced →
        (ScalarType.integer type).narrow .wrap reduced = .ok reduced ∧
        ∀ inner : IntegerType, inner.bits ≤ type.bits →
          (ScalarType.integer inner).narrow .wrap reduced =
            (ScalarType.integer inner).narrow .wrap number := by
  refine ⟨ScalarType.existsUnique_reduces type number,
    fun reduced => ScalarType.narrow_wrap_iff_reduces, ?_, fun kept =>
    ScalarType.narrow_strict_iff, ?_, ?_⟩
  · rw [ScalarType.narrow_wrap_iff]
    exact and_iff_left rfl
  · intro beyond
    refine ⟨_, ScalarType.narrow_strict_of_beyond beyond, rfl, ?_, ?_⟩
    · intro few
      exact ValueFault.kind_of_isWritable (Decimal.isWritable_iff.mpr few)
    · intro many
      have unwritable := Decimal.isWritable_eq_false_iff.mpr many
      exact ⟨ValueFault.kind_of_not_isWritable unwritable,
        ValueFault.message_of_not_isWritable unwritable⟩
  · intro reduced narrowing
    have composes (inner : IntegerType) (narrower : inner.bits ≤ type.bits) :
        (ScalarType.integer inner).narrow .wrap reduced =
          (ScalarType.integer inner).narrow .wrap number :=
      ScalarType.narrow_wrap_narrow (IntegerType.bytes_le_of_bits_le narrower) narrowing
    refine ⟨?_, composes⟩
    rw [composes type (Nat.le_refl _), narrowing]

theorem narrow_is_reduction_signed :
    (ScalarType.integer ⟨.signed, .two⟩).narrow .wrap 98565 = .ok (-32507) ∧
      (ScalarType.integer ⟨.signed, .two⟩).narrow .wrap (-32507) = .ok (-32507) ∧
      (ScalarType.integer ⟨.unsigned, .one⟩).narrow .wrap (-32507) =
        (ScalarType.integer ⟨.unsigned, .one⟩).narrow .wrap 98565 ∧
      ∃ fault, (ScalarType.integer ⟨.signed, .two⟩).narrow .strict 98565 = .error fault ∧
        fault.kind = .library .valueOutOfRange := by
  have narrowing : (ScalarType.integer ⟨.signed, .two⟩).narrow .wrap 98565 =
      .ok (-32507) := rfl
  obtain ⟨_, _, _, _, refuses, composes⟩ := narrow_is_reduction ⟨.signed, .two⟩ 98565
  obtain ⟨again, inner⟩ := composes _ narrowing
  obtain ⟨fault, refused, _, told, _⟩ := refuses (by decide)
  have few : (98565 : Int).natAbs < Decimal.tooLong :=
    Decimal.isWritable_iff.mp (Decimal.isWritable_of_natAbs_le (by decide))
  exact ⟨narrowing, again, inner ⟨.unsigned, .one⟩ (by decide), fault, refused, told few⟩

/-- The least number of too many digits is refused, but not as out of range. -/
theorem narrow_strict_unwritable :
    ¬ (ScalarType.integer ⟨.unsigned, .one⟩).InRange Decimal.tooLong ∧
      ∃ fault,
        (ScalarType.integer ⟨.unsigned, .one⟩).narrow .strict Decimal.tooLong = .error fault ∧
        fault.kind = .invalidArgument := by
  have unwritable := Decimal.not_isWritable_tooLong
  have beyond : ¬ (ScalarType.integer ⟨.unsigned, .one⟩).InRange Decimal.tooLong :=
    ScalarType.not_inRange_of_unwritable unwritable
  exact ⟨beyond, _, ScalarType.narrow_strict_of_beyond beyond,
    ValueFault.kind_of_not_isWritable unwritable⟩

/-! ### Which integers are packed alike -/

/-- Two integers that a field of a type does not tell apart. -/
def ScalarType.Indistinct : ScalarType → Int → Int → Prop
  | .integer type, left, right => left ≡ right [ZMOD 2 ^ (8 * type.width.bytes)]
  | .boolean, left, right => left = 0 ↔ right = 0

theorem LittleEndian.encodeInt_eq_iff {width : Nat} {left right : Int} :
    encodeInt width left = encodeInt width right ↔
      left % 256 ^ width = right % 256 ^ width := by
  constructor
  · intro same
    rw [← decodeNat_encodeInt, ← decodeNat_encodeInt, same]
  · exact encodeInt_congr

/-- The bytes of two integers are the same if a field does not tell them apart. -/
theorem ScalarType.image_eq_iff {type : ScalarType} {left right : Int} :
    type.image left = type.image right ↔ type.Indistinct left right := by
  cases type with
  | boolean =>
      by_cases leftZero : left = 0 <;> by_cases rightZero : right = 0 <;>
        simp [image, Indistinct, leftZero, rightZero]
  | integer type =>
      rw [image, image, LittleEndian.encodeInt_eq_iff]
      exact IntegerType.modEq_iff.symm

/-- Values that stand for integers, one for each. -/
def Value.AllIntegral (values : List Value) (numbers : List Int) : Prop :=
  List.Forall₂ (fun value number => value.integral? = some number) values numbers

theorem ScalarType.coerce_of_integral {policy : NarrowingPolicy} {type : ScalarType}
    {value : Value} {number : Int} (integral : value.integral? = some number) :
    type.coerce policy value = type.datumOfInt policy number := by
  cases value with
  | boolean | integer | register =>
      cases integral
      rfl
  | nothing | float | text | bytes | list | scalar => cases integral

theorem ScalarType.exists_coerce_wrap (type : ScalarType) {value : Value} {number : Int}
    (integral : value.integral? = some number) :
    ∃ datum, type.coerce .wrap value = .ok datum ∧
      type.image datum.toInt = type.image number := by
  have fitting (integerType : IntegerType) (strict : NarrowingPolicy.wrap = .strict)
      (_ : type = .integer integerType) : type.InRange number := by
    cases strict
  obtain ⟨datum, ofNumber⟩ := exists_datumOfInt fitting
  refine ⟨datum, ?_, (datumOfInt_spec ofNumber).2⟩
  rw [coerce_of_integral integral, ofNumber]

/-- What stands at a placement once integers are packed under the wrapping policy. -/
def Placement.spell (numbers : List Int) : Placement → List UInt8
  | .marker _ => []
  | .pad _ => [0]
  | .field placed => placed.order.toWire (placed.type.image (numbers.getD placed.index 0))

theorem Placement.length_spell (numbers : List Int) (placement : Placement) :
    (placement.spell numbers).length = placement.width := by
  cases placement <;> simp [spell, width]

section Spelling

variable {blanks : Bool} {text : String} {format : Format} {values : List Value}
  {numbers left right : List Int}

theorem Format.writes_spell (integral : Value.AllIntegral values numbers)
    (count : values.length = format.fieldCount) :
    List.Forall₂ (Placement.Writes .wrap values) format.placements
      (format.placements.map (Placement.spell numbers)) := by
  rw [List.forall₂_map_right_iff]
  apply List.forall₂_same.mpr
  intro placement placed
  cases placement with
  | marker order => exact .marker order
  | pad offset => exact .pad offset
  | field field =>
      have supplied := index_lt_fieldCount (mem_fields_of_placed placed)
      have present : values[field.index]? = some values[field.index] :=
        List.getElem?_eq_getElem (by omega)
      obtain ⟨number, found, counts⟩ := Traversal.getElem?_of_forall₂ integral present
      obtain ⟨datum, coerced, image⟩ := field.type.exists_coerce_wrap counts
      rw [Placement.spell, List.getD_eq_getElem?_getD, found, Option.getD_some, ← image]
      exact .field ⟨_, present, coerced⟩

/-- Under the wrapping policy integers are always packed, each to its residue. -/
theorem pack_wrap_eq (reading : Format.parse ⟨.wrap, blanks⟩ text = .ok format)
    (integral : Value.AllIntegral values numbers)
    (count : values.length = format.fieldCount) :
    pack ⟨.wrap, blanks⟩ text values =
      .ok (format.placements.flatMap (Placement.spell numbers)) := by
  apply (pack_eq_ok_iff_of_reading reading).mpr
  exact ⟨count, _, Format.writes_spell integral count, List.flatMap_def⟩

theorem Format.slice_spell {field : FieldPlacement} (member : field ∈ format.fields) :
    field.slice (format.placements.flatMap (Placement.spell numbers)) =
      field.order.toWire (field.type.image (numbers.getD field.index 0)) := by
  obtain ⟨before, after, split, start⟩ := exists_split_of_mem_fields member
  have laid : List.Forall₂ (fun placement block => block = Placement.spell numbers placement)
      (before ++ .field field :: after)
      ((before ++ .field field :: after).map (Placement.spell numbers)) := by
    rw [List.forall₂_map_right_iff]
    exact List.forall₂_same.mpr (fun _ _ => rfl)
  have fitting : ∀ placement block, block = Placement.spell numbers placement →
      block.length = placement.width := by
    rintro placement _ rfl
    exact placement.length_spell numbers
  obtain ⟨_, rfl, slice⟩ := Placement.exists_block_of_split fitting laid
  rw [split, List.flatMap_def, FieldPlacement.slice, start]
  exact slice

/-- No field overlaps another one, so bytes are the same only if each field's are. -/
theorem Format.flatMap_spell_eq_iff :
    format.placements.flatMap (Placement.spell left) =
        format.placements.flatMap (Placement.spell right) ↔
      ∀ field ∈ format.fields,
        field.type.Indistinct (left.getD field.index 0) (right.getD field.index 0) := by
  constructor
  · intro same field member
    have slices : field.order.toWire (field.type.image (left.getD field.index 0)) =
        field.order.toWire (field.type.image (right.getD field.index 0)) := by
      rw [← slice_spell member, ← slice_spell member, same]
    have images := congrArg field.order.fromWire slices
    rw [ByteOrder.fromWire_toWire, ByteOrder.fromWire_toWire] at images
    exact ScalarType.image_eq_iff.mp images
  · intro indistinct
    rw [List.flatMap_def, List.flatMap_def]
    congr 1
    apply List.map_congr_left
    intro placement placed
    cases placement with
    | marker order => rfl
    | pad offset => rfl
    | field field =>
        have images := ScalarType.image_eq_iff.mpr
          (indistinct field (mem_fields_of_placed placed))
        rw [Placement.spell, Placement.spell, images]

theorem Format.forall_indistinct_iff (leftCount : left.length = format.fieldCount)
    (rightCount : right.length = format.fieldCount) :
    (∀ field ∈ format.fields,
        field.type.Indistinct (left.getD field.index 0) (right.getD field.index 0)) ↔
      ∀ (index : Nat) (field : FieldPlacement) (leftNumber rightNumber : Int),
        format.fields[index]? = some field → left[index]? = some leftNumber →
        right[index]? = some rightNumber → field.type.Indistinct leftNumber rightNumber := by
  constructor
  · intro indistinct index field leftNumber rightNumber found leftFound rightFound
    obtain ⟨member, rfl⟩ := getElem?_fields_iff.mp found
    have apart := indistinct field member
    rwa [List.getD_eq_getElem?_getD, List.getD_eq_getElem?_getD, leftFound, rightFound] at apart
  · intro indistinct field member
    have supplied := index_lt_fieldCount member
    have leftFound : left[field.index]? = some left[field.index] :=
      List.getElem?_eq_getElem (by omega)
    have rightFound : right[field.index]? = some right[field.index] :=
      List.getElem?_eq_getElem (by omega)
    rw [List.getD_eq_getElem?_getD, List.getD_eq_getElem?_getD, leftFound, rightFound]
    exact indistinct field.index field _ _ (getElem?_fields_iff.mpr ⟨member, rfl⟩) leftFound
      rightFound

end Spelling

/-! ### The sign of a tag -/

/-- Two characters are the same, or tags of integer types of the same width. -/
inductive Retagged : Char → Char → Prop where
  | kept (char : Char) : Retagged char char
  | resigned (width : IntegerWidth) (first second : Signedness) :
      Retagged (ScalarType.integer ⟨first, width⟩).tag (ScalarType.integer ⟨second, width⟩).tag

/-- Two directives are the same, or fields of integer types of the same width. -/
inductive Directive.Resigned : Directive → Directive → Prop where
  | kept (directive : Directive) : Resigned directive directive
  | resigned (width : IntegerWidth) (first second : Signedness) :
      Resigned (.field (.integer ⟨first, width⟩)) (.field (.integer ⟨second, width⟩))

namespace Retagged

variable {left right : Char}

theorem accepts {options : Options} (retagged : Retagged left right)
    (accepted : options.Accepts left) : options.Accepts right := by
  cases retagged with
  | kept => exact accepted
  | resigned width first second => exact .inl ⟨.field (.integer ⟨second, width⟩), rfl⟩

theorem ofChar? (retagged : Retagged left right) :
    Option.Rel Directive.Resigned (Directive.ofChar? left) (Directive.ofChar? right) := by
  cases retagged with
  | kept =>
      cases Directive.ofChar? left with
      | none => exact .none
      | some directive => exact .some (.kept directive)
  | resigned width first second =>
      have leftTag := Directive.ofChar?_toChar (.field (.integer ⟨first, width⟩))
      have rightTag := Directive.ofChar?_toChar (.field (.integer ⟨second, width⟩))
      rw [Directive.toChar] at leftTag rightTag
      rw [leftTag, rightTag]
      exact .some (.resigned width first second)

end Retagged

namespace Format

theorem parse_retagged {options : Options} {text otherText : String} {format : Format}
    (reading : parse options text = .ok format)
    (retagged : List.Forall₂ Retagged text.toList otherText.toList) :
    ∃ other, parse options otherText = .ok other ∧
      List.Forall₂ Directive.Resigned format other := by
  obtain ⟨accepted, rfl⟩ := parse_eq_ok_iff.mp reading
  have otherAccepted : ∀ char ∈ otherText.toList, options.Accepts char := by
    intro char member
    obtain ⟨index, found⟩ := List.mem_iff_getElem?.mp member
    obtain ⟨original, foundOriginal, tags⟩ :=
      Traversal.getElem?_of_forall₂ retagged.flip found
    exact tags.accepts (accepted original (List.mem_of_getElem? foundOriginal))
  exact ⟨_, parse_of_accepted otherAccepted,
    List.rel_filterMap (fun _ _ tags => tags.ofChar?) retagged⟩

variable {left right : Format}

theorem fieldCount_resigned (resigned : List.Forall₂ Directive.Resigned left right) :
    left.fieldCount = right.fieldCount := by
  induction resigned with
  | nil => rfl
  | @cons directive _ _ _ first _ induction =>
      cases first with
      | kept => cases directive <;> simp [induction]
      | resigned width first second => simp [induction]

/-- A field writes the same bytes whatever its sign, and the fields behind it stay in place. -/
theorem flatMap_spell_resigned (resigned : List.Forall₂ Directive.Resigned left right)
    (numbers : List Int) (order : ByteOrder) (offset index : Nat) :
    (left.placeFrom order offset index).flatMap (Placement.spell numbers) =
      (right.placeFrom order offset index).flatMap (Placement.spell numbers) := by
  induction resigned generalizing order offset index with
  | nil => rfl
  | @cons directive _ _ _ first _ induction =>
      cases first with
      | kept => cases directive <;> simp only [placeFrom, List.flatMap_cons, induction]
      | resigned width first second =>
          simp only [placeFrom, List.flatMap_cons, ScalarType.width, induction]
          rfl

end Format

/-- Under the wrapping policy integers are packed to the bytes of their residues.  So other
integers are packed to the same bytes exactly if those of each integer field are congruent
modulo the number of patterns of the field, and those of each boolean field are both zero or
both not; and tags of the other sign and the same width change nothing. -/
theorem wrapped_packing_kernel {blanks : Bool} {text : String} {layout : Layout}
    (compiled : Layout.compile ⟨.wrap, blanks⟩ text = .ok layout)
    {values : List Value} {numbers : List Int} (integral : Value.AllIntegral values numbers)
    (count : values.length = layout.fieldCount) :
    ∃ bytes, pack ⟨.wrap, blanks⟩ text values = .ok bytes ∧
      (∀ (others : List Value) (otherNumbers : List Int),
        Value.AllIntegral others otherNumbers → others.length = layout.fieldCount →
        (pack ⟨.wrap, blanks⟩ text others = .ok bytes ↔
          ∀ (index : Nat) (field : FieldPlacement) (number otherNumber : Int),
            layout.fields[index]? = some field → numbers[index]? = some number →
            otherNumbers[index]? = some otherNumber →
            field.type.Indistinct number otherNumber)) ∧
      ∀ otherText : String, List.Forall₂ Retagged text.toList otherText.toList →
        pack ⟨.wrap, blanks⟩ otherText values = .ok bytes := by
  obtain ⟨format, reading, rfl⟩ := Layout.compile_eq_ok_iff.mp compiled
  refine ⟨_, pack_wrap_eq reading integral count, ?_, ?_⟩
  · intro others otherNumbers otherIntegral otherCount
    rw [pack_wrap_eq reading otherIntegral otherCount, Except.ok.injEq, eq_comm,
      Format.flatMap_spell_eq_iff]
    exact Format.forall_indistinct_iff (integral.length_eq.symm.trans count)
      (otherIntegral.length_eq.symm.trans otherCount)
  · intro otherText retagged
    obtain ⟨other, otherReading, resigned⟩ := Format.parse_retagged reading retagged
    have otherCount : values.length = other.fieldCount :=
      count.trans (Format.fieldCount_resigned resigned)
    rw [pack_wrap_eq otherReading integral otherCount]
    exact congrArg Except.ok (Format.flatMap_spell_resigned resigned numbers .initial 0 0).symm

theorem wrapped_packing_kernel_signs :
    pack {} ">hxB?" [.integer (-1), .boolean true, .register 5] = .ok [255, 255, 0, 1, 1] ∧
      pack {} ">hxB?" [.integer 65535, .integer 257, .integer (-3)] =
        .ok [255, 255, 0, 1, 1] ∧
      pack {} ">hxB?" [.integer 65535, .integer 257, .integer 0] ≠ .ok [255, 255, 0, 1, 1] ∧
      pack {} ">Hxb?" [.integer (-1), .boolean true, .register 5] =
        .ok [255, 255, 0, 1, 1] := by
  have compiled : Layout.compile {} ">hxB?" = .ok ⟨">hxB?", {},
      [.marker .big, .field (.integer ⟨.signed, .two⟩), .pad,
        .field (.integer ⟨.unsigned, .one⟩), .field .boolean]⟩ := rfl
  have integral : Value.AllIntegral [.integer (-1), .boolean true, .register 5] [-1, 1, 5] :=
    .cons rfl (.cons rfl (.cons rfl .nil))
  have packed : pack {} ">hxB?" [.integer (-1), .boolean true, .register 5] =
      .ok [255, 255, 0, 1, 1] := rfl
  obtain ⟨bytes, packed', packs, retagged⟩ := wrapped_packing_kernel compiled integral rfl
  rw [packed] at packed'
  cases packed'
  refine ⟨packed, ?_, ?_, ?_⟩
  · apply (packs _ [65535, 257, -3] (.cons rfl (.cons rfl (.cons rfl .nil))) rfl).mpr
    intro index field number otherNumber found foundNumber foundOther
    match index with
    | 0 | 1 =>
        cases found
        cases foundNumber
        cases foundOther
        rfl
    | 2 =>
        cases found
        cases foundNumber
        cases foundOther
        change (5 : Int) = 0 ↔ (-3 : Int) = 0
        decide
    | _ + 3 => cases found
  · intro same
    have indistinct := (packs _ [65535, 257, 0] (.cons rfl (.cons rfl (.cons rfl .nil)))
      rfl).mp same 2 ⟨2, .boolean, 4, .big⟩ 5 0 rfl rfl rfl
    exact absurd (indistinct.mpr rfl) (by decide)
  · apply retagged
    exact .cons (.kept _) (.cons (.resigned .two .signed .unsigned) (.cons (.kept _)
      (.cons (.resigned .one .unsigned .signed) (.cons (.kept _) .nil))))

end StructCodec

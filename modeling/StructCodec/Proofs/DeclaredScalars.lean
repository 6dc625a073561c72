import StructCodec.Proofs.PackingOutcome
import StructCodec.Proofs.RoundTrip

/-!
# Scalars in place of values

A value can be declared with a type exactly if the type represents it as it is.  Such a scalar
is then packed by a field of its own type like the value itself, whatever else is packed along
with it, and a field of any other type refuses it.
-/

namespace StructCodec

/-! ### Declaring values -/

namespace ScalarType

/-- A type represents a value as it is: a boolean as a boolean, or an integer in range. -/
inductive Represents : ScalarType → Value → Prop where
  | boolean (truth : Bool) : Represents .boolean (.boolean truth)
  | integer {type : IntegerType} {number : Int} (low : type.minimum ≤ number)
      (high : number ≤ type.maximum) : Represents (.integer type) (.integer number)

/-- Why a value cannot be declared with a type.  That an integer is out of range is told only if
it can be written. -/
inductive Disowns : ScalarType → Value → ErrorKind → Prop where
  | notBoolean {value : Value} (otherKind : ∀ truth, value ≠ .boolean truth) :
      Disowns .boolean value (.library .unsupportedValueType)
  | notInteger {type : IntegerType} {value : Value}
      (otherKind : ∀ number, value ≠ .integer number) :
      Disowns (.integer type) value (.library .unsupportedValueType)
  | outOfRange {type : IntegerType} {number : Int}
      (beyond : ¬ (type.minimum ≤ number ∧ number ≤ type.maximum)) :
      Disowns (.integer type) (.integer number)
        (.raised (Decimal.isWritable number) (.library .valueOutOfRange))

end ScalarType

namespace Scalar

variable {type : ScalarType} {value : Value} {scalar : Scalar}

theorem declare_of_represents (represented : type.Represents value) :
    ∃ scalar, declare type value = .ok scalar := by
  cases represented with
  | boolean truth => exact ⟨_, rfl⟩
  | integer low high => exact ⟨_, dif_pos ⟨low, high⟩⟩

/-- A scalar has the type and the value that it is declared with. -/
theorem declare_spec (declared : declare type value = .ok scalar) :
    type.Represents value ∧ scalar.type = type ∧ scalar.datum.toValue = value := by
  cases type with
  | boolean =>
      cases value with
      | boolean truth =>
          cases declared
          exact ⟨.boolean truth, rfl, rfl⟩
      | nothing | integer | float | text | bytes | list | register | scalar => cases declared
  | integer type =>
      cases value with
      | integer number =>
          by_cases fits : type.minimum ≤ number ∧ number ≤ type.maximum
          · rw [declare, dif_pos fits] at declared
            cases declared
            exact ⟨.integer fits.1 fits.2, rfl, rfl⟩
          · rw [declare, dif_neg fits] at declared
            cases declared
      | nothing | boolean | float | text | bytes | list | register | scalar => cases declared

theorem declare_of_disowns {kind : ErrorKind} (disowned : type.Disowns value kind) :
    ∃ fault, declare type value = .error fault ∧ fault.kind = kind := by
  cases disowned with
  | notBoolean otherKind =>
      cases value with
      | boolean truth => exact absurd rfl (otherKind truth)
      | nothing | integer | float | text | bytes | list | register | scalar =>
          exact ⟨_, rfl, rfl⟩
  | notInteger otherKind =>
      cases value with
      | integer number => exact absurd rfl (otherKind number)
      | nothing | boolean | float | text | bytes | list | register | scalar =>
          exact ⟨_, rfl, rfl⟩
  | outOfRange beyond => exact ⟨_, dif_neg beyond, rfl⟩

theorem represents_or_disowns (type : ScalarType) (value : Value) :
    type.Represents value ∨ ∃ kind, type.Disowns value kind := by
  cases type with
  | boolean =>
      by_cases boolean : ∃ truth, value = .boolean truth
      · obtain ⟨truth, rfl⟩ := boolean
        exact .inl (.boolean truth)
      · exact .inr ⟨_, .notBoolean (fun truth same => boolean ⟨truth, same⟩)⟩
  | integer type =>
      by_cases integer : ∃ number, value = .integer number
      · obtain ⟨number, rfl⟩ := integer
        by_cases fits : type.minimum ≤ number ∧ number ≤ type.maximum
        · exact .inl (.integer fits.1 fits.2)
        · exact .inr ⟨_, .outOfRange fits⟩
      · exact .inr ⟨_, .notInteger (fun number same => integer ⟨number, same⟩)⟩

theorem exists_declare_iff : (∃ scalar, declare type value = .ok scalar) ↔
    type.Represents value := by
  constructor
  · rintro ⟨scalar, declared⟩
    exact (declare_spec declared).1
  · exact declare_of_represents

theorem exists_declare_error_iff {kind : ErrorKind} :
    (∃ fault, declare type value = .error fault ∧ fault.kind = kind) ↔
      type.Disowns value kind := by
  constructor
  · rintro ⟨fault, failed, rfl⟩
    rcases represents_or_disowns type value with represented | ⟨other, disowned⟩
    · obtain ⟨scalar, declared⟩ := declare_of_represents represented
      rw [declared] at failed
      cases failed
    · obtain ⟨otherFault, otherFailed, otherKind⟩ := declare_of_disowns disowned
      rw [otherFailed] at failed
      cases failed
      rw [otherKind]
      exact disowned
  · exact declare_of_disowns

end Scalar

/-! ### Packing declared values -/

namespace ScalarType

theorem coerce_scalar_iff {policy : NarrowingPolicy} {type : ScalarType} {scalar : Scalar}
    {datum : Datum} :
    type.coerce policy (.scalar scalar) = .ok datum ↔
      scalar.type = type ∧ scalar.datum = datum := by
  rw [coerce]
  split
  next same => simp [same]
  next differs => simp [differs]

theorem coerce_declared (policy : NarrowingPolicy) {type : ScalarType} {value : Value}
    {scalar : Scalar} (declared : Scalar.declare type value = .ok scalar) :
    type.coerce policy (.scalar scalar) = type.coerce policy value := by
  obtain ⟨_, typed, valued⟩ := Scalar.declare_spec declared
  have admitted : type.Admits scalar.datum := typed ▸ scalar.fits
  rw [← valued, coerce_toValue policy admitted]
  exact coerce_scalar_iff.mpr ⟨typed, rfl⟩

end ScalarType

/-- Values of which some are declared as scalars, each with the type of its own field. -/
structure PartlyDeclared (options : Options) (text : String) (values declared : List Value) :
    Prop where
  length_eq : declared.length = values.length
  each : ∀ (index : Nat) (value other : Value), values[index]? = some value →
    declared[index]? = some other →
    other = value ∨ ∃ format field scalar, Format.parse options text = .ok format ∧
      format.fields[index]? = some field ∧ Scalar.declare field.type value = .ok scalar ∧
      other = .scalar scalar

/-- Nothing else is written at any placement. -/
theorem PartlyDeclared.write_eq {options : Options} {text : String} {format : Format}
    {values declared : List Value} {placement : Placement}
    (declares : PartlyDeclared options text values declared)
    (reading : Format.parse options text = .ok format)
    (placed : placement ∈ format.placements) :
    placement.write options.narrowing text declared =
      placement.write options.narrowing text values := by
  cases placement with
  | marker order => rfl
  | pad offset => rfl
  | field field =>
      have found : format.fields[field.index]? = some field :=
        Format.getElem?_fields_iff.mpr ⟨Format.mem_fields_of_placed placed, rfl⟩
      cases present : values[field.index]? with
      | none =>
          have absent : declared[field.index]? = none := by
            rw [List.getElem?_eq_none_iff, declares.length_eq]
            exact List.getElem?_eq_none_iff.mp present
          simp only [Placement.write, present, absent, declares.length_eq]
      | some value =>
          have inside : field.index < declared.length := by
            rw [declares.length_eq]
            exact (List.getElem?_eq_some_iff.mp present).1
          have standing := List.getElem?_eq_getElem inside
          simp only [Placement.write, present, standing]
          rcases declares.each _ _ _ present standing with
            same | ⟨read, own, scalar, readAgain, foundOwn, declaration, wrapped⟩
          · rw [same]
          · rw [reading] at readAgain
            cases readAgain
            rw [found] at foundOwn
            cases foundOwn
            rw [wrapped, packField_eq, packField_eq,
              ScalarType.coerce_declared options.narrowing declaration]

theorem PartlyDeclared.pack_eq {options : Options} {text : String} {values declared : List Value}
    (declares : PartlyDeclared options text values declared) :
    pack options text declared = pack options text values := by
  cases reading : Format.parse options text with
  | error error =>
      rw [pack, pack, reading]
      rfl
  | ok format =>
      have written : format.placements.mapM
            (Placement.write options.narrowing text declared) =
          format.placements.mapM (Placement.write options.narrowing text values) := by
        apply Traversal.mapM_congr
        intro placement placed
        exact declares.write_eq reading placed
      rw [pack_eq_write reading, pack_eq_write reading, written, declares.length_eq]

theorem FieldPlacement.Takes.not_refuses {policy : NarrowingPolicy} {values : List Value}
    {field : FieldPlacement} {datum : Datum} (takes : field.Takes policy values datum)
    (kind : ErrorKind) : ¬ field.Refuses policy values kind := by
  obtain ⟨value, present, coerced⟩ := takes
  intro refused
  cases refused with
  | missing absent =>
      rw [List.getElem?_eq_none absent] at present
      cases present
  | rejected standing rejected =>
      rw [present] at standing
      cases standing
      obtain ⟨fault, failed, _⟩ := ScalarType.coerce_of_rejects rejected
      rw [coerced] at failed
      cases failed

/-- Once the fields before have taken their values, a scalar of another type is refused. -/
theorem pack_of_mismatch {options : Options} {text : String} {values : List Value}
    {format : Format} {before after : List FieldPlacement} {field : FieldPlacement}
    {scalar : Scalar} (reading : Format.parse options text = .ok format)
    (split : format.fields = before ++ field :: after)
    (taken : ∀ earlier ∈ before, ∃ datum, earlier.Takes options.narrowing values datum)
    (present : values[before.length]? = some (.scalar scalar))
    (differs : scalar.type ≠ field.type) :
    pack options text values =
      .error (.field before.length field.type (.typeMismatch scalar.type field.type)) := by
  have place := Format.index_of_fields_split split
  have accepted : ∀ earlier ∈ before, ∀ kind,
      ¬ earlier.Refuses options.narrowing values kind := by
    intro earlier member
    obtain ⟨datum, takes⟩ := taken earlier member
    exact takes.not_refuses
  apply pack_of_refuses reading split accepted
  have refused : field.type.coerce options.narrowing (.scalar scalar) =
      .error (.typeMismatch scalar.type field.type) := if_neg differs
  simp only [Placement.write, place, present, packField_eq, refused]
  rfl

/-- What is packed of a scalar is its own datum. -/
theorem datum_of_pack [Machine] {options : Options} {text : String} {values : List Value}
    {bytes : List UInt8} (packed : pack options text values = .ok bytes) :
    ∃ format data, Format.parse options text = .ok format ∧
      unpack options text bytes (.value .nothing) = .ok data ∧
      ∀ (index : Nat) (scalar : Scalar), values[index]? = some (.scalar scalar) →
        data[index]? = some scalar.datum ∧
        ∃ field, format.fields[index]? = some field ∧ field.type = scalar.type := by
  obtain ⟨format, blocks, reading, count, written, rfl⟩ := pack_eq_ok_iff.mp packed
  obtain ⟨data, unpacked, taken⟩ := unpack_of_writes reading written
  refine ⟨format, data, reading, unpacked, ?_⟩
  intro index scalar present
  have inside : index < format.fields.length := by
    rw [Format.length_fields, ← count]
    exact (List.getElem?_eq_some_iff.mp present).1
  have found := List.getElem?_eq_getElem inside
  obtain ⟨datum, foundDatum, value, standing, coerced⟩ :=
    Traversal.getElem?_of_forall₂ taken found
  rw [(Format.getElem?_fields_iff.mp found).2, present] at standing
  cases standing
  obtain ⟨typed, rfl⟩ := ScalarType.coerce_scalar_iff.mp coerced
  exact ⟨foundDatum, _, found, typed.symm⟩

/-- Exactly the values that a type represents can be declared with it.  Whichever values are
declared with the types of their fields, packing comes to the same bytes or to the same error.
A scalar of another type is refused by the first field that reaches it, and one that is packed
is unpacked as it is. -/
theorem declared_scalars_transparent [Machine] (options : Options) (text : String) :
    (∀ type value,
      ((∃ scalar, Scalar.declare type value = .ok scalar) ↔ type.Represents value) ∧
      (∀ scalar, Scalar.declare type value = .ok scalar →
        scalar.type = type ∧ scalar.datum.toValue = value) ∧
      ∀ kind, (∃ fault, Scalar.declare type value = .error fault ∧ fault.kind = kind) ↔
        type.Disowns value kind) ∧
    (∀ values declared, PartlyDeclared options text values declared →
      pack options text declared = pack options text values) ∧
    (∀ values format before field after scalar, Format.parse options text = .ok format →
      format.fields = before ++ field :: after →
      (∀ earlier ∈ before, ∃ datum, earlier.Takes options.narrowing values datum) →
      values[before.length]? = some (.scalar scalar) → scalar.type ≠ field.type →
      ∃ error, pack options text values = .error error ∧
        error = .field before.length field.type (.typeMismatch scalar.type field.type) ∧
        error.kind = .library .unsupportedValueType) ∧
    ∀ values bytes, pack options text values = .ok bytes →
      ∃ format data, Format.parse options text = .ok format ∧
        unpack options text bytes (.value .nothing) = .ok data ∧
        ∀ (index : Nat) (scalar : Scalar), values[index]? = some (.scalar scalar) →
          data[index]? = some scalar.datum ∧
          ∃ field, format.fields[index]? = some field ∧ field.type = scalar.type := by
  refine ⟨?_, fun values declared declares => declares.pack_eq, ?_, ?_⟩
  · intro type value
    exact ⟨Scalar.exists_declare_iff, fun scalar declared => (Scalar.declare_spec declared).2,
      fun kind => Scalar.exists_declare_error_iff⟩
  · intro values format before field after scalar reading split taken present differs
    exact ⟨_, pack_of_mismatch reading split taken present differs, rfl, rfl⟩
  · intro values bytes packed
    exact datum_of_pack packed

/-- The temperature 300 as a two-byte scalar. -/
def declaredTemperature : Scalar :=
  ⟨.integer ⟨.unsigned, .two⟩, .integer 300, by constructor <;> decide⟩

open SmallMachine in
theorem declared_scalars_transparent_narrowed :
    PartlyDeclared {} "B>H" [.integer 300, .integer 300]
        [.integer 300, .scalar declaredTemperature] ∧
      pack {} "B>H" [.integer 300, .scalar declaredTemperature] =
        pack {} "B>H" [.integer 300, .integer 300] ∧
      ∃ error, pack {} "B>H" [.scalar declaredTemperature, .integer 300] = .error error ∧
        error.kind = .library .unsupportedValueType := by
  obtain ⟨_, unchanged, mismatched, _⟩ := declared_scalars_transparent {} "B>H"
  have declares : PartlyDeclared {} "B>H" [.integer 300, .integer 300]
      [.integer 300, .scalar declaredTemperature] := by
    refine ⟨rfl, ?_⟩
    intro index value other present standing
    match index with
    | 0 =>
        cases present
        cases standing
        exact .inl rfl
    | 1 =>
        cases present
        cases standing
        exact .inr ⟨_, _, declaredTemperature, rfl, rfl, rfl, rfl⟩
  obtain ⟨error, failed, _, kind⟩ :=
    mismatched [.scalar declaredTemperature, .integer 300] _ [] _ _ declaredTemperature rfl rfl
      (by simp) rfl (by decide)
  exact ⟨declares, unchanged _ _ declares, error, failed, kind⟩

/-- The least number of too many digits cannot be declared, but is not reported as out of
range. -/
theorem declare_unwritable :
    ¬ (ScalarType.integer ⟨.unsigned, .one⟩).InRange Decimal.tooLong ∧
      ∃ fault, Scalar.declare (.integer ⟨.unsigned, .one⟩) (.integer Decimal.tooLong) =
          .error fault ∧
        fault.kind = .invalidArgument := by
  have unwritable := Decimal.not_isWritable_tooLong
  generalize (Decimal.tooLong : Int) = number at unwritable ⊢
  have beyond : ¬ (ScalarType.integer ⟨.unsigned, .one⟩).InRange number :=
    ScalarType.not_inRange_of_unwritable unwritable
  exact ⟨beyond, _, dif_neg beyond, ValueFault.kind_of_not_isWritable unwritable⟩

end StructCodec

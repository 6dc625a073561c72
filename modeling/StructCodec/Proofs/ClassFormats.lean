import StructCodec.Proofs.FormatLanguage
import StructCodec.Proofs.PackingOutcome
import StructCodec.Proofs.RecordUnpacking
import StructCodec.Proofs.SchemaExtraction

/-!
# Formats of classes

The format of a chain of definitions is that of the last definition that sets one.  Each
definition is checked when it is added, so the format of a class that exists can be read.
Packing and unpacking look the format up again, and find the one that was checked.
-/

namespace StructCodec

/-- The format of a chain of definitions, its base first: that of the last definition that sets
one, and nothing if none does. -/
inductive EffectiveFormat (definitions : List ClassDefinition) : Value → Prop where
  | set {before after : List ClassDefinition} {definition : ClassDefinition} {format : Value}
      (split : definitions = before ++ definition :: after)
      (sets : definition.format? = some format)
      (inherited : ∀ later ∈ after, later.format? = none) : EffectiveFormat definitions format
  | unset (inherited : ∀ definition ∈ definitions, definition.format? = none) :
      EffectiveFormat definitions .nothing

/-- Why a format cannot be read under the default options. -/
inductive Unreadable : Value → CodecError → Prop where
  | refused {text : String} {error : CodecError}
      (refused : Format.parse {} text = .error error) : Unreadable (.text text) error
  | notText {given : Value} (notText : ∀ text, given ≠ .text text) :
      Unreadable given (.formatNotText given)

/-- The last definition of a chain is rejected: the chain has a format, which cannot be read. -/
def Rejected (definitions : List ClassDefinition) (error : CodecError) : Prop :=
  ∃ format, EffectiveFormat definitions format ∧ format ≠ .nothing ∧ Unreadable format error

/-! ### Reading formats -/

theorem Unreadable.kind_of_text {text : String} {error : CodecError}
    (unreadable : Unreadable (.text text) error) : error.kind = .library .unknownFormatChar := by
  cases unreadable with
  | refused refused =>
      obtain ⟨position, char, _, rfl⟩ := Format.parse_eq_error_iff.mp refused
      rfl
  | notText notText => exact absurd rfl (notText text)

theorem Unreadable.kind_of_not_text {given : Value} {error : CodecError}
    (unreadable : Unreadable given error) (notText : ∀ text, given ≠ .text text) :
    error.kind = .wrongType := by
  cases unreadable with
  | refused => exact absurd rfl (notText _)
  | notText => rfl

theorem unreadable_iff {given : Value} {error : CodecError} :
    Unreadable given error ↔
      (do let text ← given.formatText
          Format.parse {} text) = .error error := by
  constructor
  · intro unreadable
    cases unreadable with
    | refused refused => exact refused
    | notText notText =>
        cases given with
        | text content => exact absurd rfl (notText content)
        | _ => rfl
  · intro failed
    cases given with
    | text content => exact .refused failed
    | _ =>
        cases failed
        exact .notText (by simp)

theorem exists_read_of_readable {given : Value} (readable : ∀ error, ¬ Unreadable given error) :
    ∃ text format, given = .text text ∧ Format.parse {} text = .ok format := by
  cases given with
  | text content =>
      cases reading : Format.parse {} content with
      | ok format => exact ⟨content, format, rfl, reading⟩
      | error error => exact absurd (.refused reading) (readable error)
  | _ => exact absurd (.notText (by simp)) (readable _)

/-! ### The format of a chain -/

section Chain

variable {definitions : List ClassDefinition} {format : Value}

theorem exists_effectiveFormat (definitions : List ClassDefinition) :
    ∃ format, EffectiveFormat definitions format := by
  induction definitions with
  | nil => exact ⟨.nothing, .unset (by simp)⟩
  | cons definition later induction =>
      obtain ⟨format, effective⟩ := induction
      cases effective with
      | @set before after last _ split sets inherited =>
          have longer : definition :: later = (definition :: before) ++ last :: after := by
            rw [split, List.cons_append]
          exact ⟨format, .set longer sets inherited⟩
      | unset inherited =>
          cases own : definition.format? with
          | none => exact ⟨.nothing, .unset (List.forall_mem_cons.mpr ⟨own, inherited⟩)⟩
          | some format => exact ⟨format, .set (List.nil_append _).symm own inherited⟩

namespace RecordClass

theorem declaredFormat_of_unset
    (inherited : ∀ definition ∈ definitions, definition.format? = none) :
    declaredFormat definitions = none := by
  induction definitions with
  | nil => rfl
  | cons definition later induction =>
      obtain ⟨own, rest⟩ := List.forall_mem_cons.mp inherited
      rw [declaredFormat, induction rest, own]

theorem declaredFormat_of_set {before after : List ClassDefinition} {definition : ClassDefinition}
    (sets : definition.format? = some format) (inherited : ∀ later ∈ after, later.format? = none) :
    declaredFormat (before ++ definition :: after) = some format := by
  induction before with
  | nil => rw [List.nil_append, declaredFormat, declaredFormat_of_unset inherited, sets]
  | cons first before induction => rw [List.cons_append, declaredFormat, induction]

theorem effectiveFormat_iff :
    EffectiveFormat definitions format ↔ (declaredFormat definitions).getD .nothing = format := by
  have declared {format : Value} (effective : EffectiveFormat definitions format) :
      (declaredFormat definitions).getD .nothing = format := by
    cases effective with
    | set split sets inherited =>
        rw [split, declaredFormat_of_set sets inherited, Option.getD_some]
    | unset inherited => rw [declaredFormat_of_unset inherited, Option.getD_none]
  constructor
  · exact declared
  · rintro rfl
    obtain ⟨format, effective⟩ := exists_effectiveFormat definitions
    rw [declared effective]
    exact effective

theorem format?_eq_none_iff {recordClass : RecordClass} :
    recordClass.format? = none ↔ EffectiveFormat recordClass.definitions .nothing := by
  rw [effectiveFormat_iff, format?]
  cases declaredFormat recordClass.definitions with
  | none => simp
  | some format => cases format <;> simp

theorem format?_eq_some_iff {recordClass : RecordClass} :
    recordClass.format? = some format ↔
      EffectiveFormat recordClass.definitions format ∧ format ≠ .nothing := by
  rw [effectiveFormat_iff, format?]
  cases declaredFormat recordClass.definitions with
  | none => simp [eq_comm]
  | some declared =>
      cases declared with
      | nothing => simp [eq_comm]
      | _ =>
          simp only [Option.getD_some, Option.some_inj]
          constructor
          · rintro rfl
            exact ⟨rfl, by simp⟩
          · exact And.left

end RecordClass

end Chain

/-! ### Definitions that are checked -/

/-- No beginning of a chain is rejected, so that each definition is accepted when it is added. -/
def Accepted (definitions : List ClassDefinition) : Prop :=
  ∀ earlier, earlier <+: definitions → ∀ error, ¬ Rejected earlier error

theorem accepted_nil : Accepted [] := by
  rintro earlier empty error ⟨format, effective, present, _⟩
  rw [List.prefix_nil.mp empty] at effective
  cases effective with
  | set split => simp at split
  | unset => exact present rfl

theorem Accepted.at_definition {ancestors later : List ClassDefinition}
    {definition : ClassDefinition} (accepted : Accepted (ancestors ++ definition :: later)) :
    ∀ error, ¬ Rejected (ancestors ++ [definition]) error :=
  accepted _ ⟨later, (List.append_cons ancestors definition later).symm⟩

/-- A chain is accepted up to the first definition that is rejected. -/
theorem accepted_or_rejected (definitions : List ClassDefinition) :
    Accepted definitions ∨ ∃ before definition after error,
      definitions = before ++ definition :: after ∧ Accepted before ∧
        Rejected (before ++ [definition]) error := by
  -- Definitions are added at the end, so the chain is taken apart from there.
  induction definitions using List.reverseRecOn with
  | nil => exact .inl accepted_nil
  | append_singleton definitions last induction =>
      rcases induction with accepted | ⟨before, definition, after, error, split, rest⟩
      · by_cases rejected : ∃ error, Rejected (definitions ++ [last]) error
        · obtain ⟨error, rejected⟩ := rejected
          exact .inr ⟨definitions, last, [], error, rfl, accepted, rejected⟩
        · left
          intro earlier beginning
          rcases List.prefix_concat_iff.mp beginning with rfl | shorter
          · exact not_exists.mp rejected
          · exact accepted earlier shorter
      · refine .inr ⟨before, definition, after ++ [last], error, ?_, rest⟩
        rw [split, List.append_assoc, List.cons_append]

namespace RecordClass

variable {ancestors : List ClassDefinition} {own : ClassDefinition} {error : CodecError}

theorem checkFormat_of_some {recordClass : RecordClass} {given : Value}
    (checked : recordClass.root = .checked) (declared : recordClass.format? = some given) :
    recordClass.checkFormat =
      (do let text ← given.formatText
          Format.parse {} text).map (fun _ => ()) := by
  simp only [checkFormat, checked, declared]
  cases given.formatText with
  | error error => rfl
  | ok text =>
      change (do let _ ← Format.parse {} text; return ()) = (Format.parse {} text).map (fun _ => ())
      cases Format.parse {} text <;> rfl

theorem checkFormat_of_rejected (rejected : Rejected (ancestors ++ [own]) error) :
    checkFormat ⟨.checked, ancestors, own⟩ = .error error := by
  obtain ⟨format, effective, present, unreadable⟩ := rejected
  have declared : format? ⟨.checked, ancestors, own⟩ = some format :=
    format?_eq_some_iff.mpr ⟨effective, present⟩
  rw [checkFormat_of_some rfl declared, unreadable_iff.mp unreadable]
  rfl

theorem checkFormat_of_accepted (accepted : ∀ error, ¬ Rejected (ancestors ++ [own]) error) :
    checkFormat ⟨.checked, ancestors, own⟩ = .ok () := by
  cases declared : format? ⟨.checked, ancestors, own⟩ with
  | none => simp only [checkFormat, declared]
  | some given =>
      obtain ⟨effective, present⟩ := format?_eq_some_iff.mp declared
      have readable : ∀ error, ¬ Unreadable given error := fun error unreadable =>
        accepted error ⟨given, effective, present, unreadable⟩
      obtain ⟨text, format, rfl, reading⟩ := exists_read_of_readable readable
      rw [checkFormat_of_some rfl declared, Value.formatText]
      simp only [bind, Except.bind, reading]
      rfl

theorem defineAfter_of_rejected (rejected : Rejected (ancestors ++ [own]) error)
    (later : List ClassDefinition) : defineAfter .checked ancestors own later = .error error := by
  cases later with
  | nil =>
      rw [defineAfter, checkFormat_of_rejected rejected]
      rfl
  | cons next later =>
      rw [defineAfter, checkFormat_of_rejected rejected]
      rfl

theorem defineAfter_cons_of_accepted
    (accepted : ∀ error, ¬ Rejected (ancestors ++ [own]) error) (next : ClassDefinition)
    (later : List ClassDefinition) :
    defineAfter .checked ancestors own (next :: later) =
      defineAfter .checked (ancestors ++ [own]) next later := by
  rw [defineAfter, checkFormat_of_accepted accepted]
  rfl

theorem exists_defineAfter_of_accepted {later : List ClassDefinition}
    (accepted : Accepted (ancestors ++ own :: later)) :
    ∃ recordClass, defineAfter .checked ancestors own later = .ok recordClass ∧
      recordClass.definitions = ancestors ++ own :: later := by
  induction later generalizing ancestors own with
  | nil =>
      refine ⟨⟨.checked, ancestors, own⟩, ?_, rfl⟩
      rw [defineAfter, checkFormat_of_accepted accepted.at_definition]
      rfl
  | cons next later induction =>
      -- What was just accepted is an ancestor of what comes next.
      rw [defineAfter_cons_of_accepted accepted.at_definition,
        List.append_cons _ own (next :: later)]
      apply induction
      rwa [← List.append_cons]

/-- The first definition that is rejected decides. -/
theorem defineAfter_of_first_rejected {before later after : List ClassDefinition}
    {definition : ClassDefinition} (split : own :: later = before ++ definition :: after)
    (accepted : Accepted (ancestors ++ before))
    (rejected : Rejected (ancestors ++ before ++ [definition]) error) :
    defineAfter .checked ancestors own later = .error error := by
  induction before generalizing ancestors own later with
  | nil =>
      cases split
      rw [List.append_nil] at rejected
      exact defineAfter_of_rejected rejected _
  | cons first before induction =>
      obtain ⟨rfl, rest⟩ := List.cons.inj split
      cases later with
      | nil => simp at rest
      | cons next later =>
          rw [defineAfter_cons_of_accepted accepted.at_definition]
          rw [List.append_cons ancestors own] at accepted rejected
          exact induction rest accepted rejected

section Define

variable {base : ClassDefinition} {derived : List ClassDefinition} {recordClass : RecordClass}

theorem exists_define_of_accepted (accepted : Accepted (base :: derived)) :
    ∃ recordClass, define .checked base derived = .ok recordClass ∧
      recordClass.definitions = base :: derived := by
  rw [← List.nil_append (base :: derived)] at accepted ⊢
  exact exists_defineAfter_of_accepted accepted

theorem define_of_first_rejected {before after : List ClassDefinition}
    {definition : ClassDefinition} (split : base :: derived = before ++ definition :: after)
    (accepted : Accepted before) (rejected : Rejected (before ++ [definition]) error) :
    define .checked base derived = .error error := by
  rw [← List.nil_append before] at accepted rejected
  exact defineAfter_of_first_rejected split accepted rejected

theorem define_eq_error_iff :
    define .checked base derived = .error error ↔
      ∃ before definition after, base :: derived = before ++ definition :: after ∧
        Accepted before ∧ Rejected (before ++ [definition]) error := by
  constructor
  · intro failed
    rcases accepted_or_rejected (base :: derived) with
      accepted | ⟨before, definition, after, own, split, accepted, rejected⟩
    · obtain ⟨recordClass, defined, _⟩ := exists_define_of_accepted accepted
      rw [defined] at failed
      cases failed
    · rw [define_of_first_rejected split accepted rejected] at failed
      cases failed
      exact ⟨before, definition, after, split, accepted, rejected⟩
  · rintro ⟨before, definition, after, split, accepted, rejected⟩
    exact define_of_first_rejected split accepted rejected

theorem accepted_of_define (defined : define .checked base derived = .ok recordClass) :
    recordClass.definitions = base :: derived ∧ Accepted (base :: derived) := by
  rcases accepted_or_rejected (base :: derived) with accepted | rejected
  · obtain ⟨own, definedOwn, definitions⟩ := exists_define_of_accepted accepted
    rw [definedOwn] at defined
    cases defined
    exact ⟨definitions, accepted⟩
  · obtain ⟨before, definition, after, error, rest⟩ := rejected
    have failed := define_eq_error_iff.mpr ⟨before, definition, after, rest⟩
    rw [defined] at failed
    cases failed

end Define

end RecordClass

/-! ### Packing and unpacking with the format of a class -/

section Codec

variable {options : Options} {text : String} {format : Format} {error : CodecError}

theorem pack_error_of_readable {values : List Value}
    (reading : Format.parse options text = .ok format)
    (failed : pack options text values = .error error) :
    error.kind ≠ .library .unknownFormatChar ∧ error.kind ≠ .wrongType := by
  have related := pack_outcome_iff.mp (congrArg (Except.mapError CodecError.kind) failed)
  rw [Except.mapError] at related
  generalize error.kind = kind at related
  cases related with
  | unread refused =>
      obtain ⟨char, member, outside⟩ := refused
      exact absurd ((Format.parse_eq_ok_iff.mp reading).1 char member) outside
  | excess => simp
  | refused _ _ _ refused =>
      rcases refused.cases with rfl | rfl | rfl | ⟨rfl, _⟩ <;> simp

theorem unpack_error_of_readable [Machine] {buffer : List UInt8} {slots : List FieldSlot}
    (reading : Format.parse options text = .ok format)
    (failed : unpack options text buffer
      (.slots (slots.map (fun entry => .slot entry.slot))) = .error error) :
    error.kind ≠ .library .unknownFormatChar ∧ error.kind ≠ .wrongType := by
  have related := unpack_outcome_iff.mp (congrArg (Except.mapError CodecError.kind) failed)
  rw [Except.mapError] at related
  generalize error.kind = kind at related
  cases related with
  | unread refused =>
      obtain ⟨char, member, outside⟩ := refused
      exact absurd ((Format.parse_eq_ok_iff.mp reading).1 char member) outside
  | undeclared _ refused =>
      obtain ⟨_, unresolved, _⟩ := refused.exists_error format
      rw [resolve_slots] at unresolved
      cases unresolved
  | surplus => simp
  | failed _ _ _ _ fails => cases fails <;> simp

end Codec

/-- An error that is not about a format: it is of no unknown character, and of a wrong type only
where a value cannot be compared with a bound. -/
def RecordError.SparesFormat (error : RecordError) : Prop :=
  error.kind ≠ .library .unknownFormatChar ∧
    (error.kind = .wrongType → ∃ refused, error = .incomparable refused)

theorem RecordError.sparesFormat_of_library {error : RecordError} {errorClass : ErrorClass}
    (known : errorClass ≠ .unknownFormatChar) (kind : error.kind = .library errorClass) :
    error.SparesFormat := by
  rw [SparesFormat, kind]
  exact ⟨by simpa using known, by simp⟩

theorem RecordError.sparesFormat_ofConstruction (className : String) (fault : ConstructionFault) :
    (ofConstruction className fault).SparesFormat := by
  cases fault with
  | invalid errors => exact sparesFormat_of_library (by simp) rfl
  | incomparable refused => exact ⟨by simp [ofConstruction, kind], fun _ => ⟨refused, rfl⟩⟩

namespace RecordClass

/-- The format of a class, if it has one, can be read under some options. -/
def Readable (recordClass : RecordClass) (options : Options) : Prop :=
  ∀ format, recordClass.format? = some format →
    ∃ text directives, format = .text text ∧ Format.parse options text = .ok directives

theorem readable_of_accepted {recordClass : RecordClass} {options : Options}
    (accepted : Accepted recordClass.definitions) (ignores : options.ignoreWhitespace = true) :
    recordClass.Readable options := by
  intro format declared
  obtain ⟨effective, present⟩ := format?_eq_some_iff.mp declared
  have readable : ∀ error, ¬ Unreadable format error := fun error unreadable =>
    accepted _ List.prefix_rfl error ⟨format, effective, present, unreadable⟩
  obtain ⟨text, directives, rfl, reading⟩ := exists_read_of_readable readable
  refine ⟨text, directives, rfl, ?_⟩
  rw [Format.parse] at reading ⊢
  rw [ignores]
  exact reading

theorem resolveFormat_of_declared {recordClass : RecordClass} {format : Value}
    (declared : recordClass.format? = some format) :
    recordClass.resolveFormat .nothing = recordClass.resolveFormat format := by
  have present := (format?_eq_some_iff.mp declared).2
  rw [(Uses.declared declared).resolveFormat_eq, (Uses.given present).resolveFormat_eq]

end RecordClass

namespace Record

variable {maker : RecordMaker} {recordClass : RecordClass} {record : Record} {options : Options}
  {buffer : List UInt8} {error : RecordError}

/-- What keeps a class from being packed and unpacked without a format of the caller. -/
inductive Unusable (recordClass : RecordClass) : RecordError → Prop where
  | unmapped {error : RecordError} (schema : recordClass.schema = .error error) :
      Unusable recordClass error
  | undeclared {slots : List FieldSlot} (schema : recordClass.schema = .ok slots)
      (undeclared : recordClass.format? = none) :
      Unusable recordClass (.noFormat recordClass.name)

theorem Unusable.kind_eq (unusable : Unusable recordClass error) :
    error.kind = .library .schema := by
  cases unusable with
  | unmapped schema =>
      obtain ⟨field, _, fault, _, rfl⟩ := RecordClass.exists_of_schema_error schema
      rfl
  | undeclared => rfl

theorem Unusable.pack_eq (unusable : Unusable recordClass error) (record : Record)
    (options : Options) : record.pack recordClass options .nothing = .error error := by
  cases unusable with
  | unmapped schema =>
      rw [pack, schema]
      rfl
  | undeclared schema undeclared =>
      rw [pack, schema, RecordClass.resolveFormat, undeclared]
      rfl

theorem Unusable.unpack_eq [Machine] (unusable : Unusable recordClass error)
    (maker : RecordMaker) (options : Options) (buffer : List UInt8) :
    unpack maker recordClass options buffer .nothing = .error error := by
  cases unusable with
  | unmapped schema =>
      rw [unpack, schema]
      rfl
  | undeclared schema undeclared => exact unpack_of_undeclared schema undeclared

theorem unusable_or_usable (recordClass : RecordClass) :
    (∃ error, Unusable recordClass error) ∨
      ∃ slots format, recordClass.schema = .ok slots ∧ recordClass.format? = some format := by
  cases schema : recordClass.schema with
  | error error => exact .inl ⟨error, .unmapped schema⟩
  | ok slots =>
      cases declared : recordClass.format? with
      | some format => exact .inr ⟨slots, format, rfl, rfl⟩
      | none => exact .inl ⟨_, .undeclared schema declared⟩

theorem pack_sparesFormat (readable : recordClass.Readable options)
    (failed : record.pack recordClass options .nothing = .error error) : error.SparesFormat := by
  rcases unusable_or_usable recordClass with
    ⟨own, unusable⟩ | ⟨slots, format, schema, declared⟩
  · rw [unusable.pack_eq] at failed
    cases failed
    exact RecordError.sparesFormat_of_library (by simp) unusable.kind_eq
  · obtain ⟨text, directives, rfl, reading⟩ := readable format declared
    rw [pack_eq schema (RecordClass.Uses.declared declared).resolveFormat_eq] at failed
    cases packed : StructCodec.pack options text (record.values.map (·.2)) with
    | ok bytes =>
        rw [packed] at failed
        cases failed
    | error codecError =>
        rw [packed] at failed
        cases failed
        obtain ⟨known, typed⟩ := pack_error_of_readable reading packed
        exact ⟨known, fun wrong => absurd wrong typed⟩

theorem unpack_sparesFormat [Machine] (readable : recordClass.Readable options)
    (failed : unpack maker recordClass options buffer .nothing = .error error) :
    error.SparesFormat := by
  cases stops_of_unpack failed with
  | schema unmapped =>
      obtain ⟨field, _, fault, _, rfl⟩ := RecordClass.exists_of_schema_error unmapped
      exact RecordError.sparesFormat_of_library (by simp) rfl
  | undeclared => exact RecordError.sparesFormat_of_library (by simp) rfl
  | codec uses refused =>
      cases uses with
      | given isGiven => exact absurd rfl isGiven
      | declared declared =>
          obtain ⟨text, directives, rfl, reading⟩ := readable _ declared
          obtain ⟨known, typed⟩ := unpack_error_of_readable reading refused
          exact ⟨known, fun wrong => absurd wrong typed⟩
  | construction => exact RecordError.sparesFormat_ofConstruction _ _

end Record

/-- A definition is rejected exactly if the chain that it ends has a format which cannot be read.
A class whose definitions are all accepted is packed and unpacked, where no format is given, as
if that of the chain were, whatever makes its records.  Without one, or with a field that cannot
be mapped, its schema is at fault.  No error is about the format as long as blanks are ignored. -/
theorem defined_class_has_format [Machine] (maker : RecordMaker) (base : ClassDefinition)
    (derived : List ClassDefinition) :
    (∀ error, RecordClass.define .checked base derived = .error error ↔
      ∃ before definition after, base :: derived = before ++ definition :: after ∧
        Accepted before ∧ Rejected (before ++ [definition]) error) ∧
    (∀ format error, Unreadable format error →
      ((∃ text, format = .text text) → error.kind = .library .unknownFormatChar) ∧
      ((∀ text, format ≠ .text text) → error.kind = .wrongType)) ∧
    ∀ recordClass, RecordClass.define .checked base derived = .ok recordClass →
      recordClass.definitions = base :: derived ∧ Accepted (base :: derived) ∧
      ∀ (record : Record) (options : Options) (buffer : List UInt8),
        options.ignoreWhitespace = true →
        ((∃ field ∈ recordClass.fields, ¬ field.Mappable) ∨
            EffectiveFormat (base :: derived) .nothing →
          ∃ error : RecordError, error.kind = .library .schema ∧
            record.pack recordClass options .nothing = .error error ∧
            Record.unpack maker recordClass options buffer .nothing = .error error) ∧
        (∀ format, EffectiveFormat (base :: derived) format → format ≠ .nothing →
          record.pack recordClass options .nothing = record.pack recordClass options format ∧
          Record.unpack maker recordClass options buffer .nothing =
            Record.unpack maker recordClass options buffer format) ∧
        (∀ error, record.pack recordClass options .nothing = .error error →
          error.SparesFormat) ∧
        ∀ error, Record.unpack maker recordClass options buffer .nothing = .error error →
          error.SparesFormat := by
  refine ⟨fun error => RecordClass.define_eq_error_iff, ?_, ?_⟩
  · intro format error unreadable
    constructor
    · rintro ⟨text, rfl⟩
      exact unreadable.kind_of_text
    · exact unreadable.kind_of_not_text
  · intro recordClass defined
    obtain ⟨definitions, accepted⟩ := RecordClass.accepted_of_define defined
    refine ⟨definitions, accepted, ?_⟩
    rw [← definitions] at accepted ⊢
    intro record options buffer ignores
    have readable := RecordClass.readable_of_accepted accepted ignores
    refine ⟨?_, ?_, fun error => Record.pack_sparesFormat readable,
      fun error => Record.unpack_sparesFormat readable⟩
    · intro unusable
      rcases Record.unusable_or_usable recordClass with
        ⟨error, unusable⟩ | ⟨slots, format, schema, declared⟩
      · exact ⟨error, unusable.kind_eq, unusable.pack_eq record options,
          unusable.unpack_eq maker options buffer⟩
      · exfalso
        rcases unusable with ⟨field, member, unmappable⟩ | undeclared
        · exact unmappable (exists_slotsOfFields_iff.mp ⟨slots, schema⟩ field member)
        · rw [RecordClass.format?_eq_none_iff.mpr undeclared] at declared
          cases declared
    · intro format effective present
      have declared := RecordClass.format?_eq_some_iff.mpr ⟨effective, present⟩
      have same := RecordClass.resolveFormat_of_declared declared
      rw [Record.pack, Record.pack, Record.unpack, Record.unpack, same]
      exact ⟨rfl, rfl⟩

/-- A definition with one field, which sets a format. -/
def levelDefinition : ClassDefinition :=
  { name := "Level", format? := some (.text "<B"), fields := [.sized "level" ⟨.unsigned, .one⟩] }

open SmallMachine in
theorem defined_class_has_format_inherited :
    (∃ recordClass,
      RecordClass.define .checked levelDefinition [{ name := "Heir" }] = .ok recordClass ∧
        ∀ (record : Record) (options : Options), options.ignoreWhitespace = true →
          record.pack recordClass options .nothing =
            record.pack recordClass options (.text "<B")) ∧
      (∃ recordClass error,
        RecordClass.define .checked levelDefinition
            [{ name := "Reset", format? := some .nothing }] = .ok recordClass ∧
          Record.unpack Record.make recordClass {} [7] .nothing = .error error ∧
          error.kind = .library .schema) ∧
      RecordClass.define .checked levelDefinition
          [{ name := "Broken", format? := some (.text "<Z") }, { name := "Heir" }] =
        .error (.unknownFormatChar 'Z' 1 "<Z") := by
  refine ⟨⟨_, rfl, ?_⟩, ?_, ?_⟩
  · intro record options ignores
    obtain ⟨_, _, usable⟩ :=
      (defined_class_has_format Record.make levelDefinition [{ name := "Heir" }]).2.2 _ rfl
    obtain ⟨_, same, _⟩ := usable record options [] ignores
    have effective : EffectiveFormat [levelDefinition, { name := "Heir" }] (.text "<B") :=
      .set (List.nil_append _).symm rfl (by simp)
    exact (same _ effective (by simp)).1
  · obtain ⟨_, _, usable⟩ := (defined_class_has_format Record.make levelDefinition
      [{ name := "Reset", format? := some .nothing }]).2.2 _ rfl
    obtain ⟨unusable, _⟩ := usable ⟨[], false⟩ {} [7] rfl
    have effective : EffectiveFormat
        [levelDefinition, { name := "Reset", format? := some .nothing }] .nothing :=
      .set List.singleton_append.symm rfl (by simp)
    obtain ⟨error, kind, _, unpacked⟩ := unusable (.inr effective)
    exact ⟨_, error, rfl, unpacked, kind⟩
  · apply ((defined_class_has_format Record.make levelDefinition _).1 _).mpr
    refine ⟨[levelDefinition], { name := "Broken", format? := some (.text "<Z") }, _, rfl,
      ((defined_class_has_format Record.make levelDefinition []).2.2 _ rfl).2.1, .text "<Z", ?_,
      by simp, .refused rfl⟩
    exact .set rfl rfl (by simp)

end StructCodec

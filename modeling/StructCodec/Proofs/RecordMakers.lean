import StructCodec.Proofs.RecordConstruction
import StructCodec.Scalar.Datum

/-!
# Makers of records

Two things are asked of what makes the records of a class.  Data of the annotated types that
are within the bounds of their fields make a record that holds them, and other data of these
types are refused as invalid.  `Record.make` accepts the first for every class.  It refuses the
others for exactly those classes in which every bound that is exceeded can be reported.
-/

namespace StructCodec

/-! ### Data of fields -/

namespace FieldDeclaration

/-- A number is within the bounds of a field. -/
structure Bounds (field : FieldDeclaration) (number : Int) : Prop where
  low : ∀ minimum, field.minimum? = some minimum → minimum ≤ number
  high : ∀ maximum, field.maximum? = some maximum → number ≤ maximum

/-- A datum is of the type that a field is annotated with. -/
inductive Annotates (field : FieldDeclaration) : Datum → Prop where
  | boolean (annotated : field.annotation = .boolean) (truth : Bool) :
      Annotates field (.boolean truth)
  | integer (annotated : field.annotation = .integer) (number : Int) :
      Annotates field (.integer number)

end FieldDeclaration

namespace Record

/-- Data under the names of their fields. -/
def labelled (fields : List FieldDeclaration) (data : List Datum) : List (String × Value) :=
  (fields.map (·.name)).zip (data.map Datum.toValue)

/-- Every datum is within the bounds of its field. -/
def Within (fields : List FieldDeclaration) (data : List Datum) : Prop :=
  ∀ entry ∈ fields.zip data, entry.1.Bounds entry.2.toInt

end Record

/-! ### What is asked of a maker -/

namespace RecordMaker

variable {maker : RecordMaker} {recordClass : RecordClass}

/-- Data of the annotated types within their bounds make a record that holds them unchanged. -/
def Accepts (maker : RecordMaker) (recordClass : RecordClass) : Prop :=
  ∀ data, List.Forall₂ FieldDeclaration.Annotates recordClass.fields data →
    Record.Within recordClass.fields data →
    ∃ record, maker recordClass (Record.labelled recordClass.fields data) = .ok record ∧
      record.values = Record.labelled recordClass.fields data

/-- The types and the bounds of the fields are all that a maker checks of data that are given
for each field, and data that exceed their bounds are invalid. -/
structure Checks (maker : RecordMaker) (recordClass : RecordClass) : Prop where
  accepts : maker.Accepts recordClass
  refuses : ∀ data, List.Forall₂ FieldDeclaration.Annotates recordClass.fields data →
    ¬ Record.Within recordClass.fields data →
    ∃ errors, maker recordClass (Record.labelled recordClass.fields data) =
      .error (.invalid errors)

end RecordMaker

/-! ### Checking data -/

namespace FieldDeclaration

variable {field : FieldDeclaration} {datum : Datum}

theorem checkMinimum_cases (field : FieldDeclaration) (truth : Bool) :
    (∀ minimum, field.minimum? = some minimum → minimum ≤ (Datum.boolean truth).toInt) ∧
        field.checkMinimum (.boolean truth) = .ok () ∨
      ∃ minimum, field.minimum? = some minimum ∧ (Datum.boolean truth).toInt < minimum ∧
        field.checkMinimum (.boolean truth) =
          .error (exceeds .minimum minimum (.boolean truth)) := by
  cases present : field.minimum? with
  | none => simp [checkMinimum, present]
  | some minimum =>
      by_cases low : minimum ≤ (Datum.boolean truth).toInt
      · left
        simp only [Datum.toInt_boolean] at low
        simp [checkMinimum, present, Value.exactValue?, ExactValue.atLeast, low]
      · right
        refine ⟨minimum, rfl, Int.not_le.mp low, ?_⟩
        simp only [Datum.toInt_boolean] at low
        simp [checkMinimum, present, Value.exactValue?, ExactValue.atLeast, low]

theorem checkMaximum_cases (field : FieldDeclaration) (truth : Bool) :
    (∀ maximum, field.maximum? = some maximum → (Datum.boolean truth).toInt ≤ maximum) ∧
        field.checkMaximum (.boolean truth) = .ok () ∨
      ∃ maximum, field.maximum? = some maximum ∧ maximum < (Datum.boolean truth).toInt ∧
        field.checkMaximum (.boolean truth) =
          .error (exceeds .maximum maximum (.boolean truth)) := by
  cases present : field.maximum? with
  | none => simp [checkMaximum, present]
  | some maximum =>
      by_cases high : (Datum.boolean truth).toInt ≤ maximum
      · left
        simp only [Datum.toInt_boolean] at high
        simp [checkMaximum, present, Value.exactValue?, ExactValue.atMost, high]
      · right
        refine ⟨maximum, rfl, Int.not_le.mp high, ?_⟩
        simp only [Datum.toInt_boolean] at high
        simp [checkMaximum, present, Value.exactValue?, ExactValue.atMost, high]

theorem checkSmallest_of_bounds {number : Int} (bounded : field.Bounds number) :
    field.checkSmallest number = .ok () := by
  cases present : field.minimum? with
  | none => simp [checkSmallest, present]
  | some minimum =>
      have low := bounded.low minimum present
      simp [checkSmallest, present, Int.not_lt.mpr low]

theorem checkLargest_of_bounds {number : Int} (bounded : field.Bounds number) :
    field.checkLargest number = .ok () := by
  cases present : field.maximum? with
  | none => simp [checkLargest, present]
  | some maximum =>
      have high := bounded.high maximum present
      simp [checkLargest, present, Int.not_lt.mpr high]

theorem bounds_iff {number : Int} :
    field.Bounds number ↔
      (∀ minimum ∈ field.minimum?, minimum ≤ number) ∧
        ∀ maximum ∈ field.maximum?, number ≤ maximum := by
  constructor
  · intro bounded
    exact ⟨bounded.low, bounded.high⟩
  · rintro ⟨low, high⟩
    exact ⟨low, high⟩

instance (field : FieldDeclaration) (number : Int) : Decidable (field.Bounds number) :=
  decidable_of_iff _ bounds_iff.symm

/-- The bound of a field that a datum is found to exceed, the lower one first. -/
inductive Exceeds (field : FieldDeclaration) (datum : Datum) : Bound → Int → Prop where
  | minimum {limit : Int} (present : field.minimum? = some limit)
      (below : datum.toInt < limit) : Exceeds field datum .minimum limit
  | maximum {limit : Int}
      (low : ∀ minimum, field.minimum? = some minimum → minimum ≤ datum.toInt)
      (present : field.maximum? = some limit) (above : limit < datum.toInt) :
      Exceeds field datum .maximum limit

/-- A datum exceeds a bound of a boolean field that is too large to be reported. -/
structure Unreported (field : FieldDeclaration) (datum : Datum) (bound : Bound) : Prop where
  annotated : field.annotation = .boolean
  exceeds : ∃ limit, field.Exceeds datum bound limit ∧ reportedBound? limit = none

/-- The bounds of a field can be reported, in case it is a boolean one. -/
def Reportable (field : FieldDeclaration) : Prop :=
  field.annotation = .boolean → ∀ limit,
    field.minimum? = some limit ∨ field.maximum? = some limit → reportedBound? limit ≠ none

theorem Reportable.not_unreported (reportable : field.Reportable) (bound : Bound) :
    ¬ field.Unreported datum bound := by
  rintro ⟨annotated, limit, exceeds, unreported⟩
  cases exceeds with
  | minimum present => exact reportable annotated limit (.inl present) unreported
  | maximum _ present => exact reportable annotated limit (.inr present) unreported

/-- What checking a datum of a field comes to. -/
inductive Verdict (field : FieldDeclaration) (datum : Datum) :
    Except ValueRefusal Value → Prop where
  | kept (bounded : field.Bounds datum.toInt) : Verdict field datum (.ok datum.toValue)
  | refused {problem : FieldProblem} (exceeded : ¬ field.Bounds datum.toInt)
      (reported : ∀ bound, ¬ field.Unreported datum bound) :
      Verdict field datum (.error (.problem problem))
  | unreported {bound : Bound} (unreported : field.Unreported datum bound) :
      Verdict field datum (.error (.incomparable ⟨bound, datum.toValue⟩))

theorem Exceeds.not_bounds {bound : Bound} {limit : Int}
    (exceeds : field.Exceeds datum bound limit) : ¬ field.Bounds datum.toInt := by
  intro bounded
  cases exceeds with
  | minimum present below => exact absurd (bounded.low limit present) (Int.not_le.mpr below)
  | maximum _ present above => exact absurd (bounded.high limit present) (Int.not_le.mpr above)

theorem Unreported.not_bounds {bound : Bound} (unreported : field.Unreported datum bound) :
    ¬ field.Bounds datum.toInt := by
  obtain ⟨limit, exceeds, _⟩ := unreported.exceeds
  exact exceeds.not_bounds

theorem Exceeds.limit_unique {bound other : Bound} {limit otherLimit : Int}
    (exceeds : field.Exceeds datum bound limit) (again : field.Exceeds datum other otherLimit) :
    otherLimit = limit := by
  cases exceeds with
  | minimum present below =>
      cases again with
      | minimum present' _ => exact Option.some.inj (present'.symm.trans present)
      | maximum low => exact absurd (low _ present) (Int.not_le.mpr below)
  | maximum low present _ =>
      cases again with
      | minimum present' below => exact absurd (low _ present') (Int.not_le.mpr below)
      | maximum _ present' _ => exact Option.some.inj (present'.symm.trans present)

theorem Exceeds.verdict {bound : Bound} {limit : Int} (annotated : field.annotation = .boolean)
    (found : field.Exceeds datum bound limit) :
    field.Verdict datum (.error (exceeds bound limit datum.toValue)) := by
  cases shown : reportedBound? limit with
  | none =>
      simp only [exceeds, shown]
      exact .unreported ⟨annotated, limit, found, shown⟩
  | some reported =>
      have reportable : ∀ other, ¬ field.Unreported datum other := by
        rintro other ⟨_, otherLimit, again, unreported⟩
        rw [found.limit_unique again, shown] at unreported
        cases unreported
      cases bound with
      | minimum =>
          simp only [exceeds, shown]
          exact .refused found.not_bounds reportable
      | maximum =>
          simp only [exceeds, shown]
          exact .refused found.not_bounds reportable

theorem verdict_boolean (annotated : field.annotation = .boolean) (truth : Bool) :
    field.Verdict (.boolean truth) (field.validate (.boolean truth)) := by
  have checked : field.validate (.boolean truth) =
      (do field.checkMinimum (.boolean truth)
          field.checkMaximum (.boolean truth)
          return .boolean truth) := by
    simp only [validate, annotated]
    rfl
  rw [checked]
  rcases checkMinimum_cases field truth with ⟨low, passed⟩ | ⟨minimum, present, below, failed⟩
  · rcases checkMaximum_cases field truth with
      ⟨high, passedToo⟩ | ⟨maximum, present, above, failed⟩
    · rw [passed, passedToo]
      exact .kept ⟨low, high⟩
    · rw [passed, failed]
      exact Exceeds.verdict annotated (.maximum low present above)
  · rw [failed]
    exact Exceeds.verdict annotated (.minimum present below)

theorem bounds_of_checks {number : Int} (largest : field.checkLargest number = .ok ())
    (smallest : field.checkSmallest number = .ok ()) : field.Bounds number := by
  constructor
  · intro minimum present
    by_contra below
    simp [checkSmallest, present, Int.not_le.mp below] at smallest
  · intro maximum present
    by_contra above
    simp [checkLargest, present, Int.not_le.mp above] at largest

theorem verdict_integer (annotated : field.annotation = .integer) (number : Int) :
    field.Verdict (.integer number) (field.validate (.integer number)) := by
  have reported : ∀ bound, ¬ field.Unreported (.integer number) bound := by
    intro bound unreported
    have boolean := unreported.annotated
    simp [annotated] at boolean
  have checked : field.validate (.integer number) =
      (do field.checkLargest number
          field.checkSmallest number
          return Value.integer number).mapError .problem := by
    simp only [validate, annotated, validateInteger]
    rfl
  rw [checked]
  cases largest : field.checkLargest number with
  | error problem =>
      apply Verdict.refused _ reported
      intro (bounded : field.Bounds number)
      simp [checkLargest_of_bounds bounded] at largest
  | ok _ =>
      cases smallest : field.checkSmallest number with
      | error problem =>
          apply Verdict.refused _ reported
          intro (bounded : field.Bounds number)
          simp [checkSmallest_of_bounds bounded] at smallest
      | ok _ => exact .kept (bounds_of_checks largest smallest)

theorem Annotates.verdict (annotates : field.Annotates datum) :
    field.Verdict datum (field.validate datum.toValue) := by
  cases annotates with
  | boolean annotated truth => exact verdict_boolean annotated truth
  | integer annotated number => exact verdict_integer annotated number

/-- A datum within its bounds is kept unchanged. -/
theorem Annotates.validate_eq (annotates : field.Annotates datum)
    (bounded : field.Bounds datum.toInt) : field.validate datum.toValue = .ok datum.toValue := by
  have verdict := annotates.verdict
  generalize field.validate datum.toValue = outcome at verdict
  cases verdict with
  | kept => rfl
  | refused exceeded => exact absurd bounded exceeded
  | unreported unreported => exact absurd bounded unreported.not_bounds

end FieldDeclaration

/-! ### Making records of data -/

namespace Record

/-- Every bound that a datum exceeds can be reported. -/
def Reported (fields : List FieldDeclaration) (data : List Datum) : Prop :=
  ∀ entry ∈ fields.zip data, ∀ bound, ¬ entry.1.Unreported entry.2 bound

/-- The names of the fields whose data exceed their bounds, in declaration order. -/
def exceededNames (fields : List FieldDeclaration) (data : List Datum) : List String :=
  ((fields.zip data).filter (fun entry => ¬ entry.1.Bounds entry.2.toInt)).map (·.1.name)

/-- Data that are given for fields under their names, each of the type of its field. -/
def Supplies (given : List (String × Value)) : List FieldDeclaration → List Datum → Prop :=
  List.Forall₂ (fun field datum =>
    given.lookup field.name = some datum.toValue ∧ field.Annotates datum)

variable {given : List (String × Value)} {fields : List FieldDeclaration} {data : List Datum}

/-- Data within their bounds are what the fields hold. -/
theorem fillAll_of_within (supplies : Supplies given fields data) (within : Within fields data) :
    fillAll given fields =
      .ok ((labelled fields data).map (fun entry => (entry.1, ⟨entry.2, false⟩)), []) := by
  induction supplies with
  | nil => rfl
  | @cons field datum fields data first _ induction =>
      obtain ⟨found, annotates⟩ := first
      rw [Within, List.zip_cons_cons, List.forall_mem_cons] at within
      rw [fillAll_cons found, annotates.validate_eq within.1, induction within.2]
      rfl

/-- Where every exceeded bound can be reported, there is one problem for each field whose datum
exceeds its bounds. -/
theorem fillAll_of_reported (supplies : Supplies given fields data)
    (reported : Reported fields data) :
    ∃ held errors, fillAll given fields = .ok (held, errors) ∧
      errors.map (·.field) = exceededNames fields data := by
  induction supplies with
  | nil => exact ⟨[], [], rfl, rfl⟩
  | @cons field datum fields data first _ induction =>
      obtain ⟨found, annotates⟩ := first
      rw [Reported, List.zip_cons_cons, List.forall_mem_cons] at reported
      obtain ⟨held, errors, filled, named⟩ := induction reported.2
      have verdict := annotates.verdict
      rw [fillAll_cons found, filled]
      generalize field.validate datum.toValue = outcome at verdict
      cases verdict with
      | kept bounded =>
          refine ⟨(field.name, ⟨datum.toValue, false⟩) :: held, errors, rfl, ?_⟩
          simpa [exceededNames, bounded] using named
      | @refused problem exceeded _ =>
          refine ⟨held, ⟨field.name, problem⟩ :: errors, rfl, ?_⟩
          simpa [exceededNames, exceeded] using named
      | unreported unreported => exact absurd unreported (reported.1 _)

theorem fillAll_of_unreported (supplies : Supplies given fields data)
    (unreported : ∃ entry ∈ fields.zip data, ∃ bound, entry.1.Unreported entry.2 bound) :
    ∃ entry ∈ fields.zip data, ∃ bound, entry.1.Unreported entry.2 bound ∧
      fillAll given fields = .error ⟨bound, entry.2.toValue⟩ := by
  induction supplies with
  | nil =>
      obtain ⟨_, member, _⟩ := unreported
      cases member
  | @cons field datum fields data first _ induction =>
      obtain ⟨found, annotates⟩ := first
      -- What stops the construction is behind the first field if that one can be reported.
      have rest (reported : ∀ bound, ¬ field.Unreported datum bound) :
          ∃ entry ∈ fields.zip data, ∃ bound, entry.1.Unreported entry.2 bound ∧
            fillAll given fields = .error ⟨bound, entry.2.toValue⟩ := by
        apply induction
        rw [List.zip_cons_cons] at unreported
        obtain ⟨entry, member, bound, own⟩ := unreported
        rcases List.mem_cons.mp member with rfl | later
        · exact absurd own (reported bound)
        · exact ⟨entry, later, bound, own⟩
      have verdict := annotates.verdict
      rw [fillAll_cons found, List.zip_cons_cons]
      generalize field.validate datum.toValue = outcome at verdict
      cases verdict with
      | kept bounded =>
          obtain ⟨entry, member, bound, own, failed⟩ :=
            rest (fun bound own => own.not_bounds bounded)
          refine ⟨entry, List.mem_cons_of_mem _ member, bound, own, ?_⟩
          simp only [failed, Except.map]
      | refused _ reported =>
          obtain ⟨entry, member, bound, own, failed⟩ := rest reported
          refine ⟨entry, List.mem_cons_of_mem _ member, bound, own, ?_⟩
          simp only [failed, Except.map]
      | unreported own => exact ⟨(field, datum), List.mem_cons_self, _, own, rfl⟩

theorem names_labelled (annotated : List.Forall₂ FieldDeclaration.Annotates fields data) :
    (labelled fields data).map (·.1) = fields.map (·.name) := by
  apply List.map_fst_zip
  simp [annotated.length_eq]

theorem supplies_labelled (distinct : (fields.map (·.name)).Nodup)
    (annotated : List.Forall₂ FieldDeclaration.Annotates fields data) :
    Supplies (labelled fields data) fields data := by
  have keys : ((labelled fields data).map (·.1)).Nodup := by
    rw [names_labelled annotated]
    exact distinct
  apply List.forall₂_iff_zip.mpr
  refine ⟨annotated.length_eq, ?_⟩
  intro field datum member
  have entry : (field.name, datum.toValue) ∈ labelled fields data := by
    rw [labelled, List.zip_map]
    exact List.mem_map_of_mem (f := Prod.map FieldDeclaration.name Datum.toValue) member
  exact ⟨lookup_of_nodup keys entry, (List.forall₂_iff_zip.mp annotated).2 member⟩

section Making

variable {recordClass : RecordClass}

theorem accepts_make (recordClass : RecordClass) : RecordMaker.Accepts make recordClass := by
  intro data annotated within
  have supplies := supplies_labelled recordClass.nodup_names annotated
  refine ⟨⟨(labelled recordClass.fields data).map (fun entry => (entry.1, ⟨entry.2, false⟩)),
    false⟩, ?_, ?_⟩
  · rw [make_of_named (names_labelled annotated), fillAll_of_within supplies within]
  · rw [values, List.map_map]
    exact List.map_id _

theorem make_of_reported
    (annotated : List.Forall₂ FieldDeclaration.Annotates recordClass.fields data)
    (exceeded : ¬ Within recordClass.fields data)
    (reported : Reported recordClass.fields data) :
    ∃ errors, make recordClass (labelled recordClass.fields data) = .error (.invalid errors) ∧
      errors.map (·.field) = exceededNames recordClass.fields data := by
  have supplies := supplies_labelled recordClass.nodup_names annotated
  obtain ⟨held, errors, filled, named⟩ := fillAll_of_reported supplies reported
  rw [make_of_named (names_labelled annotated), filled]
  cases errors with
  | nil =>
      exfalso
      apply exceeded
      intro entry member
      have none : exceededNames recordClass.fields data = [] := named.symm
      rw [exceededNames, List.map_eq_nil_iff, List.filter_eq_nil_iff] at none
      simpa using none entry member
  | cons error errors => exact ⟨error :: errors, rfl, named⟩

theorem make_of_unreported
    (annotated : List.Forall₂ FieldDeclaration.Annotates recordClass.fields data)
    (unreported : ¬ Reported recordClass.fields data) :
    ∃ entry ∈ recordClass.fields.zip data, ∃ bound, entry.1.Unreported entry.2 bound ∧
      make recordClass (labelled recordClass.fields data) =
        .error (.incomparable ⟨bound, entry.2.toValue⟩) := by
  have supplies := supplies_labelled recordClass.nodup_names annotated
  simp only [Reported, not_forall, not_not, exists_prop] at unreported
  obtain ⟨entry, member, bound, own, failed⟩ := fillAll_of_unreported supplies unreported
  refine ⟨entry, member, bound, own, ?_⟩
  rw [make_of_named (names_labelled annotated), failed]

/-- What is asked of a maker holds of this one for the classes in which data exceed no bound
that cannot be reported. -/
theorem checks_make_iff :
    RecordMaker.Checks make recordClass ↔
      ∀ data, List.Forall₂ FieldDeclaration.Annotates recordClass.fields data →
        Reported recordClass.fields data := by
  constructor
  · intro checks data annotated
    by_contra unreported
    obtain ⟨entry, member, bound, own, failed⟩ := make_of_unreported annotated unreported
    have exceeded : ¬ Within recordClass.fields data := fun within =>
      own.not_bounds (within entry member)
    obtain ⟨errors, refused⟩ := checks.refuses data annotated exceeded
    rw [failed] at refused
    cases refused
  · intro reported
    refine ⟨accepts_make recordClass, ?_⟩
    intro data annotated exceeded
    obtain ⟨errors, refused, _⟩ := make_of_reported annotated exceeded (reported data annotated)
    exact ⟨errors, refused⟩

theorem checks_make (reportable : ∀ field ∈ recordClass.fields, field.Reportable) :
    RecordMaker.Checks make recordClass := by
  apply checks_make_iff.mpr
  intro data _ entry member bound
  exact (reportable entry.1 (List.of_mem_zip member).1).not_unreported bound

end Making

end Record

end StructCodec

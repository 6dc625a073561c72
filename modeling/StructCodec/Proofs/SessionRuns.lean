import StructCodec.Proofs.RecordConstruction
import StructCodec.Proofs.Runs
import StructCodec.Proofs.Traversal
import StructCodec.Record.Session

/-!
# Sessions through any run

Whatever is asked of a session, its record is one of its class: it has the fields of the class
in declaration order, and each of them holds its default or, as long as records check what is
assigned to them, a value that passes its check.  A step that fails leaves the session as it
was, so a run can do without it.
-/

namespace StructCodec

/-! ### What fields may hold -/

namespace FieldDeclaration

variable {field : FieldDeclaration} {value valid : Value} {root : RecordRoot}

theorem validateInteger_of_validateInteger (validated : field.validateInteger value = .ok valid) :
    field.validateInteger valid = .ok valid := by
  obtain ⟨number, _, bounded⟩ := Traversal.exists_of_bind validated
  obtain ⟨_, largest, later⟩ := Traversal.exists_of_bind bounded
  obtain ⟨_, smallest, kept⟩ := Traversal.exists_of_bind later
  cases kept
  simp only [validateInteger, FieldProblem.readInteger, bind, Except.bind, largest, smallest]
  rfl

/-- What a field has checked passes the check again. -/
theorem validate_of_validate (validated : field.validate value = .ok valid) :
    field.validate valid = .ok valid := by
  rw [validate] at validated ⊢
  cases annotated : field.annotation with
  | integer =>
      simp only [annotated] at validated ⊢
      have checked := Traversal.eq_ok_of_mapError validated
      rw [validateInteger_of_validateInteger checked]
      rfl
  | boolean =>
      simp only [annotated] at validated ⊢
      obtain ⟨truth, _, bounded⟩ := Traversal.exists_of_bind validated
      obtain ⟨_, smallest, later⟩ := Traversal.exists_of_bind bounded
      obtain ⟨_, largest, kept⟩ := Traversal.exists_of_bind later
      cases kept
      simp only [FieldProblem.readTruth, Except.mapError, bind, Except.bind, smallest, largest]
      rfl
  | otherClass | anything | composite | missing =>
      simp only [annotated] at validated ⊢
      obtain ⟨_, smallest, later⟩ := Traversal.exists_of_bind validated
      obtain ⟨_, largest, kept⟩ := Traversal.exists_of_bind later
      cases kept
      exact validated

/-- What a field of a record may hold: its default, which nobody checks, a value that passes
its check, or whatever was assigned to it if its record does not check that. -/
inductive MayHold (root : RecordRoot) (field : FieldDeclaration) : HeldValue → Prop where
  | default {value : Value} (declared : field.default? = some value) :
      MayHold root field ⟨value, true⟩
  | checked {value : Value} (valid : field.validate value = .ok value) :
      MayHold root field ⟨value, false⟩
  | assigned (unchecked : root = .plain) (value : Value) : MayHold root field ⟨value, false⟩

end FieldDeclaration

namespace Record

/-- A record is one of a class: it has the fields of the class, in declaration order, and they
hold what they may. -/
def BelongsTo (record : Record) (recordClass : RecordClass) : Prop :=
  List.Forall₂ (fun entry field => entry.1 = field.name ∧
    field.MayHold recordClass.root entry.2) record.fields recordClass.fields

end Record

/-- What a maker makes of values for a class is a record of this class. -/
def RecordMaker.MakesMembers (maker : RecordMaker) : Prop :=
  ∀ recordClass given record, maker recordClass given = .ok record →
    record.BelongsTo recordClass

namespace Record

/-! ### Making -/

section Making

variable {recordClass : RecordClass} {given : List (String × Value)} {root : RecordRoot}

theorem mayHold_of_fill {field : FieldDeclaration} {held : HeldValue}
    (filled : fill given field = .ok held) : field.MayHold root held := by
  rw [fill] at filled
  cases found : given.lookup field.name with
  | some value =>
      simp only [found] at filled
      cases validated : field.validate value with
      | error refusal =>
          rw [validated] at filled
          cases filled
      | ok valid =>
          rw [validated] at filled
          cases filled
          exact .checked (FieldDeclaration.validate_of_validate validated)
  | none =>
      simp only [found] at filled
      cases declared : field.default? with
      | some value =>
          rw [declared] at filled
          cases filled
          exact .default declared
      | none =>
          rw [declared] at filled
          cases filled

/-- Where no problem is found, each field is filled. -/
theorem mayHold_of_fillAll {fields : List FieldDeclaration} {held : List (String × HeldValue)}
    (filled : fillAll given fields = .ok (held, [])) :
    List.Forall₂ (fun entry field => entry.1 = field.name ∧ field.MayHold root entry.2)
      held fields := by
  induction fields generalizing held with
  | nil =>
      cases filled
      exact .nil
  | cons field fields induction =>
      rw [fillAll] at filled
      cases first : fill given field with
      | ok value =>
          rw [first] at filled
          obtain ⟨⟨others, errors⟩, rest, kept⟩ := Traversal.exists_of_bind filled
          cases kept
          exact .cons ⟨rfl, mayHold_of_fill first⟩ (induction rest)
      | error refusal =>
          rw [first] at filled
          cases refusal with
          | problem problem =>
              obtain ⟨⟨others, errors⟩, _, kept⟩ := Traversal.exists_of_bind filled
              cases kept
          | incomparable refused => cases filled

theorem makesMembers_make : RecordMaker.MakesMembers make := by
  intro recordClass given record made
  obtain ⟨⟨held, errors⟩, filled, kept⟩ := Traversal.exists_of_bind made
  cases errors with
  | cons error errors => cases kept
  | nil =>
      simp only [List.nil_append] at kept
      cases unexpected : unexpectedErrors recordClass (byName given) with
      | cons error errors =>
          simp only [unexpected] at kept
          cases kept
      | nil =>
          simp only [unexpected] at kept
          cases kept
          exact mayHold_of_fillAll (Traversal.eq_ok_of_mapError filled)

/-- The data of a record that is unpacked went through the maker. -/
theorem exists_made_of_unpack [Machine] {maker : RecordMaker} {options : Options}
    {buffer : List UInt8} {format : Value} {record : Record}
    (unpacked : unpack maker recordClass options buffer format = .ok record) :
    ∃ entries, maker recordClass entries = .ok record := by
  obtain ⟨slots, _, later⟩ := Traversal.exists_of_bind unpacked
  obtain ⟨resolved, _, later⟩ := Traversal.exists_of_bind later
  obtain ⟨data, _, made⟩ := Traversal.exists_of_bind later
  exact ⟨_, Traversal.eq_ok_of_mapError made⟩

end Making

/-! ### Assigning -/

section Assigning

variable {record changed : Record} {recordClass : RecordClass} {name : String}

theorem lookup_put_of_ne {Held : Type} (held : Held) (entries : List (String × Held))
    {other : String} (differs : other ≠ name) :
    (put name held entries).lookup other = entries.lookup other := by
  induction entries with
  | nil => rw [put, List.lookup_cons, beq_false_of_ne differs]
  | cons entry entries induction =>
      obtain ⟨key, own⟩ := entry
      rw [put]
      split
      next here =>
        subst here
        rw [List.lookup_cons, List.lookup_cons, beq_false_of_ne differs]
      next => rw [List.lookup_cons, List.lookup_cons, induction]

/-- Under the name of a field, its own entry is replaced. -/
theorem forall₂_put {fields : List FieldDeclaration} {entries : List (String × HeldValue)}
    {field : FieldDeclaration} {held : HeldValue}
    {Holds : FieldDeclaration → HeldValue → Prop}
    (before : List.Forall₂ (fun entry field => entry.1 = field.name ∧ Holds field entry.2)
      entries fields)
    (found : fields.find? (fun field => field.name = name) = some field)
    (holds : Holds field held) :
    List.Forall₂ (fun entry field => entry.1 = field.name ∧ Holds field entry.2)
      (put name held entries) fields := by
  induction before with
  | nil => cases found
  | @cons entry own entries fields first rest induction =>
      rw [put]
      by_cases here : entry.1 = name
      · rw [first.1] at here
        rw [List.find?_cons_of_pos (by simpa using here)] at found
        cases found
        rw [if_pos (first.1.trans here)]
        exact .cons ⟨here.symm, holds⟩ rest
      · have elsewhere : own.name ≠ name := first.1 ▸ here
        rw [List.find?_cons_of_neg (by simpa using elsewhere)] at found
        rw [if_neg here]
        exact .cons first (induction found)

/-- An assignment changes at most the field that it names. -/
inductive Assigns (record : Record) (recordClass : RecordClass) (name : String) (value : Value) :
    Record → Prop where
  | apart : Assigns record recordClass name value { record with hasPrivate := true }
  | checked {field : FieldDeclaration} {valid : Value}
      (found : recordClass.fields.find? (fun field => field.name = name) = some field)
      (validated : field.validate value = .ok valid) :
      Assigns record recordClass name value (record.setField name ⟨valid, false⟩)
  | unchecked {field : FieldDeclaration} (plain : recordClass.root = .plain)
      (found : recordClass.fields.find? (fun field => field.name = name) = some field) :
      Assigns record recordClass name value (record.setField name ⟨value, false⟩)

theorem assigns_of_assign {value : Value}
    (assigned : record.assign recordClass name value = .ok changed) :
    record.Assigns recordClass name value changed := by
  rw [assign] at assigned
  split at assigned
  · cases assigned
  · split at assigned
    · cases assigned
      exact .apart
    · split at assigned
      next _ _ field found checked =>
        cases validated : field.validate value with
        | ok valid =>
            rw [validated] at assigned
            cases assigned
            exact .checked found validated
        | error refusal => cases refusal <;> simp [validated] at assigned
      next _ _ field found plain =>
        cases assigned
        exact .unchecked plain found
      next => cases assigned
      next => cases assigned

variable {value : Value}

/-- The other fields of a record stay as they were. -/
theorem Assigns.lookup_eq (assigns : record.Assigns recordClass name value changed)
    {other : String} (differs : other ≠ name) :
    changed.fields.lookup other = record.fields.lookup other := by
  cases assigns with
  | apart => rfl
  | checked | unchecked => exact lookup_put_of_ne _ _ differs

theorem Assigns.belongsTo (assigns : record.Assigns recordClass name value changed)
    (belongs : record.BelongsTo recordClass) : changed.BelongsTo recordClass := by
  cases assigns with
  | apart => exact belongs
  | checked found validated =>
      exact forall₂_put belongs found
        (.checked (FieldDeclaration.validate_of_validate validated))
  | unchecked plain found => exact forall₂_put belongs found (.assigned plain value)

end Assigning

end Record

/-! ### Steps and runs -/

namespace RecordSession

open Runs

theorem current?_of_current {session : RecordSession} {record : Record}
    (present : session.current = .ok record) : session.current? = some record := by
  rw [current] at present
  cases held : session.current? with
  | some own =>
      rw [held] at present
      cases present
      rfl
  | none =>
      rw [held] at present
      cases present

variable [Machine] {maker : RecordMaker} {session next : RecordSession} {asked : RecordStep}
  {answer : RecordAnswer}

/-- What a successful step makes of a session. -/
inductive Follows (maker : RecordMaker) (session : RecordSession) :
    RecordStep → RecordSession → Prop where
  | schema : Follows maker session .schema session
  | resolve (format : Value) : Follows maker session (.resolve format) session
  | compare (values : List (String × Value)) : Follows maker session (.compare values) session
  | pack (options : Options) (format : Value) :
      Follows maker session (.pack options format) session
  | make {values : List (String × Value)} {record : Record}
      (made : maker session.recordClass values = .ok record) :
      Follows maker session (.make values) (session.replace record)
  | unpack {options : Options} {buffer : List UInt8} {format : Value} {record : Record}
      (unpacked : Record.unpack maker session.recordClass options buffer format = .ok record) :
      Follows maker session (.unpack options buffer format) (session.replace record)
  | assign {record changed : Record} {name : String} {value : Value}
      (present : session.current? = some record)
      (assigns : record.Assigns session.recordClass name value changed) :
      Follows maker session (.assign name value) (session.replace changed)

theorem follows_of_perform (performed : session.perform maker asked = .ok (answer, next)) :
    Follows maker session asked next := by
  cases asked with
  | schema =>
      obtain ⟨_, _, kept⟩ := Traversal.exists_of_bind performed
      cases kept
      exact .schema
  | resolve format =>
      obtain ⟨_, _, later⟩ := Traversal.exists_of_bind performed
      obtain ⟨_, _, kept⟩ := Traversal.exists_of_bind later
      cases kept
      exact .resolve format
  | make values =>
      obtain ⟨record, made, kept⟩ := Traversal.exists_of_bind performed
      cases kept
      exact .make (Traversal.eq_ok_of_mapError made)
  | assign name value =>
      obtain ⟨record, present, later⟩ := Traversal.exists_of_bind performed
      obtain ⟨changed, assigned, kept⟩ := Traversal.exists_of_bind later
      cases kept
      exact .assign (current?_of_current present) (Record.assigns_of_assign assigned)
  | compare values =>
      obtain ⟨_, _, later⟩ := Traversal.exists_of_bind performed
      obtain ⟨_, _, kept⟩ := Traversal.exists_of_bind later
      cases kept
      exact .compare values
  | pack options format =>
      obtain ⟨_, _, later⟩ := Traversal.exists_of_bind performed
      obtain ⟨_, _, kept⟩ := Traversal.exists_of_bind later
      cases kept
      exact .pack options format
  | unpack options buffer format =>
      obtain ⟨record, unpacked, kept⟩ := Traversal.exists_of_bind performed
      cases kept
      exact .unpack unpacked

/-- A step fails and leaves the session as it was, or the session follows from it. -/
theorem step_cases (maker : RecordMaker) (session : RecordSession) (asked : RecordStep) :
    (∃ error, session.step maker asked = (.error error, session)) ∨
      ∃ answer next, session.step maker asked = (.ok answer, next) ∧
        Follows maker session asked next := by
  cases performed : session.perform maker asked with
  | error error =>
      left
      refine ⟨error, ?_⟩
      rw [step, performed]
  | ok outcome =>
      right
      refine ⟨outcome.1, outcome.2, ?_, follows_of_perform performed⟩
      rw [step, performed]

/-- The record of a session, if there is one, is one of its class. -/
def Valid (session : RecordSession) : Prop :=
  ∀ record, session.current? = some record → record.BelongsTo session.recordClass

theorem Follows.recordClass_eq (follows : Follows maker session asked next) :
    next.recordClass = session.recordClass := by
  cases follows <;> rfl

theorem Follows.valid (makes : maker.MakesMembers) (follows : Follows maker session asked next)
    (valid : session.Valid) : next.Valid := by
  cases follows with
  | schema | resolve | compare | pack => exact valid
  | make made =>
      rintro record ⟨⟩
      exact makes _ _ _ made
  | unpack unpacked =>
      rintro record ⟨⟩
      obtain ⟨entries, made⟩ := Record.exists_made_of_unpack unpacked
      exact makes _ _ _ made
  | assign present assigns =>
      rintro record ⟨⟩
      exact assigns.belongsTo (valid _ present)

/-- A step that fails changes nothing. -/
theorem step_of_error {error : RecordError}
    (failed : (session.step maker asked).1 = .error error) :
    (session.step maker asked).2 = session := by
  rcases step_cases maker session asked with ⟨_, stepped⟩ | ⟨_, _, stepped, _⟩
  · rw [stepped]
  · rw [stepped] at failed
    cases failed

theorem recordClass_step (maker : RecordMaker) (session : RecordSession) (asked : RecordStep) :
    (session.step maker asked).2.recordClass = session.recordClass := by
  rcases step_cases maker session asked with ⟨_, stepped⟩ | ⟨_, _, stepped, follows⟩
  · rw [stepped]
  · rw [stepped]
    exact follows.recordClass_eq

theorem valid_step (makes : maker.MakesMembers) (valid : session.Valid) (asked : RecordStep) :
    (session.step maker asked).2.Valid := by
  rcases step_cases maker session asked with ⟨_, stepped⟩ | ⟨_, _, stepped, follows⟩
  · rw [stepped]
    exact valid
  · rw [stepped]
    exact follows.valid makes valid

/-- Through any run a session keeps its class and holds records of this class only. -/
theorem valid_after (makes : maker.MakesMembers) (recordClass : RecordClass)
    (steps : List RecordStep) :
    (after (step maker) (ofClass recordClass) steps).recordClass = recordClass ∧
      (after (step maker) (ofClass recordClass) steps).Valid := by
  have preserved : ∀ (session : RecordSession) (asked : RecordStep),
      session.recordClass = recordClass ∧ session.Valid →
      (session.step maker asked).2.recordClass = recordClass ∧
        (session.step maker asked).2.Valid := by
    rintro session asked ⟨same, valid⟩
    exact ⟨(recordClass_step maker session asked).trans same, valid_step makes valid asked⟩
  apply holds_after preserved
  refine ⟨rfl, ?_⟩
  rintro record ⟨⟩

/-- Each step of a run is answered with the session before it, whose record is one of the
class. -/
theorem run_answers_from_valid (makes : maker.MakesMembers) (recordClass : RecordClass)
    (earlier : List RecordStep) (asked : RecordStep) (later : List RecordStep) :
    ∃ session : RecordSession, session.recordClass = recordClass ∧ session.Valid ∧
      ((ofClass recordClass).run maker (earlier ++ asked :: later))[earlier.length]? =
        some (session.step maker asked) := by
  obtain ⟨same, valid⟩ := valid_after makes recordClass earlier
  exact ⟨_, same, valid, getElem?_trace _ earlier asked later⟩

/-- Whether a step has succeeded. -/
def succeeded : Except RecordError RecordAnswer → Bool
  | .ok _ => true
  | .error _ => false

/-- The steps of a run that fail can be left out: the others are answered as they are with
them. -/
theorem run_of_succeeding (maker : RecordMaker) (session : RecordSession)
    (steps : List RecordStep) :
    session.run maker (passing (step maker) succeeded session steps) =
      (session.run maker steps).filter (fun entry => succeeded entry.1) := by
  apply trace_passing
  intro session asked failed
  cases outcome : (session.step maker asked).1 with
  | ok answer =>
      rw [outcome] at failed
      cases failed
  | error error => exact step_of_error outcome

end RecordSession

end StructCodec

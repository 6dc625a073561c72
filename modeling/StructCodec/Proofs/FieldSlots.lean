import StructCodec.Proofs.Traversal
import StructCodec.Record.Schema

/-!
# Slots of fields

A field has a slot if it passes all checks; the check that comes first among those that it
fails is the fault that is reported.  The fields of a class have a slot each, or the first field
without one decides.
-/

namespace StructCodec

/-- The place of a fault in the order of the checks. -/
def SchemaFault.stage : SchemaFault → Nat
  | .unannotated => 0
  | .compositeType _ => 1
  | .severalScalarTypes => 2
  | .booleanDeclaredAs _ | .integerDeclaredBoolean => 3
  | .unsupportedType _ => 4

namespace FieldDeclaration

/-- A field has a slot: it is an integer or a boolean, with at most one scalar type, which is
of the same kind. -/
structure Mappable (field : FieldDeclaration) : Prop where
  annotated : field.annotation = .integer ∨ field.annotation = .boolean
  single : field.scalarTypes.length ≤ 1
  agrees : ∀ type ∈ field.scalarTypes, type = .boolean ↔ field.annotation = .boolean

/-- The slot that a field is delivered through. -/
inductive Slotted (field : FieldDeclaration) : Slot → Prop where
  | boolean (annotated : field.annotation = .boolean) : Slotted field .boolean
  | sized {type : IntegerType} (annotated : field.annotation = .integer)
      (declared : field.scalarTypes = [.integer type]) :
      Slotted field (.scalar (.integer type))
  | plain (annotated : field.annotation = .integer) (undeclared : field.scalarTypes = []) :
      Slotted field .integer

/-- The checks that a field fails, each taken by itself. -/
inductive Fails (field : FieldDeclaration) : SchemaFault → Prop where
  | unannotated (missing : field.annotation = .missing) : Fails field .unannotated
  | compositeType {shown : String} (composite : field.annotation = .composite shown) :
      Fails field (.compositeType shown)
  | severalScalarTypes (several : 1 < field.scalarTypes.length) :
      Fails field .severalScalarTypes
  | booleanDeclaredAs {type : ScalarType} (annotated : field.annotation = .boolean)
      (declared : type ∈ field.scalarTypes) (differs : type ≠ .boolean) :
      Fails field (.booleanDeclaredAs type)
  | integerDeclaredBoolean (annotated : field.annotation = .integer)
      (declared : .boolean ∈ field.scalarTypes) : Fails field .integerDeclaredBoolean
  | unsupportedType (notInteger : field.annotation ≠ .integer)
      (notBoolean : field.annotation ≠ .boolean) :
      Fails field (.unsupportedType field.annotation.shown)

/-- The first of the checks that a field fails. -/
structure FailsFirst (field : FieldDeclaration) (fault : SchemaFault) : Prop where
  fails : field.Fails fault
  first : ∀ other, field.Fails other → fault.stage ≤ other.stage

variable {field : FieldDeclaration} {slot : Slot} {fault : SchemaFault}

theorem Mappable.not_fails (mappable : field.Mappable) (fault : SchemaFault) :
    ¬ field.Fails fault := by
  intro fails
  cases fails with
  | unannotated missing =>
      rcases mappable.annotated with annotated | annotated
      all_goals simp [annotated] at missing
  | compositeType composite =>
      rcases mappable.annotated with annotated | annotated
      all_goals simp [annotated] at composite
  | severalScalarTypes several => exact Nat.not_lt.mpr mappable.single several
  | booleanDeclaredAs annotated declared differs =>
      exact differs ((mappable.agrees _ declared).mpr annotated)
  | integerDeclaredBoolean annotated declared =>
      have boolean := (mappable.agrees _ declared).mp rfl
      simp [annotated] at boolean
  | unsupportedType notInteger notBoolean =>
      rcases mappable.annotated with annotated | annotated
      · exact notInteger annotated
      · exact notBoolean annotated

theorem Fails.two_le_stage (fails : field.Fails fault) (annotated : field.annotation ≠ .missing)
    (simple : ∀ shown, field.annotation ≠ .composite shown) : 2 ≤ fault.stage := by
  cases fails with
  | unannotated missing => exact absurd missing annotated
  | compositeType composite => exact absurd composite (simple _)
  | severalScalarTypes | booleanDeclaredAs | integerDeclaredBoolean | unsupportedType =>
      simp [SchemaFault.stage]

theorem Fails.three_le_stage (fails : field.Fails fault)
    (annotated : field.annotation ≠ .missing)
    (simple : ∀ shown, field.annotation ≠ .composite shown)
    (single : field.scalarTypes.length ≤ 1) : 3 ≤ fault.stage := by
  have later := fails.two_le_stage annotated simple
  cases fails with
  | unannotated | compositeType => simp [SchemaFault.stage] at later
  | severalScalarTypes several => exact absurd several (Nat.not_lt.mpr single)
  | booleanDeclaredAs | integerDeclaredBoolean | unsupportedType => simp [SchemaFault.stage]

theorem Fails.four_le_stage (fails : field.Fails fault) (annotated : field.annotation ≠ .missing)
    (simple : ∀ shown, field.annotation ≠ .composite shown)
    (single : field.scalarTypes.length ≤ 1) (notInteger : field.annotation ≠ .integer)
    (notBoolean : field.annotation ≠ .boolean) : 4 ≤ fault.stage := by
  have later := fails.three_le_stage annotated simple single
  cases fails with
  | unannotated | compositeType | severalScalarTypes => simp [SchemaFault.stage] at later
  | booleanDeclaredAs boolean => exact absurd boolean notBoolean
  | integerDeclaredBoolean integer => exact absurd integer notInteger
  | unsupportedType => exact Nat.le_refl _

/-- A field fails one check first, since it has one annotation and, where its scalar type is
looked at, no more than one scalar type. -/
theorem FailsFirst.unique {other : SchemaFault} (failsFirst : field.FailsFirst fault)
    (again : field.FailsFirst other) : other = fault := by
  have same : other.stage = fault.stage :=
    Nat.le_antisymm (again.first _ failsFirst.fails) (failsFirst.first _ again.fails)
  have single (reached : 2 < fault.stage) : field.scalarTypes.length ≤ 1 := by
    by_contra several
    have earlier := failsFirst.first _ (.severalScalarTypes (Nat.not_le.mp several))
    exact absurd earlier (Nat.not_le.mpr reached)
  obtain ⟨fails, _⟩ := failsFirst
  obtain ⟨otherFails, _⟩ := again
  -- Only the two conflicts with a declared type share a stage.
  cases fails with
  | unannotated =>
      cases otherFails with
      | unannotated => rfl
      | _ => simp [SchemaFault.stage] at same
  | compositeType composite =>
      cases otherFails with
      | compositeType otherComposite =>
          rw [composite] at otherComposite
          cases otherComposite
          rfl
      | _ => simp [SchemaFault.stage] at same
  | severalScalarTypes =>
      cases otherFails with
      | severalScalarTypes => rfl
      | _ => simp [SchemaFault.stage] at same
  | unsupportedType =>
      cases otherFails with
      | unsupportedType => rfl
      | _ => simp [SchemaFault.stage] at same
  | integerDeclaredBoolean annotated =>
      cases otherFails with
      | integerDeclaredBoolean => rfl
      | booleanDeclaredAs boolean => simp [annotated] at boolean
      | _ => simp [SchemaFault.stage] at same
  | booleanDeclaredAs annotated declared =>
      cases otherFails with
      | booleanDeclaredAs _ otherDeclared =>
          have few := single (by simp [SchemaFault.stage])
          obtain ⟨type, sole⟩ := List.length_eq_one_iff.mp
            (Nat.le_antisymm few (List.length_pos_of_mem declared))
          rw [sole, List.mem_singleton] at declared otherDeclared
          rw [declared, otherDeclared]
      | integerDeclaredBoolean integer => simp [annotated] at integer
      | _ => simp [SchemaFault.stage] at same

/-- A field either has a slot or fails a check first. -/
theorem slot_outcome (field : FieldDeclaration) :
    (∃ slot, field.slot = .ok slot ∧ field.Mappable ∧ field.Slotted slot) ∨
      ∃ fault, field.slot = .error fault ∧ field.FailsFirst fault := by
  obtain ⟨name, annotation, scalarTypes, minimum?, maximum?, default?⟩ := field
  cases annotation with
  | missing => exact .inr ⟨_, rfl, .unannotated rfl, fun _ _ => Nat.zero_le _⟩
  | composite shown =>
      refine .inr ⟨_, rfl, .compositeType rfl, ?_⟩
      intro other fails
      cases fails with
      | unannotated missing => cases missing
      | _ => simp [SchemaFault.stage]
  | boolean =>
      match scalarTypes with
      | [] => exact .inl ⟨_, rfl, ⟨.inr rfl, by simp, by simp⟩, .boolean rfl⟩
      | [.boolean] => exact .inl ⟨_, rfl, ⟨.inr rfl, by simp, by simp⟩, .boolean rfl⟩
      | [.integer type] =>
          refine .inr ⟨_, rfl, .booleanDeclaredAs rfl List.mem_cons_self (by simp), ?_⟩
          intro other fails
          exact fails.three_le_stage (by simp) (by simp) (by simp)
      | _ :: _ :: _ =>
          refine .inr ⟨_, rfl, .severalScalarTypes (by simp), ?_⟩
          intro other fails
          exact fails.two_le_stage (by simp) (by simp)
  | integer =>
      match scalarTypes with
      | [] => exact .inl ⟨_, rfl, ⟨.inl rfl, by simp, by simp⟩, .plain rfl rfl⟩
      | [.integer type] => exact .inl ⟨_, rfl, ⟨.inl rfl, by simp, by simp⟩, .sized rfl rfl⟩
      | [.boolean] =>
          refine .inr ⟨_, rfl, .integerDeclaredBoolean rfl List.mem_cons_self, ?_⟩
          intro other fails
          exact fails.three_le_stage (by simp) (by simp) (by simp)
      | _ :: _ :: _ =>
          refine .inr ⟨_, rfl, .severalScalarTypes (by simp), ?_⟩
          intro other fails
          exact fails.two_le_stage (by simp) (by simp)
  | otherClass | anything =>
      match scalarTypes with
      | [] | [_] =>
          refine .inr ⟨_, rfl, .unsupportedType (by simp) (by simp), ?_⟩
          intro other fails
          exact fails.four_le_stage (by simp) (by simp) (by simp) (by simp) (by simp)
      | _ :: _ :: _ =>
          refine .inr ⟨_, rfl, .severalScalarTypes (by simp), ?_⟩
          intro other fails
          exact fails.two_le_stage (by simp) (by simp)

theorem slot_of_mappable (mappable : field.Mappable) : ∃ slot, field.slot = .ok slot := by
  rcases field.slot_outcome with ⟨slot, slotted, _⟩ | ⟨fault, _, failsFirst⟩
  · exact ⟨slot, slotted⟩
  · exact absurd failsFirst.fails (mappable.not_fails fault)

theorem slot_spec (slotted : field.slot = .ok slot) : field.Mappable ∧ field.Slotted slot := by
  rcases field.slot_outcome with ⟨own, ownSlotted, mapped⟩ | ⟨fault, failed, _⟩
  · rw [slotted] at ownSlotted
    cases ownSlotted
    exact mapped
  · rw [slotted] at failed
    cases failed

theorem slot_eq_error_iff : field.slot = .error fault ↔ field.FailsFirst fault := by
  rcases field.slot_outcome with ⟨slot, slotted, mappable, _⟩ | ⟨own, failed, failsFirst⟩
  · rw [slotted]
    constructor
    · intro failed
      cases failed
    · intro failsFirst
      exact absurd failsFirst.fails (mappable.not_fails fault)
  · rw [failed]
    constructor
    · intro same
      cases same
      exact failsFirst
    · intro again
      rw [failsFirst.unique again]

end FieldDeclaration

/-! ### The slots of some fields -/

/-- The slots of a class are those of its fields, each under the name of its field. -/
theorem slotsOfFields_eq_ok_iff {fields : List FieldDeclaration} {slots : List FieldSlot} :
    slotsOfFields fields = .ok slots ↔
      List.Forall₂ (fun field entry => entry.name = field.name ∧ field.slot = .ok entry.slot)
        fields slots := by
  constructor
  · intro listed
    induction fields generalizing slots with
    | nil =>
        cases listed
        exact .nil
    | cons field fields induction =>
        rw [slotsOfFields] at listed
        cases slotted : field.slot with
        | error fault =>
            rw [slotted] at listed
            cases listed
        | ok slot =>
            rw [slotted] at listed
            cases later : slotsOfFields fields with
            | error error =>
                rw [later] at listed
                cases listed
            | ok others =>
                rw [later] at listed
                cases listed
                exact .cons ⟨rfl, slotted⟩ (induction later)
  · intro slotted
    induction slotted with
    | nil => rfl
    | @cons field entry fields slots first _ induction =>
        rw [slotsOfFields, first.2, ← first.1, induction]
        rfl

theorem exists_slotsOfFields_iff {fields : List FieldDeclaration} :
    (∃ slots, slotsOfFields fields = .ok slots) ↔ ∀ field ∈ fields, field.Mappable := by
  constructor
  · rintro ⟨slots, listed⟩ field member
    obtain ⟨index, found⟩ := List.mem_iff_getElem?.mp member
    obtain ⟨entry, _, _, slotted⟩ :=
      Traversal.getElem?_of_forall₂ (slotsOfFields_eq_ok_iff.mp listed) found
    exact (FieldDeclaration.slot_spec slotted).1
  · intro mappable
    have each : ∀ field ∈ fields, ∃ entry : FieldSlot,
        entry.name = field.name ∧ field.slot = .ok entry.slot := by
      intro field member
      obtain ⟨slot, slotted⟩ := FieldDeclaration.slot_of_mappable (mappable field member)
      exact ⟨⟨field.name, slot⟩, rfl, slotted⟩
    obtain ⟨slots, slotted⟩ := Traversal.exists_forall₂ each
    exact ⟨slots, slotsOfFields_eq_ok_iff.mpr slotted⟩

theorem slotsOfFields_of_fails {before after : List FieldDeclaration} {field : FieldDeclaration}
    {fault : SchemaFault} (mappable : ∀ earlier ∈ before, earlier.Mappable)
    (failsFirst : field.FailsFirst fault) :
    slotsOfFields (before ++ field :: after) = .error (.schema field.name fault) := by
  induction before with
  | nil =>
      rw [List.nil_append, slotsOfFields, FieldDeclaration.slot_eq_error_iff.mpr failsFirst]
  | cons first before induction =>
      obtain ⟨slot, slotted⟩ :=
        FieldDeclaration.slot_of_mappable (mappable first List.mem_cons_self)
      have rest := induction (fun earlier member =>
        mappable earlier (List.mem_cons_of_mem first member))
      rw [List.cons_append, slotsOfFields, slotted, rest]
      rfl

/-- The first field that fails a check decides. -/
theorem slotsOfFields_eq_error_iff {fields : List FieldDeclaration} {error : RecordError} :
    slotsOfFields fields = .error error ↔
      ∃ before field after fault, fields = before ++ field :: after ∧
        (∀ earlier ∈ before, earlier.Mappable) ∧ field.FailsFirst fault ∧
        error = .schema field.name fault := by
  constructor
  · intro failed
    have unmappable : ∃ field ∈ fields, ¬ field.Mappable := by
      by_contra mappable
      obtain ⟨slots, listed⟩ := exists_slotsOfFields_iff.mpr (by simpa using mappable)
      rw [listed] at failed
      cases failed
    obtain ⟨before, field, after, rfl, passed, unmapped⟩ := Traversal.exists_first unmappable
    have mappable : ∀ earlier ∈ before, earlier.Mappable :=
      fun earlier member => not_not.mp (passed earlier member)
    rcases field.slot_outcome with ⟨slot, _, mapped, _⟩ | ⟨fault, _, failsFirst⟩
    · exact absurd mapped unmapped
    · rw [slotsOfFields_of_fails mappable failsFirst] at failed
      cases failed
      exact ⟨before, field, after, fault, rfl, mappable, failsFirst, rfl⟩
  · rintro ⟨before, field, after, fault, rfl, mappable, failsFirst, rfl⟩
    exact slotsOfFields_of_fails mappable failsFirst

theorem RecordClass.names_of_schema {recordClass : RecordClass} {slots : List FieldSlot}
    (schema : recordClass.schema = .ok slots) :
    slots.map (·.name) = recordClass.fields.map (·.name) := by
  symm
  apply Traversal.map_eq_map_of_forall₂ (slotsOfFields_eq_ok_iff.mp schema)
  intro field entry slotted
  exact slotted.1.symm

end StructCodec

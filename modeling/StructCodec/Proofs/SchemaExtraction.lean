import StructCodec.Proofs.Delivery
import StructCodec.Proofs.FieldSlots
import StructCodec.Proofs.RecordConstruction

/-!
# Which classes have a schema

The fields of a class stand where their names were declared first and are what was declared
last.  The class has a schema exactly if each of them has a slot, and its slots are a shape for
every format.
-/

namespace StructCodec

/-! ### The order of fields -/

/-- Fields in the order of their declarations: each name at the place of its first
declaration, and each field as it was declared last. -/
structure InDeclarationOrder (declared fields : List FieldDeclaration) : Prop where
  names : fields.map (·.name) = (declared.map (·.name)).eraseDups
  latest : ∀ field ∈ fields, ∃ before after, declared = before ++ field :: after ∧
    ∀ later ∈ after, later.name ≠ field.name

namespace RecordClass

/-- Nothing of the name is left but the new declaration. -/
theorem mem_declare {field other : FieldDeclaration} {fields : List FieldDeclaration}
    (distinct : (fields.map (·.name)).Nodup) (member : other ∈ declare field fields) :
    other = field ∨ other ∈ fields ∧ other.name ≠ field.name := by
  induction fields with
  | nil =>
      rw [declare, List.mem_singleton] at member
      exact .inl member
  | cons first fields induction =>
      obtain ⟨fresh, rest⟩ := List.nodup_cons.mp distinct
      rw [declare] at member
      split at member
      next same =>
        rcases List.mem_cons.mp member with here | later
        · exact .inl here
        · right
          refine ⟨List.mem_cons_of_mem first later, ?_⟩
          intro again
          have listed : other.name ∈ fields.map (·.name) := List.mem_map_of_mem later
          rw [again, ← same] at listed
          exact fresh listed
      next differs =>
        rcases List.mem_cons.mp member with rfl | later
        · exact .inr ⟨List.mem_cons_self, differs⟩
        · rcases induction rest later with own | ⟨earlier, otherName⟩
          · exact .inl own
          · exact .inr ⟨List.mem_cons_of_mem first earlier, otherName⟩

theorem inDeclarationOrder_foldl (declared : List FieldDeclaration) :
    InDeclarationOrder declared
      (declared.foldl (fun fields field => declare field fields) []) := by
  induction declared using List.reverseRecOn with
  | nil => exact ⟨rfl, by simp⟩
  | append_singleton declared field induction =>
      have empty : (([] : List FieldDeclaration).map (·.name)).Nodup := List.nodup_nil
      have distinct := nodup_names_foldl declared empty
      rw [List.foldl_append, List.foldl_cons, List.foldl_nil]
      constructor
      · rw [names_declare, induction.names, List.map_append, List.eraseDups_append,
          List.map_singleton, List.removeAll]
        by_cases known : field.name ∈ declared.map (·.name)
        · rw [if_pos (List.mem_eraseDups.mpr known), List.filter_cons_of_neg (by simpa using known)]
          exact (List.append_nil _).symm
        · rw [if_neg (fun member => known (List.mem_eraseDups.mp member)),
            List.filter_cons_of_pos (by simpa using known)]
          rfl
      · intro other member
        rcases mem_declare distinct member with rfl | ⟨earlier, differs⟩
        · exact ⟨declared, [], rfl, by simp⟩
        · obtain ⟨before, after, split, last⟩ := induction.latest other earlier
          refine ⟨before, after ++ [field], by simp [split], ?_⟩
          intro later position
          rcases List.mem_append.mp position with here | added
          · exact last later here
          · rw [List.mem_singleton.mp added]
            exact Ne.symm differs

theorem fields_inDeclarationOrder (recordClass : RecordClass) :
    InDeclarationOrder (recordClass.definitions.flatMap (·.fields)) recordClass.fields :=
  inDeclarationOrder_foldl _

end RecordClass

/-- The message about a field begins with its name. -/
theorem SchemaFault.message_names (field : String) (fault : SchemaFault) :
    ∃ rest, fault.message field = "Field " ++ field ++ rest := by
  cases fault with
  | unannotated | severalScalarTypes | integerDeclaredBoolean => exact ⟨_, rfl⟩
  | compositeType | booleanDeclaredAs | unsupportedType =>
      simp only [message, String.append_assoc]
      exact ⟨_, rfl⟩

/-- The slots of fields are a shape for every format. -/
theorem resolve_slots [Machine] (slots : List FieldSlot) (format : Format) :
    (ShapeRequest.slots (slots.map (fun entry => .slot entry.slot))).resolve format =
      .ok (.listed (slots.map (·.slot))) := by
  have declares := ShapeRequest.declares_slots format (slots.map (·.slot))
  rw [List.map_map] at declares
  exact declares.resolve_eq

/-- A class has a schema exactly if each of its fields, which stand in the order of their
declarations, can be mapped.  It has one slot for each field, in the same order and of the type
of the field, and these slots are a shape for every format.  Otherwise the first field that
fails a check is reported, with the first check that it fails. -/
theorem schema_extraction [Machine] (recordClass : RecordClass) :
    InDeclarationOrder (recordClass.definitions.flatMap (·.fields)) recordClass.fields ∧
    ((∃ slots, recordClass.schema = .ok slots) ↔
      ∀ field ∈ recordClass.fields, field.Mappable) ∧
    (∀ slots, recordClass.schema = .ok slots →
      List.Forall₂ (fun field entry => entry.name = field.name ∧ field.Slotted entry.slot)
        recordClass.fields slots ∧
      ∀ format : Format,
        (ShapeRequest.slots (slots.map (fun entry => .slot entry.slot))).resolve format =
          .ok (.listed (slots.map (·.slot)))) ∧
    (∀ error, recordClass.schema = .error error ↔
      ∃ before field after fault, recordClass.fields = before ++ field :: after ∧
        (∀ earlier ∈ before, earlier.Mappable) ∧ field.FailsFirst fault ∧
        error = .schema field.name fault) ∧
    ∀ name fault, (RecordError.schema name fault).kind = .library .schema ∧
      ∃ rest, (RecordError.schema name fault).message = "Field " ++ name ++ rest := by
  refine ⟨recordClass.fields_inDeclarationOrder, exists_slotsOfFields_iff, ?_,
    fun error => slotsOfFields_eq_error_iff, ?_⟩
  · intro slots schema
    refine ⟨?_, resolve_slots slots⟩
    apply (slotsOfFields_eq_ok_iff.mp schema).imp
    rintro field entry ⟨named, slotted⟩
    exact ⟨named, (FieldDeclaration.slot_spec slotted).2⟩
  · intro name fault
    exact ⟨rfl, fault.message_names name⟩

/-- A class whose base declares a level and a flag, and which declares the level again. -/
def redeclared : RecordClass :=
  { root := .checked
    ancestors := [
      { name := "Base"
        fields := [{ name := "level", annotation := .anything }, .flag "on"] }]
    own :=
      { name := "Derived"
        fields := [{ name := "count", annotation := .integer },
          .sized "level" ⟨.unsigned, .one⟩] } }

/-- The level stands at its first place and is sized as it was declared last. -/
def redeclaredSlots : List FieldSlot :=
  [⟨"level", .scalar (.integer ⟨.unsigned, .one⟩)⟩, ⟨"on", .boolean⟩, ⟨"count", .integer⟩]

open SmallMachine in
theorem schema_extraction_redeclared :
    redeclared.schema = .ok redeclaredSlots ∧
      (∀ field ∈ redeclared.fields, field.Mappable) ∧
      List.Forall₂ (fun field entry => entry.name = field.name ∧ field.Slotted entry.slot)
        redeclared.fields redeclaredSlots := by
  have schema : redeclared.schema = .ok redeclaredSlots := rfl
  obtain ⟨_, mappable, slotted, _⟩ := schema_extraction redeclared
  exact ⟨schema, mappable.mp ⟨_, schema⟩, (slotted _ schema).1⟩

end StructCodec

import Mathlib.Data.List.Nodup
import StructCodec.Record.Basic

/-!
# Making records

The fields of a class have names of their own.  So a value for each field, under its name, is
checked against that field, and whatever is wrong with the record is wrong with one of these
values.
-/

namespace StructCodec

/-! ### Names -/

namespace RecordClass

theorem names_declare (field : FieldDeclaration) (fields : List FieldDeclaration) :
    (declare field fields).map (·.name) =
      if field.name ∈ fields.map (·.name) then fields.map (·.name)
      else fields.map (·.name) ++ [field.name] := by
  induction fields with
  | nil => rfl
  | cons other fields induction =>
      rw [declare]
      by_cases same : other.name = field.name
      · simp [same]
      · rw [if_neg same, List.map_cons, List.map_cons, induction]
        by_cases declared : field.name ∈ fields.map (·.name)
        · rw [if_pos declared, if_pos (List.mem_cons_of_mem other.name declared)]
        · have fresh : field.name ∉ other.name :: fields.map (·.name) := by
            rw [List.mem_cons, not_or]
            exact ⟨Ne.symm same, declared⟩
          rw [if_neg declared, if_neg fresh, List.cons_append]

theorem nodup_names_declare (field : FieldDeclaration) {fields : List FieldDeclaration}
    (distinct : (fields.map (·.name)).Nodup) :
    ((declare field fields).map (·.name)).Nodup := by
  rw [names_declare]
  split
  next => exact distinct
  next fresh =>
    rw [← List.concat_eq_append]
    exact distinct.concat fresh

theorem nodup_names_foldl (added : List FieldDeclaration) {fields : List FieldDeclaration}
    (distinct : (fields.map (·.name)).Nodup) :
    ((added.foldl (fun fields field => declare field fields) fields).map (·.name)).Nodup := by
  induction added generalizing fields with
  | nil => exact distinct
  | cons field added induction => exact induction (nodup_names_declare field distinct)

/-- No two fields of a class have the same name. -/
theorem nodup_names (recordClass : RecordClass) :
    (recordClass.fields.map (·.name)).Nodup :=
  nodup_names_foldl _ List.nodup_nil

end RecordClass

namespace Record

variable {Held : Type} {entries : List (String × Held)}

theorem put_of_fresh {name : String} (held : Held) (fresh : name ∉ entries.map (·.1)) :
    put name held entries = entries ++ [(name, held)] := by
  induction entries with
  | nil => rfl
  | cons entry entries induction =>
      rw [List.map_cons, List.mem_cons, not_or] at fresh
      rw [put, if_neg (Ne.symm fresh.1), induction fresh.2]
      rfl

theorem foldl_put_of_nodup (before rest : List (String × Held))
    (distinct : ((before ++ rest).map (·.1)).Nodup) :
    rest.foldl (fun entries entry => put entry.1 entry.2 entries) before = before ++ rest := by
  induction rest generalizing before with
  | nil => exact (List.append_nil before).symm
  | cons entry rest induction =>
      have fresh : entry.1 ∉ before.map (·.1) := by
        rw [List.map_append, List.map_cons] at distinct
        intro member
        exact (List.nodup_append.mp distinct).2.2 _ member _ List.mem_cons_self rfl
      have moved : before ++ entry :: rest = before ++ [(entry.1, entry.2)] ++ rest := by
        rw [List.append_assoc]
        rfl
      rw [moved] at distinct ⊢
      rw [List.foldl_cons, put_of_fresh entry.2 fresh]
      exact induction _ distinct

theorem byName_of_nodup {given : List (String × Value)}
    (distinct : (given.map (·.1)).Nodup) : byName given = given :=
  foldl_put_of_nodup [] given distinct

theorem lookup_of_nodup {entry : String × Held} (distinct : (entries.map (·.1)).Nodup)
    (member : entry ∈ entries) : entries.lookup entry.1 = some entry.2 := by
  obtain ⟨before, after, rfl⟩ := List.append_of_mem member
  apply List.lookup_eq_some_iff.mpr
  refine ⟨before, after, rfl, ?_⟩
  intro earlier memberEarlier
  rw [List.map_append, List.map_cons] at distinct
  have listed : earlier.1 ∈ before.map (·.1) := List.mem_map_of_mem memberEarlier
  apply bne_iff_ne.mpr
  exact ((List.nodup_append.mp distinct).2.2 _ listed _ List.mem_cons_self).symm

end Record

/-! ### Making records -/

namespace Record

variable {recordClass : RecordClass} {given : List (String × Value)}

theorem fillAll_cons {field : FieldDeclaration} {fields : List FieldDeclaration} {value : Value}
    (found : given.lookup field.name = some value) :
    fillAll given (field :: fields) =
      match field.validate value with
      | .ok valid => (fillAll given fields).map (fun filled =>
          ((field.name, ⟨valid, false⟩) :: filled.1, filled.2))
      | .error (.problem problem) => (fillAll given fields).map (fun filled =>
          (filled.1, ⟨field.name, problem⟩ :: filled.2))
      | .error (.incomparable refused) => .error refused := by
  simp only [fillAll, fill, found]
  cases field.validate value with
  | ok valid => rfl
  | error refusal => cases refusal <;> rfl

theorem unexpectedNames_eq_nil {fields : List FieldDeclaration}
    (known : given.map (·.1) = fields.map (·.name)) : unexpectedNames fields given = [] := by
  rw [unexpectedNames, known]
  apply List.filter_eq_nil_iff.mpr
  intro name member
  obtain ⟨field, declared, rfl⟩ := List.mem_map.mp member
  simp only [Bool.not_eq_true', Bool.not_eq_false, List.any_eq_true, decide_eq_true_eq]
  exact ⟨field, declared, rfl⟩

/-- Values under the names of the fields, in the order of the fields, make a record unless there
is a problem with one of them. -/
theorem make_of_named (named : given.map (·.1) = recordClass.fields.map (·.name)) :
    make recordClass given =
      match fillAll given recordClass.fields with
      | .error refused => .error (.incomparable refused)
      | .ok (held, []) => .ok { fields := held }
      | .ok (_, error :: errors) => .error (.invalid (error :: errors)) := by
  have distinct : (given.map (·.1)).Nodup := by
    rw [named]
    exact recordClass.nodup_names
  have expected : unexpectedErrors recordClass given = [] := by
    rw [unexpectedErrors, unexpectedNames_eq_nil named]
    cases recordClass.root <;> rfl
  rw [make, byName_of_nodup distinct]
  cases fillAll given recordClass.fields with
  | error refused => rfl
  | ok filled =>
      obtain ⟨held, errors⟩ := filled
      simp only [Except.mapError, bind, Except.bind, expected, List.append_nil]
      cases errors <;> rfl

end Record

end StructCodec

import Mathlib.Data.List.Forall2
import Mathlib.Data.List.ReduceOption

/-!
# Traversals that stop at the first failure

A traversal of a list succeeds with the results of all its items, or fails with
the error of the first item that fails.
-/

namespace StructCodec.Traversal

variable {α β ε : Type}

theorem exists_of_bind {first : Except ε α} {next : α → Except ε β} {result : β}
    (succeeded : first >>= next = .ok result) :
    ∃ value, first = .ok value ∧ next value = .ok result := by
  cases first with
  | error error => cases succeeded
  | ok value => exact ⟨value, rfl, succeeded⟩

theorem eq_ok_of_mapError {ε₂ : Type} {outcome : Except ε α} {explain : ε → ε₂} {result : α}
    (succeeded : outcome.mapError explain = .ok result) : outcome = .ok result := by
  cases outcome with
  | error error => cases succeeded
  | ok value =>
      cases succeeded
      rfl

theorem mapM_eq_ok_iff {visit : α → Except ε β} {items : List α} {results : List β} :
    items.mapM visit = .ok results ↔
      List.Forall₂ (fun item result => visit item = .ok result) items results := by
  induction items generalizing results with
  | nil =>
      rw [List.mapM_nil, List.forall₂_nil_left_iff]
      constructor
      · intro success
        cases success
        rfl
      · rintro rfl
        rfl
  | cons item items induction =>
      rw [List.mapM_cons, List.forall₂_cons_left_iff]
      cases first : visit item with
      | error error => simp [bind, Except.bind]
      | ok result =>
          cases others : items.mapM visit with
          | error error =>
              constructor
              · intro success
                cases success
              · rintro ⟨head, tail, _, related, _⟩
                rw [induction.mpr related] at others
                cases others
          | ok tail =>
              have related := induction.mp others
              constructor
              · intro success
                cases success
                exact ⟨result, tail, rfl, related, rfl⟩
              · rintro ⟨head, others', same, related', rfl⟩
                cases same
                have sameTail := induction.mpr related'
                rw [others] at sameTail
                cases sameTail
                rfl

/-- A traversal fails with the error of an item that fails behind items that do
not. -/
theorem mapM_eq_error {visit : α → Except ε β} {before : List α} {item : α} {error : ε}
    (passed : ∀ earlier ∈ before, ∃ result, visit earlier = .ok result)
    (failed : visit item = .error error) (after : List α) :
    (before ++ item :: after).mapM visit = .error error := by
  induction before with
  | nil =>
      rw [List.nil_append, List.mapM_cons, failed]
      rfl
  | cons first before induction =>
      obtain ⟨result, success⟩ := passed first List.mem_cons_self
      have rest := induction (fun earlier member =>
        passed earlier (List.mem_cons_of_mem first member))
      rw [List.cons_append, List.mapM_cons, success, rest]
      rfl

/-- A traversal stops at the item at a position: that item fails, and none before it does. -/
structure StopsAt (visit : α → Except ε β) (items : List α) (position : Nat) (error : ε) :
    Prop where
  failed : ∃ item, items[position]? = some item ∧ visit item = .error error
  passed : ∀ earlier < position, ∀ item, items[earlier]? = some item →
    ∃ result, visit item = .ok result

theorem StopsAt.of_failed {visit : α → Except ε β} {item : α} {error : ε}
    (failed : visit item = .error error) (items : List α) :
    StopsAt visit (item :: items) 0 error := by
  refine ⟨⟨item, rfl, failed⟩, ?_⟩
  intro earlier before
  exact absurd before (Nat.not_lt_zero earlier)

theorem stopsAt_succ_iff {visit : α → Except ε β} {item : α} {result : β} {items : List α}
    {position : Nat} {error : ε} (success : visit item = .ok result) :
    StopsAt visit (item :: items) (position + 1) error ↔ StopsAt visit items position error := by
  constructor
  · rintro ⟨failed, passed⟩
    refine ⟨failed, ?_⟩
    intro earlier before
    exact passed (earlier + 1) (Nat.succ_lt_succ before)
  · rintro ⟨failed, passed⟩
    refine ⟨failed, ?_⟩
    intro earlier before other found
    cases earlier with
    | zero =>
        cases found
        exact ⟨result, success⟩
    | succ earlier => exact passed earlier (Nat.lt_of_succ_lt_succ before) other found

theorem mapM_congr {left right : α → Except ε β} {items : List α}
    (same : ∀ item ∈ items, left item = right item) : items.mapM left = items.mapM right := by
  induction items with
  | nil => rfl
  | cons item items induction =>
      have rest := induction (fun later member => same later (List.mem_cons_of_mem item member))
      rw [List.mapM_cons, List.mapM_cons, same item List.mem_cons_self, rest]

theorem mapM_cons_eq_error_iff {visit : α → Except ε β} {item : α} {result : β}
    {items : List α} {error : ε} (success : visit item = .ok result) :
    (item :: items).mapM visit = .error error ↔ items.mapM visit = .error error := by
  rw [List.mapM_cons, success]
  cases items.mapM visit <;> simp [bind, Except.bind, pure, Except.pure]

/-- A traversal fails exactly if it stops at some item, with the error of that item. -/
theorem mapM_eq_error_iff {visit : α → Except ε β} {items : List α} {error : ε} :
    items.mapM visit = .error error ↔ ∃ position, StopsAt visit items position error := by
  induction items with
  | nil =>
      constructor
      · intro failed
        cases failed
      · rintro ⟨position, ⟨item, found, _⟩, _⟩
        cases found
  | cons item items induction =>
      cases first : visit item with
      | error own =>
          have stopped : (item :: items).mapM visit = .error own := by
            rw [List.mapM_cons, first]
            rfl
          rw [stopped]
          constructor
          · intro failed
            cases failed
            exact ⟨0, .of_failed first items⟩
          · rintro ⟨position, stops⟩
            cases position with
            | zero =>
                obtain ⟨other, found, failed⟩ := stops.failed
                cases found
                rw [first] at failed
                cases failed
                rfl
            | succ position =>
                obtain ⟨result, success⟩ := stops.passed 0 (Nat.succ_pos position) item rfl
                rw [first] at success
                cases success
      | ok result =>
          rw [mapM_cons_eq_error_iff first, induction]
          constructor
          · rintro ⟨position, stops⟩
            exact ⟨position + 1, (stopsAt_succ_iff first).mpr stops⟩
          · rintro ⟨position, stops⟩
            cases position with
            | zero =>
                obtain ⟨other, found, failed⟩ := stops.failed
                cases found
                rw [first] at failed
                cases failed
            | succ position => exact ⟨position, (stopsAt_succ_iff first).mp stops⟩

/-- An item with a property stands behind items that do not have it. -/
theorem exists_first {holds : α → Prop} {items : List α}
    (present : ∃ item ∈ items, holds item) :
    ∃ before item after, items = before ++ item :: after ∧
      (∀ earlier ∈ before, ¬ holds earlier) ∧ holds item := by
  classical
  obtain ⟨item, member, found⟩ := present
  cases search : items.find? (fun item => decide (holds item)) with
  | none =>
      have missing := List.find?_eq_none.mp search item member
      simp [found] at missing
  | some first =>
      obtain ⟨found, before, after, split, skipped⟩ :=
        List.find?_eq_some_iff_append.mp search
      refine ⟨before, first, after, split, ?_, by simpa using found⟩
      intro earlier member
      simpa using skipped earlier member

/-- Either no item fails in any way, or a first item fails. -/
theorem first_failure_or_none (fails : α → β → Prop) (items : List α) :
    (∃ before item after failure, items = before ++ item :: after ∧
      (∀ earlier ∈ before, ∀ failure, ¬ fails earlier failure) ∧ fails item failure) ∨
    ∀ item ∈ items, ∀ failure, ¬ fails item failure := by
  by_cases failing : ∃ item ∈ items, ∃ failure, fails item failure
  · left
    obtain ⟨before, item, after, split, passed, failure, fails⟩ := exists_first failing
    refine ⟨before, item, after, failure, split, ?_, fails⟩
    intro earlier member failure earlierFails
    exact passed earlier member ⟨failure, earlierFails⟩
  · right
    intro item member failure fails
    exact failing ⟨item, member, failure, fails⟩

theorem exists_forall₂ {related : α → β → Prop} {items : List α}
    (each : ∀ item ∈ items, ∃ result, related item result) :
    ∃ results, List.Forall₂ related items results := by
  induction items with
  | nil => exact ⟨[], .nil⟩
  | cons item items induction =>
      obtain ⟨result, first⟩ := each item List.mem_cons_self
      obtain ⟨results, rest⟩ := induction (fun later member =>
        each later (List.mem_cons_of_mem item member))
      exact ⟨result :: results, .cons first rest⟩

theorem imp_of_mem {related implied : α → β → Prop} {items : List α} {results : List β}
    (implies : ∀ item ∈ items, ∀ result, related item result → implied item result)
    (pairs : List.Forall₂ related items results) : List.Forall₂ implied items results := by
  induction pairs with
  | nil => exact .nil
  | @cons item result items results first _ induction =>
      have rest := induction (fun later member =>
        implies later (List.mem_cons_of_mem item member))
      exact .cons (implies item List.mem_cons_self result first) rest

theorem forall₂_iff_getElem? {related : α → β → Prop} {items : List α} {results : List β} :
    List.Forall₂ related items results ↔
      items.length = results.length ∧
        ∀ (index : Nat) (item : α) (result : β), items[index]? = some item →
          results[index]? = some result → related item result := by
  rw [List.forall₂_iff_get]
  constructor
  · rintro ⟨length_eq, pointwise⟩
    refine ⟨length_eq, ?_⟩
    intro index item result foundItem foundResult
    obtain ⟨itemInside, rfl⟩ := List.getElem?_eq_some_iff.mp foundItem
    obtain ⟨resultInside, rfl⟩ := List.getElem?_eq_some_iff.mp foundResult
    exact pointwise index itemInside resultInside
  · rintro ⟨length_eq, pointwise⟩
    refine ⟨length_eq, ?_⟩
    intro index itemInside resultInside
    exact pointwise index _ _ (List.getElem?_eq_getElem itemInside)
      (List.getElem?_eq_getElem resultInside)

/-- A condition on top of a relation is one on the items at the same place. -/
theorem forall₂_and_iff {related base also : α → β → Prop} {items : List α}
    {results : List β}
    (both : ∀ item result, related item result ↔ base item result ∧ also item result) :
    List.Forall₂ related items results ↔
      List.Forall₂ base items results ∧
        ∀ (index : Nat) (item : α) (result : β), items[index]? = some item →
          results[index]? = some result → also item result := by
  rw [forall₂_iff_getElem?, forall₂_iff_getElem?]
  constructor
  · rintro ⟨length_eq, pointwise⟩
    refine ⟨⟨length_eq, ?_⟩, ?_⟩
    · intro index item result foundItem foundResult
      exact ((both _ _).mp (pointwise index item result foundItem foundResult)).1
    · intro index item result foundItem foundResult
      exact ((both _ _).mp (pointwise index item result foundItem foundResult)).2
  · rintro ⟨⟨length_eq, pointwise⟩, added⟩
    refine ⟨length_eq, ?_⟩
    intro index item result foundItem foundResult
    apply (both _ _).mpr
    exact ⟨pointwise index item result foundItem foundResult,
      added index item result foundItem foundResult⟩

theorem getElem?_of_forall₂ {related : α → β → Prop} {items : List α} {results : List β}
    {index : Nat} {item : α} (pairs : List.Forall₂ related items results)
    (found : items[index]? = some item) :
    ∃ result, results[index]? = some result ∧ related item result := by
  obtain ⟨length_eq, pointwise⟩ := forall₂_iff_getElem?.mp pairs
  have inside : index < results.length := by
    rw [← length_eq]
    exact (List.getElem?_eq_some_iff.mp found).1
  have present := List.getElem?_eq_getElem inside
  exact ⟨results[index], present, pointwise index item _ found present⟩

theorem forall₂_append_iff {related : α → β → Prop} {before after : List α}
    {results : List β} :
    List.Forall₂ related (before ++ after) results ↔
      ∃ front back, List.Forall₂ related before front ∧ List.Forall₂ related after back ∧
        results = front ++ back := by
  constructor
  · intro pairs
    induction before generalizing results with
    | nil => exact ⟨[], results, .nil, pairs, rfl⟩
    | cons item before induction =>
        obtain ⟨result, others, first, rest, rfl⟩ := List.forall₂_cons_left_iff.mp pairs
        obtain ⟨front, back, frontPairs, backPairs, rfl⟩ := induction rest
        exact ⟨result :: front, back, .cons first frontPairs, backPairs, rfl⟩
  · rintro ⟨front, back, frontPairs, backPairs, rfl⟩
    exact List.rel_append frontPairs backPairs

theorem eq_map_of_forall₂ {related : α → β → Prop} {determined : α → β} {items : List α}
    {results : List β} (pairs : List.Forall₂ related items results)
    (unique : ∀ item ∈ items, ∀ result, related item result → result = determined item) :
    results = items.map determined := by
  induction pairs with
  | nil => rfl
  | @cons item result items results first _ induction =>
      have rest := induction (fun later member =>
        unique later (List.mem_cons_of_mem item member))
      rw [List.map_cons, unique item List.mem_cons_self result first, rest]

theorem map_eq_map_of_forall₂ {γ : Type} {related : α → β → Prop} {left : α → γ}
    {right : β → γ} {items : List α} {results : List β}
    (pairs : List.Forall₂ related items results)
    (same : ∀ item result, related item result → left item = right result) :
    items.map left = results.map right := by
  induction pairs with
  | nil => rfl
  | cons first _ induction => rw [List.map_cons, List.map_cons, same _ _ first, induction]

/-- A traversal that joins the lists that its items result in. -/
def gather (visit : α → Except ε (List β)) (items : List α) : Except ε (List β) :=
  (items.mapM visit).map List.flatten

theorem gather_cons (visit : α → Except ε (List β)) (item : α) (items : List α) :
    gather visit (item :: items) =
      visit item >>= fun front => (gather visit items).map (front ++ ·) := by
  rw [gather, gather, List.mapM_cons]
  cases visit item with
  | error error => rfl
  | ok front => cases items.mapM visit <;> rfl

theorem mapError_gather {η : Type} (relabel : ε → η) (visit : α → Except ε (List β))
    (items : List α) :
    (gather visit items).mapError relabel =
      gather (fun item => (visit item).mapError relabel) items := by
  induction items with
  | nil => rfl
  | cons item items induction =>
      rw [gather_cons, gather_cons, ← induction]
      cases visit item with
      | error error => rfl
      | ok front => cases gather visit items <;> rfl

theorem map_reduceOption_mapM (visit : α → Except ε (Option β)) (items : List α) :
    (items.mapM visit).map List.reduceOption =
      gather (fun item => (visit item).map Option.toList) items := by
  induction items with
  | nil => rfl
  | cons item items induction =>
      rw [gather_cons, ← induction, List.mapM_cons]
      cases visit item with
      | error error => rfl
      | ok result =>
          cases items.mapM visit with
          | error error => rfl
          | ok results => cases result <;> rfl

end StructCodec.Traversal

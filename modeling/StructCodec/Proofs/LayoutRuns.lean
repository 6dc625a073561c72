import StructCodec.Layout.Notes
import StructCodec.Proofs.PackedForm
import StructCodec.Proofs.Runs

/-!
# Layouts through any run

The parts of a layout are attributes of it from the start, and an attribute is never assigned
again.  So whatever is asked of a layout, its parts stay as they were made, packing and
unpacking by it are packing and unpacking by its format, and a note keeps the value that it
was given first.
-/

namespace StructCodec

/-- Whether a name has two underscores at either end, and something between them. -/
def Text.isDunderName (name : String) : Bool :=
  ['_', '_'].isPrefixOf name.toList && ['_', '_'].isSuffixOf name.toList &&
    4 < name.toList.length

theorem AttributeFault.ofReserved?_eq_none {name : String}
    (ordinary : Text.isDunderName name = false) (value : Value) :
    ofReserved? name value = none := by
  unfold ofReserved?
  split
  · exact absurd ordinary (by decide)
  · exact absurd ordinary (by decide)
  · exact absurd ordinary (by decide)
  · rfl

/-- Public names alone stand for others. -/
theorem Layout.keptName_of_private {name : String}
    (isPrivate : Text.isPrivateName name = true) : keptName name = name := by
  unfold keptName
  split <;> first | exact absurd isPrivate (by decide) | rfl

theorem Layout.lookup_parts_eq_none_iff {layout : Layout} {name : String} :
    layout.parts.lookup name = none ↔ name ∉ ownNames := by
  simp [List.lookup_eq_none_iff, parts, ownNames]

namespace NotedLayout

variable {noted : NotedLayout} {step : LayoutStep} {name : String} {value : Value}

/-! ### One step -/

theorem set_refused [Machine]
    (taken : ¬(Text.isPrivateName name = true ∧ noted.attributes.lookup name = none)) :
    noted.step (.set name value) = (.noAttribute (.readOnly name), noted) := by
  have refused : noted.set name value = .error (.readOnly name) := if_neg taken
  rw [NotedLayout.step, refused]

/-- What the codec answers is never that an assignment was made. -/
theorem answer_ne_done {α : Type} {wrap : α → LayoutAnswer}
    (never : ∀ result, wrap result ≠ .done) (outcome : Except CodecError α) :
    answer wrap outcome ≠ .done := by
  cases outcome with
  | ok result => exact never result
  | error error => exact LayoutAnswer.noConfusion

theorem answerRead_ne_done {α : Type} {wrap : α → LayoutAnswer}
    (never : ∀ found, wrap found ≠ .done) (outcome : Except AttributeFault α) :
    answerRead wrap outcome ≠ .done := by
  cases outcome with
  | ok found => exact never found
  | error fault => exact LayoutAnswer.noConfusion

/-- A step is an assignment that succeeds, or it changes nothing. -/
theorem step_cases [Machine] (noted : NotedLayout) (step : LayoutStep) :
    (∃ name value, step = .set name value ∧ Text.isPrivateName name = true ∧
      noted.attributes.lookup name = none ∧ AttributeFault.ofReserved? name value = none ∧
      (noted.step step).1 = .done ∧
      (noted.step step).2.attributes = (name, .plain value) :: noted.attributes) ∨
    (noted.step step).2 = noted ∧ (noted.step step).1 ≠ .done := by
  cases step with
  | describe => exact .inr ⟨rfl, answerRead_ne_done (fun _ => LayoutAnswer.noConfusion) _⟩
  | get name => exact .inr ⟨rfl, answerRead_ne_done (fun _ => LayoutAnswer.noConfusion) _⟩
  | pack | unpack | unpackSingle =>
      right
      refine ⟨rfl, answerRead_ne_done (fun _ => ?_) _⟩
      exact answer_ne_done (fun _ => LayoutAnswer.noConfusion) _
  | set name value =>
      by_cases fresh : Text.isPrivateName name = true ∧ noted.attributes.lookup name = none
      · cases reserved : AttributeFault.ofReserved? name value with
        | some fault =>
            right
            simp [NotedLayout.step, set, fresh, reserved]
        | none =>
            left
            refine ⟨name, value, rfl, fresh.1, fresh.2, reserved, ?_⟩
            simp [NotedLayout.step, set, fresh, reserved]
      · right
        rw [set_refused fresh]
        exact ⟨rfl, LayoutAnswer.noConfusion⟩

/-- After a step there is what was there before, and what the step assigned. -/
theorem lookup_step [Machine] {held : LayoutAttribute} :
    (noted.step step).2.attributes.lookup name = some held ↔
      noted.attributes.lookup name = some held ∨
      ∃ value, held = .plain value ∧ step = .set name value ∧ (noted.step step).1 = .done := by
  obtain ⟨own, given, rfl, _, fresh, _, accepted, attached⟩ | ⟨unchanged, notDone⟩ :=
    noted.step_cases step
  · rw [attached, List.lookup_cons]
    by_cases same : name = own
    · subst same
      rw [beq_self_eq_true, fresh]
      constructor
      · intro found
        cases found
        exact .inr ⟨given, rfl, rfl, accepted⟩
      · rintro (absent | ⟨value, rfl, assigned, _⟩)
        · cases absent
        · cases assigned
          rfl
    · rw [beq_false_of_ne same]
      constructor
      · exact .inl
      · rintro (found | ⟨value, _, assigned, _⟩)
        · exact found
        · cases assigned
          exact absurd rfl same
  · rw [unchanged]
    constructor
    · exact .inl
    · rintro (found | ⟨_, _, _, accepted⟩)
      · exact found
      · exact absurd accepted notDone

/-- An assignment is accepted exactly if the name is private and not taken. -/
theorem set_done_iff [Machine] (ordinary : AttributeFault.ofReserved? name value = none) :
    (noted.step (.set name value)).1 = .done ↔
      Text.isPrivateName name = true ∧ noted.attributes.lookup name = none := by
  constructor
  · intro accepted
    obtain ⟨own, given, assigned, isPrivate, fresh, _⟩ | ⟨_, notDone⟩ :=
      noted.step_cases (.set name value)
    · cases assigned
      exact ⟨isPrivate, fresh⟩
    · exact absurd accepted notDone
  · intro fresh
    simp [NotedLayout.step, set, fresh, ordinary]

/-! ### Runs -/

open Runs

/-- A run has assigned a value to a name: at one of its steps the assignment was asked for
and accepted. -/
def Assigned [Machine] (noted : NotedLayout) (steps : List LayoutStep) (name : String)
    (value : Value) : Prop :=
  ∃ (position : Nat) (next : NotedLayout), steps[position]? = some (.set name value) ∧
    (noted.run steps)[position]? = some (.done, next)

theorem assigned_cons_iff [Machine] {first : LayoutStep} {steps : List LayoutStep} :
    noted.Assigned (first :: steps) name value ↔
      first = .set name value ∧ (noted.step first).1 = .done ∨
      (noted.step first).2.Assigned steps name value := by
  constructor
  · rintro ⟨position, next, asked, answered⟩
    cases position with
    | zero =>
        left
        exact ⟨Option.some.inj asked, congrArg Prod.fst (Option.some.inj answered)⟩
    | succ position => exact .inr ⟨position, next, asked, answered⟩
  · rintro (⟨asked, accepted⟩ | ⟨position, next, asked, answered⟩)
    · exact ⟨0, (noted.step first).2, congrArg some asked,
        congrArg some (Prod.ext accepted rfl)⟩
    · exact ⟨position + 1, next, asked, answered⟩

/-- After a run there is what was there before, and what the run assigned. -/
theorem lookup_after [Machine] {noted : NotedLayout} {steps : List LayoutStep}
    {held : LayoutAttribute} :
    (after NotedLayout.step noted steps).attributes.lookup name = some held ↔
      noted.attributes.lookup name = some held ∨
      ∃ value, held = .plain value ∧ noted.Assigned steps name value := by
  -- By induction on the steps, from whatever the first of them leaves: what is there is kept,
  -- and each step adds at most what it assigns.
  induction steps generalizing noted with
  | nil =>
      constructor
      · exact .inl
      · rintro (found | ⟨_, _, _, _, asked, _⟩)
        · exact found
        · cases asked
  | cons first steps induction =>
      rw [after_cons, induction, lookup_step, or_assoc, ← exists_or]
      simp only [assigned_cons_iff, ← and_or_left]

theorem lookup_after_eq_none_iff [Machine] {noted : NotedLayout} {steps : List LayoutStep} :
    (after NotedLayout.step noted steps).attributes.lookup name = none ↔
      noted.attributes.lookup name = none ∧ ∀ value, ¬noted.Assigned steps name value := by
  simp only [Option.eq_none_iff_forall_ne_some, ne_eq, lookup_after, not_or, not_exists,
    not_and, forall_and]
  exact and_congr_right fun _ => ⟨fun fresh value => fresh _ value rfl,
    fun fresh _ value _ => fresh value⟩

/-- Only private names are assigned. -/
theorem isPrivateName_of_assigned [Machine] {noted : NotedLayout} {steps : List LayoutStep}
    (assigned : noted.Assigned steps name value) : Text.isPrivateName name = true := by
  induction steps generalizing noted with
  | nil =>
      obtain ⟨_, _, asked, _⟩ := assigned
      cases asked
  | cons first steps induction =>
      rcases assigned_cons_iff.mp assigned with ⟨rfl, accepted⟩ | later
      · obtain ⟨_, _, same, isPrivate, _⟩ | ⟨_, notDone⟩ := noted.step_cases (.set name value)
        · cases same
          exact isPrivate
        · exact absurd accepted notDone
      · exact induction later

/-- A name that can be given to a note after a run: it is private, none of the parts of the
layout has it, and the run has not assigned it. -/
def FreeAfter [Machine] (layout : Layout) (steps : List LayoutStep) (name : String) : Prop :=
  Text.isPrivateName name = true ∧ name ∉ Layout.ownNames ∧
    ∀ value, ¬(ofLayout layout).Assigned steps name value

theorem freeAfter_iff [Machine] {layout : Layout} {steps : List LayoutStep} :
    FreeAfter layout steps name ↔ Text.isPrivateName name = true ∧
      (after NotedLayout.step (ofLayout layout) steps).attributes.lookup name = none := by
  rw [lookup_after_eq_none_iff, FreeAfter, ← @Layout.lookup_parts_eq_none_iff layout]
  rfl

/-! ### What a layout shows -/

/-- The parts of a layout are attributes. -/
def Keeps (noted : NotedLayout) (layout : Layout) : Prop :=
  ∀ name part, layout.parts.lookup name = some part → noted.attributes.lookup name = some part

theorem keeps_step [Machine] {layout : Layout} (keeps : noted.Keeps layout) (step : LayoutStep) :
    (noted.step step).2.Keeps layout :=
  fun name part own => lookup_step.mpr (.inl (keeps name part own))

/-- No run changes the parts. -/
theorem keeps_after [Machine] (layout : Layout) (steps : List LayoutStep) :
    (after NotedLayout.step (ofLayout layout) steps).Keeps layout := by
  have preserved : ∀ (noted : NotedLayout) (step : LayoutStep), noted.Keeps layout →
      (noted.step step).2.Keeps layout := fun _ step keeps => keeps_step keeps step
  exact holds_after preserved (fun _ _ own => own) steps

/-- The layout shows the parts of a layout without notes. -/
structure Shows (noted : NotedLayout) (layout : Layout) : Prop where
  shown : noted.summary.map Layout.Summary.shown = .ok layout.shown
  format : noted.get "fmt" = .ok (.plain (.text layout.text))
  options : noted.get "options" = .ok (.options layout.options)
  directives : noted.get "directives" = .ok (.directives layout.format)
  fields : noted.get "fields" = .ok (.fields layout.fields)
  padCount : noted.get "pad_count" = .ok (.plain (.integer layout.padCount))
  size : noted.get "size" = .ok (.plain (.integer layout.size))
  fieldCount : noted.get "field_count" = .ok (.plain (.integer layout.fieldCount))

theorem get_of_lookup (unlike : name ≠ "field_count") {found : LayoutAttribute}
    (kept : noted.attributes.lookup (Layout.keptName name) = some found) :
    noted.get name = .ok found := by
  rw [get, if_neg unlike, kept]

section Kept

variable {layout : Layout} (keeps : noted.Keeps layout)

include keeps

theorem Keeps.kept_eq (name : String) (part : LayoutAttribute)
    (own : layout.parts.lookup name = some part) : noted.kept name = .ok part := by
  rw [kept, keeps name part own]

theorem Keeps.codec_eq : noted.codec = .ok (layout.options, layout.text) := by
  rw [codec, keeps.kept_eq "_options" (.options layout.options) rfl,
    keeps.kept_eq "_fmt" (.plain (.text layout.text)) rfl]
  rfl

theorem Keeps.summary_eq : noted.summary = .ok layout.summary := by
  rw [summary, keeps.codec_eq, keeps.kept_eq "_directives" (.directives layout.format) rfl,
    keeps.kept_eq "_fields" (.fields layout.fields) rfl,
    keeps.kept_eq "_pad_count" (.plain (.integer layout.padCount)) rfl,
    keeps.kept_eq "_size" (.plain (.integer layout.size)) rfl]
  rfl

theorem Keeps.fieldCount_eq : noted.fieldCount = .ok layout.fieldCount := by
  rw [fieldCount, keeps.kept_eq "_fields" (.fields layout.fields) rfl]
  exact congrArg Except.ok (Format.length_fields layout.format)

theorem Keeps.shows : noted.Shows layout where
  shown := by
    rw [keeps.summary_eq]
    rfl
  format := get_of_lookup (by decide) (keeps "_fmt" _ rfl)
  options := get_of_lookup (by decide) (keeps "_options" _ rfl)
  directives := get_of_lookup (by decide) (keeps "_directives" _ rfl)
  fields := get_of_lookup (by decide) (keeps "_fields" _ rfl)
  padCount := get_of_lookup (by decide) (keeps "_pad_count" _ rfl)
  size := get_of_lookup (by decide) (keeps "_size" _ rfl)
  fieldCount := by
    rw [get, if_pos rfl, keeps.fieldCount_eq]
    rfl

end Kept

/-- A note is read under its own name. -/
theorem get_of_assigned [Machine] {steps : List LayoutStep}
    (assigned : noted.Assigned steps name value) :
    (after NotedLayout.step noted steps).get name = .ok (.plain value) := by
  have isPrivate := isPrivateName_of_assigned assigned
  apply get_of_lookup
  · rintro rfl
    exact absurd isPrivate (by decide)
  · rw [Layout.keptName_of_private isPrivate]
    exact lookup_after.mpr (.inr ⟨value, rfl, assigned⟩)

end NotedLayout

open NotedLayout Runs in
/-- Through any run a layout stays the one that was compiled.  Whatever the steps before,
it shows the same parts, packs and unpacks by its format under its options, and takes a
private name exactly if none of its parts and no note has it; a note keeps the value that
was assigned to it. -/
theorem layout_immutable [Machine] {options : Options} {text : String} {layout : Layout}
    (compiled : Layout.compile options text = .ok layout) (earlier : List LayoutStep) :
    let noted := after NotedLayout.step (ofLayout layout) earlier
    (∀ step later,
      ((ofLayout layout).run (earlier ++ step :: later))[earlier.length]? =
        some (noted.step step)) ∧
    noted.Shows layout ∧
    noted.step .describe = (.summary layout.summary, noted) ∧
    (∀ values,
      noted.step (.pack values) = (answer .bytes (pack options text values), noted)) ∧
    (∀ buffer shape,
      noted.step (.unpack buffer shape) =
        (answer .data (unpack options text buffer shape), noted)) ∧
    (∀ buffer slot,
      noted.step (.unpackSingle buffer slot) =
        (answer .datum (unpackSingle options text buffer slot), noted)) ∧
    (∀ name, (noted.step (.get name)).2 = noted) ∧
    (∀ name value, Text.isDunderName name = false →
      ((noted.step (.set name value)).1 = .done ↔ FreeAfter layout earlier name) ∧
      (¬FreeAfter layout earlier name →
        (AttributeFault.readOnly name).kind = .attribute ∧
        noted.step (.set name value) = (.noAttribute (.readOnly name), noted))) ∧
    ∀ name value, (ofLayout layout).Assigned earlier name value →
      noted.step (.get name) = (.part (.plain value), noted) := by
  intro noted
  obtain ⟨format, _, rfl⟩ := Layout.compile_eq_ok_iff.mp compiled
  have keeps : noted.Keeps ⟨text, options, format⟩ := keeps_after _ earlier
  refine ⟨getElem?_trace _ earlier, keeps.shows, ?_, ?_, ?_, ?_, fun name => rfl, ?_, ?_⟩
  · rw [NotedLayout.step, keeps.summary_eq]
    rfl
  · intro values
    rw [NotedLayout.step, keeps.codec_eq]
    rfl
  · intro buffer shape
    rw [NotedLayout.step, keeps.codec_eq]
    rfl
  · intro buffer slot
    rw [NotedLayout.step, keeps.codec_eq]
    rfl
  · intro name value ordinary
    rw [freeAfter_iff]
    exact ⟨set_done_iff (AttributeFault.ofReserved?_eq_none ordinary value),
      fun taken => ⟨rfl, set_refused taken⟩⟩
  · intro name value assigned
    rw [NotedLayout.step, get_of_assigned assigned]
    rfl

open NotedLayout in
open SmallMachine in
theorem layout_immutable_noted :
    ∃ layout, Layout.compile {} "<Hx?" = .ok layout ∧
      let noted := Runs.after NotedLayout.step (ofLayout layout)
        [.set "_note" (.integer 7), .set "size" (.integer 9), .set "_note" (.integer 8)]
      noted.get "size" = .ok (.plain (.integer 4)) ∧
      noted.step (.pack [.integer 258, .boolean true]) = (.bytes [2, 1, 0, 1], noted) ∧
      noted.step (.get "_note") = (.part (.plain (.integer 7)), noted) ∧
      noted.step (.set "_note" (.integer 8)) = (.noAttribute (.readOnly "_note"), noted) ∧
      (noted.step (.set "_memo" .nothing)).1 = .done := by
  have compiled : Layout.compile {} "<Hx?" = .ok ⟨"<Hx?", {},
      [.marker .little, .field (.integer ⟨.unsigned, .two⟩), .pad, .field .boolean]⟩ := rfl
  refine ⟨_, compiled, ?_⟩
  obtain ⟨_, shows, _, packs, _, _, _, sets, notes⟩ := layout_immutable compiled
    [.set "_note" (.integer 7), .set "size" (.integer 9), .set "_note" (.integer 8)]
  refine ⟨shows.size, packs _, notes "_note" _ ⟨0, _, rfl, rfl⟩,
    ((sets "_note" _ (by decide)).2 ?_).2, (sets "_memo" _ (by decide)).1.mpr ?_⟩
  · exact fun free => free.2.2 (.integer 7) ⟨0, _, rfl, rfl⟩
  · exact freeAfter_iff.mpr ⟨by decide, rfl⟩

end StructCodec

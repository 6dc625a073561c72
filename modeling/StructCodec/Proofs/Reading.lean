import StructCodec.Format
import StructCodec.Proofs.Traversal

/-!
# Which texts are formats

A text is a format if each of its characters is a directive or ignored
whitespace; it is then read to its directives in order.  Any other text is
refused at the first character that is neither.
-/

namespace StructCodec

theorem ByteOrder.ofMarker?_eq_some_iff {char : Char} {order : ByteOrder} :
    ofMarker? char = some order ↔ order.marker = char := by
  constructor
  · intro found
    unfold ofMarker? at found
    split at found
    · cases found
      rfl
    · cases found
      rfl
    · cases found
  · rintro rfl
    exact ofMarker?_marker order

theorem Directive.ofChar?_eq_some_iff {char : Char} {directive : Directive} :
    ofChar? char = some directive ↔ directive.toChar = char := by
  constructor
  · intro found
    unfold ofChar? at found
    split at found
    next order marker =>
      cases found
      exact ByteOrder.ofMarker?_eq_some_iff.mp marker
    next =>
      split at found
      next isPad =>
        cases found
        exact isPad.symm
      next =>
        obtain ⟨type, tagged, rfl⟩ := Option.map_eq_some_iff.mp found
        exact ScalarType.ofTag?_eq_some_iff.mp tagged
  · rintro rfl
    exact ofChar?_toChar directive

theorem Directive.ofChar?_marker (order : ByteOrder) :
    ofChar? order.marker = some (.marker order) :=
  ofChar?_toChar (.marker order)

theorem Directive.isBlank_toChar (directive : Directive) :
    Format.isBlank directive.toChar = false := by
  cases directive with
  | marker order => cases order <;> rfl
  | pad => rfl
  | field type => obtain ⟨⟨⟩ | ⟨⟩, ⟨⟩ | ⟨⟩ | ⟨⟩ | ⟨⟩⟩ | ⟨⟩ := type <;> rfl

theorem Directive.ofChar?_of_isBlank {char : Char} (blank : Format.isBlank char = true) :
    ofChar? char = none := by
  cases found : ofChar? char with
  | none => rfl
  | some directive =>
      rw [← ofChar?_eq_some_iff.mp found, isBlank_toChar] at blank
      cases blank

theorem filterMap_ofChar?_map_toChar (format : Format) :
    (format.map Directive.toChar).filterMap Directive.ofChar? = format := by
  rw [List.filterMap_map]
  simp

/-- A character may stand in a format: it is a directive, or whitespace that is
ignored. -/
def Options.Accepts (options : Options) (char : Char) : Prop :=
  (∃ directive : Directive, directive.toChar = char) ∨
    options.ignoreWhitespace = true ∧ Format.isBlank char = true

theorem Options.accepts_marker (options : Options) (order : ByteOrder) :
    options.Accepts order.marker :=
  .inl ⟨.marker order, rfl⟩

namespace Format

theorem readFrom_of_accepted {options : Options} (text : String) (position : Nat)
    {chars : List Char} (accepted : ∀ char ∈ chars, options.Accepts char) :
    readFrom options.ignoreWhitespace text position chars =
      .ok (chars.filterMap Directive.ofChar?) := by
  induction chars generalizing position with
  | nil => rfl
  | cons char rest induction =>
      have later := induction (position + 1)
        (fun other member => accepted other (List.mem_cons_of_mem char member))
      rw [readFrom, later]
      cases found : Directive.ofChar? char with
      | some directive =>
          rw [List.filterMap_cons_some found]
          rfl
      | none =>
          rw [List.filterMap_cons_none found]
          rcases accepted char List.mem_cons_self with ⟨directive, rfl⟩ | ⟨ignored, blank⟩
          · rw [Directive.ofChar?_toChar] at found
            cases found
          · simp [ignored, blank]

/-- The error names the first character that may not stand in a format, at its
place in the text. -/
theorem readFrom_of_refused {options : Options} (text : String) (position : Nat)
    {before after : List Char} {char : Char}
    (accepted : ∀ earlier ∈ before, options.Accepts earlier)
    (refused : ¬ options.Accepts char) :
    readFrom options.ignoreWhitespace text position (before ++ char :: after) =
      .error (.unknownFormatChar char (position + before.length) text) := by
  induction before generalizing position with
  | nil =>
      have unread : Directive.ofChar? char = none := by
        cases found : Directive.ofChar? char with
        | none => rfl
        | some directive =>
            have written := Directive.ofChar?_eq_some_iff.mp found
            exact absurd (.inl ⟨directive, written⟩) refused
      have kept : ¬ (options.ignoreWhitespace = true ∧ isBlank char = true) :=
        fun ignored => refused (.inr ignored)
      rw [List.nil_append, readFrom, unread]
      simp [kept]
  | cons first before induction =>
      have later := induction (position + 1)
        (fun other member => accepted other (List.mem_cons_of_mem first member))
      have place : position + 1 + before.length = position + (first :: before).length := by
        rw [List.length_cons]
        omega
      rw [List.cons_append, readFrom, later, place]
      cases found : Directive.ofChar? first with
      | some directive => rfl
      | none =>
          rcases accepted first List.mem_cons_self with ⟨directive, rfl⟩ | ⟨ignored, blank⟩
          · rw [Directive.ofChar?_toChar] at found
            cases found
          · simp [ignored, blank]

theorem parse_of_accepted {options : Options} {text : String}
    (accepted : ∀ char ∈ text.toList, options.Accepts char) :
    parse options text = .ok (text.toList.filterMap Directive.ofChar?) :=
  readFrom_of_accepted text 0 accepted

theorem parse_of_refused {options : Options} {text : String}
    (refused : ∃ char ∈ text.toList, ¬ options.Accepts char) :
    ∃ char position, parse options text = .error (.unknownFormatChar char position text) := by
  obtain ⟨before, char, after, split, accepted, refused⟩ :=
    Traversal.exists_first refused
  refine ⟨char, 0 + before.length, ?_⟩
  rw [parse, split]
  apply readFrom_of_refused text 0 _ refused
  intro earlier member
  exact not_not.mp (accepted earlier member)

theorem parse_eq_ok_iff {options : Options} {text : String} {format : Format} :
    parse options text = .ok format ↔
      (∀ char ∈ text.toList, options.Accepts char) ∧
        format = text.toList.filterMap Directive.ofChar? := by
  constructor
  · intro reading
    have accepted : ∀ char ∈ text.toList, options.Accepts char := by
      intro char member
      by_contra refused
      obtain ⟨_, _, failed⟩ := parse_of_refused ⟨char, member, refused⟩
      rw [reading] at failed
      cases failed
    rw [parse_of_accepted accepted] at reading
    cases reading
    exact ⟨accepted, rfl⟩
  · rintro ⟨accepted, rfl⟩
    exact parse_of_accepted accepted

theorem parse_append {options : Options} {firstText secondText : String}
    {first second : Format} (firstReading : parse options firstText = .ok first)
    (secondReading : parse options secondText = .ok second) :
    parse options (firstText ++ secondText) = .ok (first ++ second) := by
  obtain ⟨firstAccepted, rfl⟩ := parse_eq_ok_iff.mp firstReading
  obtain ⟨secondAccepted, rfl⟩ := parse_eq_ok_iff.mp secondReading
  apply parse_eq_ok_iff.mpr
  rw [String.toList_append, List.filterMap_append]
  refine ⟨?_, rfl⟩
  intro char member
  rcases List.mem_append.mp member with inFirst | inSecond
  · exact firstAccepted char inFirst
  · exact secondAccepted char inSecond

theorem parse_singleton {options : Options} {char : Char} (accepted : options.Accepts char) :
    parse options (String.singleton char) = .ok (Directive.ofChar? char).toList := by
  apply parse_eq_ok_iff.mpr
  rw [String.toList_singleton]
  constructor
  · intro other member
    rwa [List.mem_singleton.mp member]
  · cases found : Directive.ofChar? char with
    | none => rw [List.filterMap_cons_none found, List.filterMap_nil, Option.toList_none]
    | some directive =>
        rw [List.filterMap_cons_some found, List.filterMap_nil, Option.toList_some]

theorem parse_marker (options : Options) (order : ByteOrder) :
    parse options (String.singleton order.marker) = .ok [.marker order] := by
  rw [parse_singleton (options.accepts_marker order), Directive.ofChar?_marker]
  rfl

theorem parse_or_refused (options : Options) (text : String) :
    (∃ format, parse options text = .ok format) ∨
      ∃ char ∈ text.toList, ¬ options.Accepts char := by
  by_cases refused : ∃ char ∈ text.toList, ¬ options.Accepts char
  · exact .inr refused
  · left
    refine ⟨_, parse_of_accepted ?_⟩
    intro char member
    by_contra refuses
    exact refused ⟨char, member, refuses⟩

end Format

end StructCodec

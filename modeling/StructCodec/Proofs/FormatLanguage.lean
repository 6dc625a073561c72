import StructCodec.Proofs.Reading

/-!
# The language of formats

The characters of a format are listed here, and a text is a format exactly if it has no
others.  Reading loses nothing but the blanks: the directives, written one after the other,
are the text without its blanks, which is read to the same directives under any options.
-/

namespace StructCodec

namespace Format

/-- The characters that directives are written as. -/
def directiveChars : List Char :=
  ['<', '>', 'x', 'b', 'B', 'h', 'H', 'i', 'I', 'q', 'Q', '?']

/-- The code points of the characters that may be ignored. -/
def blankCodes : List Nat :=
  [0x09, 0x0A, 0x0B, 0x0C, 0x0D, 0x1C, 0x1D, 0x1E, 0x1F, 0x20]

/-- A text with its blanks deleted. -/
def withoutBlanks (text : String) : String :=
  String.ofList (text.toList.filter (fun char => char.toNat ∉ blankCodes))

end Format

/-- The characters that a format may have under some options. -/
def Options.Alphabet (options : Options) (char : Char) : Prop :=
  char ∈ Format.directiveChars ∨
    options.ignoreWhitespace = true ∧ char.toNat ∈ Format.blankCodes

/-! ### The characters -/

namespace Format

theorem mem_directiveChars_iff {char : Char} :
    char ∈ directiveChars ↔ ∃ directive : Directive, directive.toChar = char := by
  constructor
  · intro member
    obtain ⟨directive, found⟩ : ∃ directive, Directive.ofChar? char = some directive := by
      apply Option.isSome_iff_exists.mp
      have each : directiveChars.all (fun char => (Directive.ofChar? char).isSome) = true := rfl
      exact List.all_eq_true.mp each char member
    exact ⟨directive, Directive.ofChar?_eq_some_iff.mp found⟩
  · rintro ⟨directive, rfl⟩
    cases directive with
    | marker order => cases order <;> decide
    | pad => decide
    | field type => obtain ⟨⟨⟩ | ⟨⟩, ⟨⟩ | ⟨⟩ | ⟨⟩ | ⟨⟩⟩ | ⟨⟩ := type <;> decide

theorem isBlank_iff {char : Char} : isBlank char = true ↔ char.toNat ∈ blankCodes := by
  simp only [isBlank, Bool.or_eq_true, Bool.and_eq_true, decide_eq_true_eq, blankCodes,
    List.mem_cons, List.not_mem_nil, or_false]
  omega

theorem accepts_iff {options : Options} {char : Char} :
    options.Accepts char ↔ options.Alphabet char := by
  rw [Options.Accepts, Options.Alphabet, mem_directiveChars_iff, isBlank_iff]

/-! ### Reading and writing -/

theorem exists_parse_iff {options : Options} {text : String} :
    (∃ format, parse options text = .ok format) ↔
      ∀ char ∈ text.toList, options.Alphabet char := by
  constructor
  · rintro ⟨format, reading⟩ char member
    exact accepts_iff.mp ((parse_eq_ok_iff.mp reading).1 char member)
  · intro spelled
    refine ⟨_, parse_of_accepted ?_⟩
    intro char member
    exact accepts_iff.mpr (spelled char member)

/-- The first character outside the alphabet is at a position of a text. -/
structure Strays (options : Options) (text : String) (position : Nat) (char : Char) : Prop where
  standing : text.toList[position]? = some char
  outside : ¬ options.Alphabet char
  first : ∀ earlier < position, ∀ other, text.toList[earlier]? = some other →
    options.Alphabet other

theorem parse_of_strays {options : Options} {text : String} {position : Nat} {char : Char}
    (strays : Strays options text position char) :
    parse options text = .error (.unknownFormatChar char position text) := by
  obtain ⟨inside, standing⟩ := List.getElem?_eq_some_iff.mp strays.standing
  have split : text.toList =
      text.toList.take position ++ char :: text.toList.drop (position + 1) := by
    rw [← standing, ← List.drop_eq_getElem_cons, List.take_append_drop]
  have accepted : ∀ earlier ∈ text.toList.take position, options.Accepts earlier := by
    intro other member
    obtain ⟨earlier, found⟩ := List.mem_iff_getElem?.mp member
    rw [List.getElem?_take] at found
    split at found
    next before => exact accepts_iff.mpr (strays.first earlier before other found)
    next => cases found
  have refused : ¬ options.Accepts char := fun accepts =>
    strays.outside (accepts_iff.mp accepts)
  have length_eq : (text.toList.take position).length = position := by
    rw [List.length_take]
    omega
  have stopped : readFrom options.ignoreWhitespace text 0
      (text.toList.take position ++ char :: text.toList.drop (position + 1)) = _ :=
    readFrom_of_refused text 0 accepted refused
  rw [← split, length_eq, Nat.zero_add] at stopped
  exact stopped

theorem exists_strays {options : Options} {text : String}
    (stray : ∃ char ∈ text.toList, ¬ options.Alphabet char) :
    ∃ position char, Strays options text position char := by
  obtain ⟨before, char, after, split, spelled, outside⟩ := Traversal.exists_first stray
  refine ⟨before.length, char, ?_, outside, ?_⟩
  · rw [split]
    simp
  · intro earlier inside other found
    rw [split, List.getElem?_append_left inside] at found
    exact not_not.mp (spelled other (List.mem_of_getElem? found))

theorem parse_eq_error_iff {options : Options} {text : String} {error : CodecError} :
    parse options text = .error error ↔
      ∃ position char, Strays options text position char ∧
        error = .unknownFormatChar char position text := by
  constructor
  · intro failed
    have stray : ∃ char ∈ text.toList, ¬ options.Alphabet char := by
      by_contra spelled
      obtain ⟨format, reading⟩ := exists_parse_iff.mpr (by simpa using spelled)
      rw [reading] at failed
      cases failed
    obtain ⟨position, char, strays⟩ := exists_strays stray
    rw [parse_of_strays strays] at failed
    cases failed
    exact ⟨position, char, strays, rfl⟩
  · rintro ⟨position, char, strays, rfl⟩
    exact parse_of_strays strays

theorem map_toChar_filterMap {options : Options} {chars : List Char}
    (accepted : ∀ char ∈ chars, options.Accepts char) :
    (chars.filterMap Directive.ofChar?).map Directive.toChar =
      chars.filter (fun char => char.toNat ∉ blankCodes) := by
  induction chars with
  | nil => rfl
  | cons char chars induction =>
      have rest := induction
        (fun other member => accepted other (List.mem_cons_of_mem char member))
      rcases accepted char List.mem_cons_self with ⟨directive, rfl⟩ | ⟨_, blank⟩
      · have visible : directive.toChar.toNat ∉ blankCodes := by
          rw [← isBlank_iff, directive.isBlank_toChar]
          exact Bool.false_ne_true
        rw [List.filterMap_cons_some (Directive.ofChar?_toChar directive), List.map_cons, rest,
          List.filter_cons_of_pos (by simpa using visible)]
      · have deleted : char.toNat ∈ blankCodes := isBlank_iff.mp blank
        rw [List.filterMap_cons_none (Directive.ofChar?_of_isBlank blank), rest,
          List.filter_cons_of_neg (by simpa using deleted)]

theorem toText_of_parse {options : Options} {text : String} {format : Format}
    (reading : parse options text = .ok format) : format.toText = withoutBlanks text := by
  obtain ⟨accepted, rfl⟩ := parse_eq_ok_iff.mp reading
  rw [toText, map_toChar_filterMap accepted, withoutBlanks]

theorem parse_toText (options : Options) (format : Format) :
    parse options format.toText = .ok format := by
  apply parse_eq_ok_iff.mpr
  rw [toText, String.toList_ofList, filterMap_ofChar?_map_toChar]
  refine ⟨?_, rfl⟩
  intro char member
  obtain ⟨directive, _, written⟩ := List.mem_map.mp member
  exact .inl ⟨directive, written⟩

theorem toText_injective : Function.Injective toText := by
  intro left right same
  have reading := parse_toText {} left
  rw [same, parse_toText] at reading
  exact (Except.ok.inj reading).symm

theorem parse_ignoringBlanks {options : Options} {text : String} {format : Format}
    (reading : parse options text = .ok format) :
    parse { options with ignoreWhitespace := true } text = .ok format := by
  obtain ⟨accepted, rfl⟩ := parse_eq_ok_iff.mp reading
  apply parse_of_accepted
  intro char member
  rcases accepted char member with directive | ⟨_, blank⟩
  · exact .inl directive
  · exact .inr ⟨rfl, blank⟩

end Format

/-- Exactly the texts over the alphabet are formats, and any other is refused at its first
character outside.  What is read stands for the text without its blanks. -/
theorem format_language (options : Options) (text : String) :
    ((∃ format, Format.parse options text = .ok format) ↔
      ∀ char ∈ text.toList, options.Alphabet char) ∧
    (∀ error, Format.parse options text = .error error ↔
      ∃ position char, Format.Strays options text position char ∧
        error = .unknownFormatChar char position text) ∧
    ∀ format, Format.parse options text = .ok format →
      format.toText = Format.withoutBlanks text ∧
      (∀ others, Format.parse others (Format.withoutBlanks text) = .ok format) ∧
      (∀ others otherText otherFormat, Format.parse others otherText = .ok otherFormat →
        (format = otherFormat ↔
          Format.withoutBlanks text = Format.withoutBlanks otherText)) ∧
      (options.ignoreWhitespace = false →
        Format.parse { options with ignoreWhitespace := true } text = .ok format) := by
  refine ⟨Format.exists_parse_iff, fun error => Format.parse_eq_error_iff, ?_⟩
  intro format reading
  have written := Format.toText_of_parse reading
  refine ⟨written, ?_, ?_, fun _ => Format.parse_ignoringBlanks reading⟩
  · intro others
    rw [← written]
    exact Format.parse_toText others format
  · intro others otherText otherFormat otherReading
    rw [← written, ← Format.toText_of_parse otherReading]
    exact Format.toText_injective.eq_iff.symm

theorem format_language_separator :
    Format.parse {} "<B\x1c ?" =
        .ok [.marker .little, .field (.integer ⟨.unsigned, .one⟩), .field .boolean] ∧
      Format.parse ⟨.strict, false⟩ "<B?" =
        .ok [.marker .little, .field (.integer ⟨.unsigned, .one⟩), .field .boolean] ∧
      Format.parse {} "B\x1c \u00a0?" =
        .error (.unknownFormatChar '\u00a0' 3 "B\x1c \u00a0?") := by
  have reading : Format.parse {} "<B\x1c ?" =
      .ok [.marker .little, .field (.integer ⟨.unsigned, .one⟩), .field .boolean] := rfl
  obtain ⟨_, _, read⟩ := format_language {} "<B\x1c ?"
  refine ⟨reading, (read _ reading).2.1 ⟨.strict, false⟩, ?_⟩
  apply ((format_language {} "B\x1c \u00a0?").2.1 _).mpr
  refine ⟨3, '\u00a0', ⟨rfl, ?_, ?_⟩, rfl⟩
  · rw [Options.Alphabet]
    decide
  · intro earlier before other found
    match earlier with
    | 0 | 1 | 2 =>
        cases found
        rw [Options.Alphabet]
        decide

end StructCodec

import StructCodec.CommandLine
import StructCodec.Proofs.FormatDescription

/-!
# Formats given on the command line

However formats are given, joined to the option or behind it, the run describes the last of
them, as if it had been given alone.  There is one exception: two dashes that are joined to the
option may be taken for a separator, and then no text is left to be described.
-/

namespace StructCodec.CommandLine

/-- A text that the option takes from the argument behind it: it does not start with a dash,
or it is one dash alone. -/
def IsOperand (text : String) : Prop :=
  text.toList.head? ≠ some '-' ∨ text = "-"

/-- A format that is given on the command line. -/
inductive GivenFormat where
  /-- It is joined to the option by an equals sign. -/
  | joined (format : String)
  /-- It is the argument behind the option. -/
  | apart (format : String) (isOperand : IsOperand format)

namespace GivenFormat

/-- The format that is given. -/
def format : GivenFormat → String
  | .joined format => format
  | .apart format _ => format

/-- The arguments that give it. -/
def arguments : GivenFormat → List String
  | .joined format => ["--describe=" ++ format]
  | .apart format _ => ["--describe", format]

/-- Its arguments, told apart. -/
def told : GivenFormat → List Argument
  | .joined format => [.option .describe (some format)]
  | .apart format _ => [.option .describe none, .plain format]

/-- What is left of it once the arguments are followed. -/
def value (dashes : JoinedDashes) : GivenFormat → Value
  | .joined format => joinedFormat dashes format
  | .apart format _ => .text format

end GivenFormat

/-! ### Telling the arguments apart -/

theorem filter_startsWith_describe :
    OptionName.all.filter (fun candidate => candidate.long.startsWith "--describe") =
      [.describe] := by
  simp [OptionName.all, OptionName.long]

/-- An argument whose part before the equals sign is the option. -/
theorem read_describe {argument : String} {letter : Char} {letters : List Char}
    {value? : Option String} (chars : argument.toList = '-' :: '-' :: letter :: letters)
    (split : Argument.splitValue ('-' :: '-' :: letter :: letters) = ("--describe", value?)) :
    Argument.read argument = .ok (.option .describe value?) := by
  rw [Argument.read, chars]
  simp only [split]
  rw [split, filter_startsWith_describe]

theorem read_joined (format : String) :
    Argument.read ("--describe=" ++ format) = .ok (.option .describe (some format)) := by
  have chars : ("--describe=" ++ format).toList =
      '-' :: '-' :: 'd' :: ("escribe=".toList ++ format.toList) := by
    rw [String.toList_append]
    rfl
  apply read_describe chars
  simp [Argument.splitValue]

theorem read_alone : Argument.read "--describe" = .ok (.option .describe none) :=
  read_describe rfl rfl

theorem read_operand {text : String} (isOperand : IsOperand text) :
    Argument.read text = .ok (.plain text) := by
  rcases isOperand with undashed | rfl
  · have behind (letters : List Char) (chars : text.toList = '-' :: letters) : False :=
      undashed (congrArg List.head? chars)
    rw [Argument.read]
    split
    case h_8 => rfl
    all_goals
      next chars => exact (behind _ chars).elim
  · rfl

theorem readAll_append_given (given : GivenFormat) (rest : List String) :
    Argument.readAll (given.arguments ++ rest) =
      (Argument.readAll rest).map (given.told ++ ·) := by
  cases given with
  | joined format =>
      simp only [GivenFormat.arguments, List.cons_append, List.nil_append, Argument.readAll,
        read_joined]
      cases Argument.readAll rest <;> rfl
  | apart format isOperand =>
      simp only [GivenFormat.arguments, List.cons_append, List.nil_append, Argument.readAll,
        read_alone, read_operand isOperand]
      cases Argument.readAll rest <;> rfl

theorem readAll_given (given : List GivenFormat) :
    Argument.readAll (given.flatMap GivenFormat.arguments) =
      .ok (given.flatMap GivenFormat.told) := by
  induction given with
  | nil => rfl
  | cons first given induction =>
      rw [List.flatMap_cons, readAll_append_given, induction]
      rfl

variable (dashes : JoinedDashes)

theorem follow_given (described? : Option Value) (given : GivenFormat) (rest : List Argument) :
    follow dashes described? [] (given.told ++ rest) =
      follow dashes (some (given.value dashes)) [] rest := by
  cases given <;> rfl

/-- The last format that is given is the one that is described. -/
theorem follow_last (described? : Option Value) (earlier : List GivenFormat)
    (last : GivenFormat) :
    follow dashes described? [] ((earlier ++ [last]).flatMap GivenFormat.told) =
      .ok (.describe (last.value dashes)) := by
  induction earlier generalizing described? with
  | nil =>
    rw [List.nil_append, List.flatMap_cons, follow_given]
    rfl
  | cons first earlier induction =>
      rw [List.cons_append, List.flatMap_cons, follow_given]
      exact induction (some (first.value dashes))

theorem request_last (earlier : List GivenFormat) (last : GivenFormat) :
    request dashes ((earlier ++ [last]).flatMap GivenFormat.arguments) =
      .ok (.describe (last.value dashes)) := by
  rw [request, readAll_given]
  exact follow_last dashes none earlier last

/-! ### Describing the format -/

/-- How a run ends that describes a format: with the description, or with the error of the text
and nothing described. -/
inductive Describes (format : String) : Except CodecError Outcome → Prop where
  | printed {read : Format} {lines : List String}
      (reading : Format.parse {} format = .ok read) (described : describe format = .ok lines) :
      Describes format (.ok ⟨0, unlines lines, ""⟩)
  | refused {char : Char} {position : Nat}
      (refused : Format.parse {} format = .error (.unknownFormatChar char position format)) :
      Describes format (.ok ⟨1, "",
        "Error: " ++ (CodecError.unknownFormatChar char position format).message ++ "\n"⟩)

theorem start_printDescription (format : String) :
    (printDescription (.text format)).start = (Description.print format).start := rfl

theorem describes_run_text (format : String) :
    Describes format (Request.describe (.text format)).run := by
  cases reading : Format.parse {} format with
  | ok read =>
      rw [Request.run, start_printDescription, Description.start_print_of_reading reading]
      apply Describes.printed reading
      rw [describe, Description.start_print_of_reading reading]
      rfl
  | error error =>
      obtain ⟨position, char, _, rfl⟩ := Format.parse_eq_error_iff.mp reading
      rw [Request.run, start_printDescription, Description.start_print_of_refused reading]
      have line (text : String) : unlines [text] = text ++ "\n" := by simp [unlines]
      have ended := Describes.refused reading
      rw [← line] at ended
      exact ended

/-- Two dashes that are joined to the option leave no text where they are dropped; any other
format is left as it is. -/
theorem value_cases (given : GivenFormat) :
    (dashes = .dropped ∧ given = .joined "--") ∧ given.value dashes = .list [] ∨
      ¬ (dashes = .dropped ∧ given = .joined "--") ∧
        given.value dashes = .text given.format := by
  cases given with
  | joined format =>
      by_cases lost : dashes = .dropped ∧ format = "--"
      · exact .inl ⟨⟨lost.1, congrArg GivenFormat.joined lost.2⟩, if_pos lost⟩
      · right
        refine ⟨?_, if_neg lost⟩
        rintro ⟨dropped, same⟩
        exact lost ⟨dropped, GivenFormat.joined.inj same⟩
  | apart format isOperand => exact .inr ⟨by simp, rfl⟩

theorem run_last (earlier : List GivenFormat) (last : GivenFormat) :
    run dashes ((earlier ++ [last]).flatMap GivenFormat.arguments) =
      (Request.describe (last.value dashes)).run := by
  rw [run, request_last]

/-- However many formats are given, and each in whichever way, the run is that of the last one
alone: it prints the description of the format and succeeds, or prints nothing but the error of
its text and fails.  It does so exactly unless two dashes are joined to the option and dropped;
these are lost, and that there is no text escapes the run. -/
theorem last_format_described (earlier : List GivenFormat) (last : GivenFormat) :
    let result := run dashes ((earlier ++ [last]).flatMap GivenFormat.arguments)
    result = run dashes last.arguments ∧
      (Describes last.format result ↔ ¬ (dashes = .dropped ∧ last = .joined "--")) ∧
      (dashes = .dropped ∧ last = .joined "--" →
        ∃ error, result = .error error ∧ error.kind = .wrongType ∧
          error.message = "unhashable type: 'list'") := by
  intro result
  have followed : result = (Request.describe (last.value dashes)).run :=
    run_last dashes earlier last
  refine ⟨?_, ?_, ?_⟩
  · have alone := run_last dashes [] last
    rw [List.nil_append, List.flatMap_cons, List.flatMap_nil, List.append_nil] at alone
    rw [followed, alone]
  · rw [followed]
    rcases value_cases dashes last with ⟨lost, empty⟩ | ⟨other, kept⟩
    · rw [empty]
      exact ⟨fun described => (nomatch described), fun other => absurd lost other⟩
    · rw [kept]
      exact iff_of_true (describes_run_text last.format) other
  · rintro ⟨rfl, rfl⟩
    exact ⟨.formatNotText (.list []), followed, rfl, rfl⟩

/-- Two dashes are no format, and as any such text they should be refused with an error. -/
theorem joined_dashes_escape :
    run .dropped ["--describe=--"] = .error (.formatNotText (.list [])) ∧
      Format.parse {} "--" = .error (.unknownFormatChar '-' 0 "--") ∧
      ¬ Describes "--" (run .dropped ["--describe=--"]) := by
  have escaped : run .dropped ["--describe=--"] = .error (.formatNotText (.list [])) :=
    run_last .dropped [] (.joined "--")
  refine ⟨escaped, rfl, ?_⟩
  rw [escaped]
  exact fun described => (nomatch described)

end StructCodec.CommandLine

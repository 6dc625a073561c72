import StructCodec.Description
import StructCodec.Text.Digit

/-!
# The command line

Arguments are told apart first, then followed from left to right.  Asking for the
help or the version ends the run at once; the last format to describe wins; what
is no option is reported at the end.  Faults that the library reports under its own
classes are printed; any other fault escapes the run.
-/

namespace StructCodec.CommandLine

/-- The options of the command line. -/
inductive OptionName where
  | help
  | describe
  | version
deriving DecidableEq

namespace OptionName

/-- Every option, in the order of the help. -/
def all : List OptionName :=
  [.help, .describe, .version]

/-- The long spelling of an option. -/
def long : OptionName → String
  | .help => "--help"
  | .describe => "--describe"
  | .version => "--version"

/-- An option as messages call it. -/
def shown : OptionName → String
  | .help => "-h/--help"
  | .describe => "--describe"
  | .version => "--version"

end OptionName

/-- What is wrong with the arguments. -/
inductive UsageError where
  /-- The start of an option fits several options. -/
  | ambiguous (argument : String) (candidates : List OptionName)
  /-- An option that takes no value is given one. -/
  | ignoredValue (option : OptionName) (value : String)
  /-- The option that takes a value is given none. -/
  | missingValue
  /-- Some arguments are neither options nor values of options. -/
  | unrecognized (arguments : List String)
deriving DecidableEq

/-- The message of an error. -/
def UsageError.message : UsageError → String
  | .ambiguous argument candidates =>
      s!"ambiguous option: {argument} could match " ++
        String.intercalate ", " (candidates.map OptionName.long)
  | .ignoredValue option value =>
      s!"argument {option.shown}: ignored explicit argument {Text.quoted value}"
  | .missingValue => s!"argument {OptionName.describe.shown}: expected one argument"
  | .unrecognized arguments =>
      "unrecognized arguments: " ++ String.intercalate " " arguments

/-- An argument, told apart by its spelling. -/
inductive Argument where
  /-- A value, or something that is left over. -/
  | plain (text : String)
  /-- Two dashes alone: what follows is plain. -/
  | separator
  /-- An option, with the value that is joined to it by an equals sign. -/
  | option (name : OptionName) (value? : Option String)
  /-- The short spelling of the help, with what is joined to it. -/
  | shortHelp (joined : List Char)
  /-- Something that starts with a dash and is no option. -/
  | unknown (text : String)
deriving DecidableEq

namespace Argument

/-- Digits with or without a point among or before them, behind a dash. -/
def isNegativeNumber (argument : List Char) : Bool :=
  match argument with
  | '-' :: digits =>
      let digits := if digits.getLast? = some '\n' then digits.dropLast else digits
      let whole := digits.takeWhile Text.isDecimalDigit
      match digits.dropWhile Text.isDecimalDigit with
      | [] => !whole.isEmpty
      | '.' :: fraction => !fraction.isEmpty && fraction.all Text.isDecimalDigit
      | _ => false
  | _ => false

/-- An argument split at its first equals sign. -/
def splitValue (argument : List Char) : String × Option String :=
  let name := String.ofList (argument.takeWhile (· ≠ '='))
  match argument.dropWhile (· ≠ '=') with
  | [] => (name, none)
  | _ :: value => (name, some (String.ofList value))

/-- An argument that starts with a dash and is no option: a negative number or
something with a space in it counts as plain. -/
def ofUnmatched (argument : List Char) : Argument :=
  if isNegativeNumber argument || argument.contains ' ' then
    .plain (String.ofList argument)
  else
    .unknown (String.ofList argument)

/-- Tells an argument apart that stands before any two dashes alone.  Options may
be cut short as long as one option only starts that way. -/
def read (argument : String) : Except UsageError Argument :=
  match argument.toList with
  | ['-', '-'] => .ok .separator
  | '-' :: '-' :: letters =>
      let (name, value?) := splitValue ('-' :: '-' :: letters)
      match OptionName.all.filter (fun candidate => candidate.long.startsWith name) with
      | [candidate] => .ok (.option candidate value?)
      | [] => .ok (ofUnmatched ('-' :: '-' :: letters))
      | candidates => .error (.ambiguous argument candidates)
  | ['-'] => .ok (.plain argument)
  | ['-', 'h'] => .ok (.option .help none)
  | '-' :: 'h' :: '=' :: joined => .ok (.shortHelp joined)
  | '-' :: 'h' :: joined => .ok (.shortHelp joined)
  | '-' :: letters => .ok (ofUnmatched ('-' :: letters))
  | _ => .ok (.plain argument)

/-- Tells arguments apart, up to the first that cannot be. -/
def readAll : List String → Except UsageError (List Argument)
  | [] => .ok []
  | argument :: rest => do
      match ← read argument with
      | .separator => return .separator :: rest.map .plain
      | first => return first :: (← readAll rest)

end Argument

/-- What the arguments ask for. -/
inductive Request where
  | help
  | version
  | describe (format : Value)

/-- What is joined to the short spelling of the help asks for.  It may only repeat
the letter, at least once; anything else is a value that the help does not take. -/
def followJoined : List Char → Except UsageError Request
  | ['h'] => .ok .help
  | 'h' :: joined => followJoined joined
  | joined => .error (.ignoredValue .help (String.ofList joined))

/-- What becomes of two dashes alone that are joined to an option: versions of the argument
parser differ in it. -/
inductive JoinedDashes where
  /-- They are the value of the option, as anything else would be. -/
  | kept
  /-- They count as a separator even there, and an empty list of values is left. -/
  | dropped
deriving DecidableEq

/-- The format that is joined to its option by an equals sign. -/
def joinedFormat (dashes : JoinedDashes) (value : String) : Value :=
  if dashes = .dropped ∧ value = "--" then .list [] else .text value

/-- Follows arguments from left to right, with the format that is to be described
so far and what is left over so far. -/
def follow (dashes : JoinedDashes) :
    Option Value → List String → List Argument → Except UsageError Request
  | described?, [], [] =>
      match described? with
      | some format => .ok (.describe format)
      | none => .ok .help
  | _, leftovers, [] => .error (.unrecognized leftovers)
  | _, leftovers, .option .describe (some value) :: rest =>
      follow dashes (some (joinedFormat dashes value)) leftovers rest
  | _, leftovers, .option .describe none :: .plain format :: rest =>
      follow dashes (some (.text format)) leftovers rest
  | _, _, .option .describe none :: _ => .error .missingValue
  | _, _, .option name (some value) :: _ => .error (.ignoredValue name value)
  | _, _, .option .help none :: _ => .ok .help
  | _, _, .option .version none :: _ => .ok .version
  | _, _, .shortHelp joined :: _ => followJoined joined
  | described?, leftovers, .plain text :: rest =>
      follow dashes described? (leftovers ++ [text]) rest
  | described?, leftovers, .unknown text :: rest =>
      follow dashes described? (leftovers ++ [text]) rest
  | described?, leftovers, .separator :: rest =>
      follow dashes described? (leftovers ++ ["--"]) rest

/-- What the arguments of the command line ask for. -/
def request (dashes : JoinedDashes) (arguments : List String) : Except UsageError Request := do
  follow dashes none [] (← Argument.readAll arguments)

/-- How a run ends and what it prints. -/
structure Outcome where
  exitCode : UInt32
  output : String
  errors : String
deriving DecidableEq

/-- Lines of text, each ended by a newline. -/
def unlines (lines : List String) : String :=
  String.join (lines.map (· ++ "\n"))

/-- The line that shows how the program is called. -/
def usage : String :=
  "usage: structpacker [-h] [--describe FORMAT] [--version]"

/-- The help, line by line. -/
def helpLines : List String :=
  [usage,
    "",
    "structpacker: Fixed-width Binary Struct Codec",
    "",
    "options:",
    "  -h, --help         show this help message and exit",
    "  --describe FORMAT  Describe a format string: field offsets, widths and byte",
    "                     order",
    "  --version          show program's version number and exit",
    "",
    "Examples:",
    "  structpacker --describe \"<HxI?\"       Show offsets and sizes of a format",
    "  structpacker --version                 Show version",
    "        "]

/-- The version, as it is printed. -/
def versionLine : String :=
  "structpacker 0.1.0"

/-- How a run ends that meets an error behind printed lines: errors of the classes
of the library are printed. -/
def reportError (printed : List String) (error : CodecError) : Except CodecError Outcome :=
  match error.kind with
  | .library _ => .ok ⟨1, unlines printed, unlines ["Error: " ++ error.message]⟩
  | _ => .error error

/-- Prints the description of what is given for a format. -/
def printDescription (format : Value) : Printing Unit := do
  Description.print (← format.formatText)

/-- Does what is asked for. -/
def Request.run : Request → Except CodecError Outcome
  | .help => .ok ⟨0, unlines helpLines, ""⟩
  | .version => .ok ⟨0, unlines [versionLine], ""⟩
  | .describe format =>
      match (printDescription format).start with
      | (.ok (), lines) => .ok ⟨0, unlines lines, ""⟩
      | (.error error, lines) => reportError lines error

/-- Runs the command line. -/
def run (dashes : JoinedDashes) (arguments : List String) : Except CodecError Outcome :=
  match request dashes arguments with
  | .ok request => request.run
  | .error error => .ok ⟨2, "", unlines [usage, "structpacker: error: " ++ error.message]⟩

end StructCodec.CommandLine

import StructCodec.CommandLine

/-!
# The program

Prints what the command line answers and ends with its exit code; an error that
escapes it is printed too.
-/

/-- Runs the command line on the arguments of the program. -/
def main (arguments : List String) : IO UInt32 := do
  match StructCodec.CommandLine.run .dropped arguments with
  | .ok outcome =>
      IO.print outcome.output
      IO.eprint outcome.errors
      return outcome.exitCode
  | .error error =>
      IO.eprintln error.message
      return 1

/-!
# Runs

A machine answers one step after the other and goes on from what each step leaves.
-/

namespace StructCodec.Runs

variable {State Step Answer : Type}

/-- The answers to a sequence of steps, each with what is left after it. -/
def trace (step : State → Step → Answer × State) : State → List Step → List (Answer × State)
  | _, [] => []
  | state, first :: steps =>
      let outcome := step state first
      outcome :: trace step outcome.2 steps

/-- What is left after a sequence of steps. -/
def after (step : State → Step → Answer × State) (state : State) (steps : List Step) : State :=
  steps.foldl (fun state first => (step state first).2) state

end StructCodec.Runs

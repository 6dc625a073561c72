import StructCodec.Runs

/-!
# Runs of machines

Readers, writers, layouts with notes and sessions are machines that answer one step after the
other and go on from what the step left.  What holds of the runs of every such machine is
stated once here.
-/

namespace StructCodec

namespace Runs

variable {State Step Answer : Type} {step : State → Step → Answer × State}

/-- The steps of a run whose answers pass. -/
def passing (step : State → Step → Answer × State) (passes : Answer → Bool) (state : State)
    (steps : List Step) : List Step :=
  ((steps.zip (trace step state steps)).filter (fun entry => passes entry.2.1)).map Prod.fst

@[simp] theorem trace_nil (state : State) : trace step state [] = [] := rfl

@[simp] theorem trace_cons (state : State) (first : Step) (steps : List Step) :
    trace step state (first :: steps) =
      step state first :: trace step (step state first).2 steps := rfl

@[simp] theorem after_nil (state : State) : after step state [] = state := rfl

@[simp] theorem after_cons (state : State) (first : Step) (steps : List Step) :
    after step state (first :: steps) = after step (step state first).2 steps := rfl

theorem after_concat (state : State) (steps : List Step) (last : Step) :
    after step state (steps ++ [last]) = (step (after step state steps) last).2 := by
  rw [after, after, List.foldl_append]
  rfl

/-- A step of a run starts from what the steps before it leave. -/
theorem getElem?_trace (state : State) (earlier : List Step) (middle : Step)
    (later : List Step) :
    (trace step state (earlier ++ middle :: later))[earlier.length]? =
      some (step (after step state earlier) middle) := by
  induction earlier generalizing state with
  | nil => rfl
  | cons first earlier induction => exact induction (step state first).2

/-- What every step preserves holds after every run. -/
theorem holds_after {Holds : State → Prop}
    (preserved : ∀ state first, Holds state → Holds (step state first).2)
    {state : State} (starts : Holds state) (steps : List Step) :
    Holds (after step state steps) := by
  induction steps generalizing state with
  | nil => exact starts
  | cons first steps induction => exact induction (preserved state first starts)

section

variable {passes : Answer → Bool} {state : State} {first : Step}

theorem passing_cons_of_pos (passed : passes (step state first).1 = true)
    (steps : List Step) :
    passing step passes state (first :: steps) =
      first :: passing step passes (step state first).2 steps := by
  rw [passing, trace, List.zip_cons_cons, List.filter_cons_of_pos (by exact passed)]
  rfl

theorem passing_cons_of_neg (failed : passes (step state first).1 = false)
    (steps : List Step) :
    passing step passes state (first :: steps) =
      passing step passes (step state first).2 steps := by
  rw [passing, trace, List.zip_cons_cons, List.filter_cons_of_neg (by simp [failed])]
  rfl

end

/-- If a step whose answer does not pass changes nothing, the other steps are answered without
it as they are with it. -/
theorem trace_passing {passes : Answer → Bool}
    (idle : ∀ state first, passes (step state first).1 = false → (step state first).2 = state)
    (state : State) (steps : List Step) :
    trace step state (passing step passes state steps) =
      (trace step state steps).filter (fun entry => passes entry.1) := by
  induction steps generalizing state with
  | nil => rfl
  | cons first steps induction =>
      rcases Bool.eq_false_or_eq_true (passes (step state first).1) with passed | failed
      · rw [passing_cons_of_pos passed, trace, trace, induction,
          List.filter_cons_of_pos (by exact passed)]
      · rw [passing_cons_of_neg failed, trace, List.filter_cons_of_neg (by simp [failed]),
          idle state first failed]
        exact induction state

end Runs

end StructCodec

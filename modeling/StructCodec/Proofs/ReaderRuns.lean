import StructCodec.Error
import StructCodec.Proofs.Runs
import StructCodec.Proofs.Tiling

/-!
# Readers through any run

A reader stands in its buffer: what is left is what stands behind its position.  Whatever is
asked of it, a step that fails leaves it where it was, and the ranges that the other steps take
stand one behind the other from the front of the buffer to the position that is reached.
-/

namespace StructCodec

/-- The number of bytes that a step asks for. -/
def ReadStep.count : ReadStep → Int
  | .read count => count
  | .skip count => count

/-- What a step hands out of the bytes that it takes. -/
def ReadStep.handOut : ReadStep → List UInt8 → Option (List UInt8)
  | .read _, taken => some taken
  | .skip _, _ => none

/-- The ranges between two positions are made of the bytes between them. -/
theorem Adjoin.flatten_slices {low high : Nat} {ranges : List (Nat × Nat)}
    (adjoin : Adjoin low ranges high) (buffer : List UInt8) :
    low ≤ high ∧ (ranges.map (fun range => (buffer.drop range.1).take range.2)).flatten =
      (buffer.drop low).take (high - low) := by
  induction adjoin with
  | nil position => simp
  | @cons start length high ranges _ induction =>
      obtain ⟨ordered, slices⟩ := induction
      have split : high - start = length + (high - (start + length)) := by omega
      refine ⟨by omega, ?_⟩
      rw [List.map_cons, List.flatten_cons, slices, split, List.take_add, List.drop_drop]

namespace Reader

/-- What a step can come to: a number below zero or beyond what is left is a fault, and changes
nothing; any other number of bytes is taken. -/
inductive Steps (reader : Reader) (step : ReadStep) :
    Except ReadFault (Option (List UInt8)) → Reader → Prop where
  | negative (below : step.count < 0) :
      Steps reader step (.error (.negativeCount step.count)) reader
  | pastEnd {needed : Nat} (asked : step.count = needed)
      (short : reader.remaining.length < needed) :
      Steps reader step
        (.error (.pastEnd ⟨reader.position, needed, reader.remaining.length⟩)) reader
  | taken {count : Nat} (asked : step.count = count)
      (enough : count ≤ reader.remaining.length) :
      Steps reader step (.ok (step.handOut (reader.remaining.take count)))
        ⟨reader.position + count, reader.remaining.drop count⟩

variable {reader next : Reader} {step : ReadStep} {buffer : List UInt8}
  {outcome : Except ReadFault (Option (List UInt8))}

theorem step_of_error {fault : ReadFault} (failed : reader.read step.count = .error fault) :
    reader.step step = (.error fault, reader) := by
  cases step with
  | read count =>
      rw [ReadStep.count] at failed
      rw [Reader.step, failed]
  | skip count =>
      rw [ReadStep.count] at failed
      rw [Reader.step, skip, failed]
      rfl

theorem step_of_ok {taken : List UInt8} (succeeded : reader.read step.count = .ok (taken, next)) :
    reader.step step = (.ok (step.handOut taken), next) := by
  cases step with
  | read count =>
      rw [ReadStep.count] at succeeded
      rw [Reader.step, succeeded]
      rfl
  | skip count =>
      rw [ReadStep.count] at succeeded
      rw [Reader.step, skip, succeeded]
      rfl

theorem read_natCast (reader : Reader) (count : Nat) :
    reader.read count = (reader.take count).mapError .pastEnd := by
  rw [read, if_neg (Int.not_lt.mpr (Int.natCast_nonneg count)), Int.toNat_natCast]

theorem step_of_le {count : Nat} (asked : step.count = count)
    (enough : count ≤ reader.remaining.length) :
    reader.step step = (.ok (step.handOut (reader.remaining.take count)),
      ⟨reader.position + count, reader.remaining.drop count⟩) := by
  apply step_of_ok
  rw [asked, read_natCast, take_of_le enough]
  rfl

theorem step_of_lt {needed : Nat} (asked : step.count = needed)
    (short : reader.remaining.length < needed) :
    reader.step step =
      (.error (.pastEnd ⟨reader.position, needed, reader.remaining.length⟩), reader) := by
  apply step_of_error
  rw [asked, read_natCast, take_of_lt short]
  rfl

/-- Every step comes to one of these. -/
theorem exists_steps (reader : Reader) (step : ReadStep) :
    ∃ outcome next, reader.step step = (outcome, next) ∧ reader.Steps step outcome next := by
  by_cases below : step.count < 0
  · exact ⟨_, _, step_of_error (if_pos below), .negative below⟩
  · obtain ⟨count, asked⟩ := Int.eq_ofNat_of_zero_le (Int.not_lt.mp below)
    by_cases enough : count ≤ reader.remaining.length
    · exact ⟨_, _, step_of_le asked enough, .taken asked enough⟩
    · have short := Nat.lt_of_not_le enough
      exact ⟨_, _, step_of_lt asked short, .pastEnd asked short⟩

/-- What is left is what stands behind the position. -/
structure StandsIn (reader : Reader) (buffer : List UInt8) : Prop where
  inside : reader.position ≤ buffer.length
  rest : reader.remaining = buffer.drop reader.position

theorem standsIn_ofBytes (buffer : List UInt8) : (ofBytes buffer).StandsIn buffer :=
  ⟨Nat.zero_le _, rfl⟩

theorem StandsIn.length_remaining (stands : reader.StandsIn buffer) :
    reader.position + reader.remaining.length = buffer.length := by
  rw [stands.rest, List.length_drop]
  exact Nat.add_sub_cancel' stands.inside

theorem Steps.standsIn (steps : reader.Steps step outcome next)
    (stands : reader.StandsIn buffer) : next.StandsIn buffer := by
  cases steps with
  | negative below => exact stands
  | pastEnd asked short => exact stands
  | taken asked enough =>
      have whole := stands.length_remaining
      constructor
      · dsimp only
        omega
      · rw [stands.rest, List.drop_drop]

/-! ### Runs -/

theorem StandsIn.after (stands : reader.StandsIn buffer) (steps : List ReadStep) :
    (Runs.after Reader.step reader steps).StandsIn buffer := by
  have preserved : ∀ (reader : Reader) (step : ReadStep), reader.StandsIn buffer →
      (reader.step step).2.StandsIn buffer := by
    intro reader step stands
    obtain ⟨outcome, next, stepped, come⟩ := reader.exists_steps step
    rw [stepped]
    exact come.standsIn stands
  exact Runs.holds_after preserved stands steps

/-- The range that a step takes, given by its start and its length; a step that fails takes
none. -/
def range? (reader : Reader) (step : ReadStep) : Option (Nat × Nat) :=
  match reader.step step with
  | (.ok _, next) => some (reader.position, next.position - reader.position)
  | (.error _, _) => none

/-- The ranges that the steps of a run take, in order. -/
def ranges : Reader → List ReadStep → List (Nat × Nat)
  | _, [] => []
  | reader, first :: steps => (reader.range? first).toList ++ ranges (reader.step first).2 steps

theorem adjoin_ranges (reader : Reader) (steps : List ReadStep) :
    Adjoin reader.position (reader.ranges steps)
      (Runs.after Reader.step reader steps).position := by
  induction steps generalizing reader with
  | nil => exact .nil reader.position
  | cons first steps induction =>
      obtain ⟨outcome, next, stepped, come⟩ := reader.exists_steps first
      have later := induction next
      rw [ranges, range?, Runs.after_cons, stepped]
      cases come with
      | negative below => exact later
      | pastEnd asked short => exact later
      | taken asked enough =>
          dsimp only [Option.toList_some] at later ⊢
          rw [Nat.add_sub_cancel_left]
          exact .cons later

/-- Without the steps that fail, every other step comes to the same as before. -/
theorem run_passing (reader : Reader) (steps : List ReadStep) :
    reader.run (Runs.passing Reader.step Except.isOk reader steps) =
      (reader.run steps).filter (fun entry => entry.1.isOk) := by
  rw [run, run]
  apply Runs.trace_passing
  intro reader step failed
  obtain ⟨outcome, next, stepped, come⟩ := reader.exists_steps step
  rw [stepped] at failed ⊢
  cases come with
  | negative below => rfl
  | pastEnd asked short => rfl
  | taken asked enough => cases failed

/-- An outcome that is a fault of a kind. -/
def FailsAs (outcome : Except ReadFault (Option (List UInt8))) (kind : ErrorKind) : Prop :=
  ∃ fault, outcome = .error fault ∧ fault.kind = kind

theorem failsAs_error_iff {fault : ReadFault} {kind : ErrorKind} :
    FailsAs (.error fault) kind ↔ fault.kind = kind := by
  constructor
  · rintro ⟨other, same, ofKind⟩
    cases same
    exact ofKind
  · intro ofKind
    exact ⟨fault, rfl, ofKind⟩

theorem not_failsAs_ok {handed : Option (List UInt8)} {kind : ErrorKind} :
    ¬FailsAs (.ok handed) kind := by
  rintro ⟨fault, failed, _⟩
  cases failed

theorem kind_pastEnd_eq_invalidArgument_iff {shortage : Shortage} :
    (ReadFault.pastEnd shortage).kind = .invalidArgument ↔
      Decimal.isWritable shortage.needed = false := by
  rw [ReadFault.kind, Shortage.isWritable]
  cases Decimal.isWritable shortage.needed <;> simp

theorem kind_pastEnd_eq_outOfBounds_iff {shortage : Shortage} :
    (ReadFault.pastEnd shortage).kind = .outOfBounds ↔
      Decimal.isWritable shortage.needed = true := by
  rw [ReadFault.kind, Shortage.isWritable]
  cases Decimal.isWritable shortage.needed <;> simp

/-- What a step comes to, of a reader that stands in a buffer.  It fails for a number below zero
or beyond what is left; that a number is beyond is told only if it can be written. -/
structure Accounts (buffer : List UInt8) (reader : Reader) (step : ReadStep)
    (outcome : Except ReadFault (Option (List UInt8))) (next : Reader) : Prop where
  inside : next.position ≤ buffer.length
  whole : next.position + next.remaining.length = buffer.length
  fails : (∃ fault, outcome = .error fault) ↔
    step.count < 0 ∨ reader.remaining.length < step.count
  invalid : FailsAs outcome .invalidArgument ↔
    step.count < 0 ∨
      reader.remaining.length < step.count ∧ Decimal.isWritable step.count = false
  beyond : FailsAs outcome .outOfBounds ↔
    0 ≤ step.count ∧ reader.remaining.length < step.count ∧
      Decimal.isWritable step.count = true
  unchanged : ∀ fault, outcome = .error fault → next = reader
  onward : reader.position ≤ next.position
  taken : ∀ handed, outcome = .ok handed →
    ∃ count : Nat, step.count = count ∧ next.position = reader.position + count ∧
      handed = step.handOut ((buffer.drop reader.position).take count)

theorem Steps.accounts (steps : reader.Steps step outcome next)
    (stands : reader.StandsIn buffer) : Accounts buffer reader step outcome next := by
  have nextStands := steps.standsIn stands
  refine ⟨nextStands.inside, nextStands.length_remaining, ?fails, ?invalid, ?beyond, ?unchanged,
    ?onward, ?consumed⟩
  case fails =>
    cases steps with
    | negative below => exact iff_of_true ⟨_, rfl⟩ (.inl below)
    | pastEnd asked short => exact iff_of_true ⟨_, rfl⟩ (by omega)
    | taken asked enough => exact iff_of_false (by simp) (by omega)
  case invalid =>
    cases steps with
    | negative below => exact iff_of_true (failsAs_error_iff.mpr rfl) (.inl below)
    | @pastEnd needed asked short =>
        have positive : ¬ step.count < 0 := by omega
        have further : (reader.remaining.length : Int) < step.count := by omega
        rw [failsAs_error_iff, kind_pastEnd_eq_invalidArgument_iff, ← asked]
        simp [positive, further]
    | taken asked enough => exact iff_of_false not_failsAs_ok (by omega)
  case beyond =>
    cases steps with
    | negative below =>
        exact iff_of_false (fun failed => nomatch failsAs_error_iff.mp failed) (by omega)
    | @pastEnd needed asked short =>
        have positive : 0 ≤ step.count := by omega
        have further : (reader.remaining.length : Int) < step.count := by omega
        rw [failsAs_error_iff, kind_pastEnd_eq_outOfBounds_iff, ← asked]
        simp [positive, further]
    | taken asked enough => exact iff_of_false not_failsAs_ok (by omega)
  case unchanged =>
    intro fault failed
    cases steps with
    | negative below => rfl
    | pastEnd asked short => rfl
    | taken asked enough => cases failed
  case onward =>
    cases steps with
    | negative below => exact Nat.le_refl _
    | pastEnd asked short => exact Nat.le_refl _
    | taken asked enough => exact Nat.le_add_right _ _
  case consumed =>
    intro handed succeeded
    cases steps with
    | negative below => cases succeeded
    | pastEnd asked short => cases succeeded
    | @taken count asked enough =>
        cases succeeded
        exact ⟨count, asked, rfl, by rw [stands.rest]⟩

end Reader

open Reader Runs in
/-- A run of a reader from the front of a buffer.  After each step the position is in the buffer
and counts, with what is left, all of it; a step is refused exactly if its number is negative or
more than what is left, and then changes nothing.  The ranges that the other steps take stand one
behind the other from the front to the position, and each read hands out its own range.  So the
steps that fail can be left out of the run. -/
theorem reader_runs (buffer : List UInt8) (steps : List ReadStep) :
    let reader := ofBytes buffer
    let final := after Reader.step reader steps
    (∀ earlier step later, steps = earlier ++ step :: later →
      ∃ outcome next, (reader.run steps)[earlier.length]? = some (outcome, next) ∧
        next = after Reader.step reader (earlier ++ [step]) ∧
        Accounts buffer (after Reader.step reader earlier) step outcome next) ∧
    Adjoin 0 (reader.ranges steps) final.position ∧
    ((reader.ranges steps).map (fun range => (buffer.drop range.1).take range.2)).flatten =
      buffer.take final.position ∧
    reader.run (passing Reader.step Except.isOk reader steps) =
      (reader.run steps).filter (fun entry => entry.1.isOk) := by
  intro reader final
  have adjoin : Adjoin 0 (reader.ranges steps) final.position := adjoin_ranges reader steps
  refine ⟨?_, adjoin, (adjoin.flatten_slices buffer).2, run_passing reader steps⟩
  rintro earlier step later rfl
  obtain ⟨outcome, next, stepped, come⟩ := (after Reader.step reader earlier).exists_steps step
  refine ⟨outcome, next, ?_, ?_, come.accounts ((standsIn_ofBytes buffer).after earlier)⟩
  · rw [run, getElem?_trace, stepped]
  · rw [after_concat, stepped]

open Reader in
/-- The least number of too many digits is beyond the end of a buffer, and this is not told. -/
theorem read_unwritable :
    FailsAs ((ofBytes []).step (.read Decimal.tooLong)).1 .invalidArgument ∧
      ¬ (ReadStep.read Decimal.tooLong).count < 0 := by
  have short : (ofBytes []).remaining.length < Decimal.tooLong := Decimal.tooLong_pos
  constructor
  · have asked : (ReadStep.read Decimal.tooLong).count = Decimal.tooLong := rfl
    rw [step_of_lt asked short, failsAs_error_iff, kind_pastEnd_eq_invalidArgument_iff]
    exact Decimal.not_isWritable_tooLong
  · exact Int.not_lt.mpr (Int.natCast_nonneg _)

end StructCodec

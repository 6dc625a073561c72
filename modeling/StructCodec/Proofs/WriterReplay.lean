import StructCodec.Bytes.Writer
import StructCodec.Proofs.ReaderRuns

/-!
# What is written can be read back

Whatever is asked of a writer, only an integer that is no byte is refused, and a refused step
leaves no trace.  The other steps append a block each, and a reader that asks for as many bytes
as each of them took receives these blocks, one after the other, and nothing is left.
-/

namespace StructCodec

/-- The block of bytes that a step is to append. -/
inductive WriteStep.Appends : WriteStep → List UInt8 → Prop where
  | byte (byte : UInt8) : Appends (.byte byte.toNat) [byte]
  | pad : Appends .pad [0]
  | bytes (content : List UInt8) : Appends (.bytes content) content

/-- A step that is to write an integer that is no byte. -/
def WriteStep.Outside (step : WriteStep) : Prop :=
  ∃ number : Int, step = .byte number ∧ ¬(0 ≤ number ∧ number ≤ 255)

theorem WriteStep.Appends.not_outside {step : WriteStep} {block : List UInt8}
    (appends : step.Appends block) : ¬step.Outside := by
  rintro ⟨number, given, outside⟩
  cases appends with
  | byte byte =>
      cases given
      have := byte.toNat_lt
      omega
  | pad => cases given
  | bytes content => cases given

namespace Writer

/-- What a step can come to. -/
inductive Steps (writer : Writer) (step : WriteStep) : Option WriteFault → Writer → Prop where
  | refused (fault : WriteFault) (outside : step.Outside) :
      Steps writer step (some fault) writer
  | appended {block : List UInt8} (appends : step.Appends block) :
      Steps writer step none (writer.append block)

variable {writer next : Writer} {step : WriteStep} {fault? : Option WriteFault}

theorem outcome_byte (writer : Writer) (byte : UInt8) :
    writer.outcome (.byte byte.toNat) = (none, writer.append [byte]) := by
  have inside : ¬((byte.toNat : Int) < 0 ∨ 255 < (byte.toNat : Int)) := by
    have := byte.toNat_lt
    omega
  rw [outcome, step, writeByte, if_neg inside, Int.toNat_natCast, UInt8.ofNat_toNat]

/-- Every step comes to one of these. -/
theorem exists_steps (writer : Writer) (step : WriteStep) :
    ∃ fault? next, writer.outcome step = (fault?, next) ∧ writer.Steps step fault? next := by
  cases step with
  | byte number =>
      by_cases inside : 0 ≤ number ∧ number ≤ 255
      · obtain ⟨byte, rfl⟩ : ∃ byte : UInt8, number = byte.toNat :=
          ⟨.ofNat number.toNat, by rw [UInt8.toNat_ofNat']; omega⟩
        exact ⟨_, _, outcome_byte writer byte, .appended (.byte byte)⟩
      · have beyond : number < 0 ∨ 255 < number := by omega
        refine ⟨some ⟨number⟩, writer, ?_, .refused _ ⟨number, rfl, inside⟩⟩
        rw [outcome, Writer.step, writeByte, if_pos beyond]
  | pad => exact ⟨_, _, rfl, .appended .pad⟩
  | bytes content => exact ⟨_, _, rfl, .appended (.bytes content)⟩

/-- What a step comes to. -/
structure Accounts (writer : Writer) (step : WriteStep) (fault? : Option WriteFault)
    (next : Writer) : Prop where
  refused : fault?.isSome ↔ step.Outside
  unchanged : fault?.isSome → next = writer
  appended : fault? = none →
    ∃ block, step.Appends block ∧ next.written = writer.written ++ block
  length : next.length = next.written.length

theorem Steps.accounts (steps : writer.Steps step fault? next) :
    Accounts writer step fault? next := by
  cases steps with
  | refused fault outside =>
      exact ⟨iff_of_true rfl outside, fun _ => rfl, fun none => (nomatch none), rfl⟩
  | appended appends =>
      refine ⟨iff_of_false Bool.false_ne_true appends.not_outside, ?_, ?_, rfl⟩
      · intro failed
        cases failed
      · intro _
        exact ⟨_, appends, written_append writer _⟩

/-! ### Runs -/

/-- By how many bytes a step makes the buffer longer; for a step that fails, no number. -/
def growth? (writer : Writer) (step : WriteStep) : Option Nat :=
  match writer.outcome step with
  | (none, next) => some (next.length - writer.length)
  | (some _, _) => none

/-- By how many bytes the steps of a run that do not fail make the buffer longer, in order. -/
def growths : Writer → List WriteStep → List Nat
  | _, [] => []
  | writer, first :: steps =>
      (writer.growth? first).toList ++ growths (writer.outcome first).2 steps

/-- The steps of a run that do not fail append a block each, and nothing else is written. -/
theorem exists_blocks (writer : Writer) (steps : List WriteStep) :
    ∃ blocks,
      List.Forall₂ WriteStep.Appends (Runs.passing outcome Option.isNone writer steps) blocks ∧
      writer.growths steps = blocks.map List.length ∧
      (Runs.after outcome writer steps).written = writer.written ++ blocks.flatten := by
  induction steps generalizing writer with
  | nil => exact ⟨[], .nil, rfl, (List.append_nil _).symm⟩
  | cons first steps induction =>
      obtain ⟨fault?, next, stepped, come⟩ := writer.exists_steps first
      obtain ⟨blocks, appends, lengths, written⟩ := induction next
      rw [growths, growth?, Runs.after_cons]
      cases come with
      | refused fault outside =>
          rw [Runs.passing_cons_of_neg (by rw [stepped]; rfl), stepped]
          exact ⟨blocks, appends, lengths, written⟩
      | @appended block firstAppends =>
          rw [Runs.passing_cons_of_pos (by rw [stepped]; rfl), stepped]
          refine ⟨block :: blocks, .cons firstAppends appends, ?_, ?_⟩
          · have grown : (writer.append block).length - writer.length = block.length := by
              rw [length, length, written_append, List.length_append, Nat.add_sub_cancel_left]
            dsimp only [Option.toList_some, List.cons_append, List.nil_append]
            rw [List.map_cons, grown, lengths]
          · rw [List.flatten_cons, ← List.append_assoc]
            exact written

end Writer

/-- Reading as many bytes as each block has, from a reader before which the blocks stand one
behind the other, gives the blocks. -/
theorem Reader.run_blocks (blocks : List (List UInt8)) (reader : Reader)
    (stand : reader.remaining = blocks.flatten) :
    let reads : List ReadStep := blocks.map (fun block => .read block.length)
    (reader.run reads).map Prod.fst = blocks.map (fun block => .ok (some block)) ∧
      (Runs.after Reader.step reader reads).remaining = [] := by
  induction blocks generalizing reader with
  | nil => exact ⟨rfl, stand⟩
  | cons block blocks induction =>
      rw [List.flatten_cons] at stand
      have enough : block.length ≤ reader.remaining.length := by
        rw [stand, List.length_append]
        exact Nat.le_add_right _ _
      have stepped : reader.step (.read block.length) =
          (.ok (some block), ⟨reader.position + block.length, blocks.flatten⟩) := by
        rw [step_of_le rfl enough, stand, List.take_left, List.drop_left]
        rfl
      obtain ⟨handed, nothing⟩ :=
        induction ⟨reader.position + block.length, blocks.flatten⟩ rfl
      dsimp only
      rw [List.map_cons, List.map_cons, Runs.after_cons, run, Runs.trace_cons, stepped]
      exact ⟨congrArg (List.cons _) handed, nothing⟩

open Writer Runs in
/-- A run of a writer that starts with nothing written, and its replay.  A step is refused
exactly if it is to write an integer that is no byte, and then changes nothing; any other step
appends its block.  A reader of what is written in the end that asks for as many bytes as the
buffer grew by at each of these steps receives their blocks, and nothing is left. -/
theorem writer_replay (steps : List WriteStep) :
    let final := after outcome empty steps
    (∀ earlier step later, steps = earlier ++ step :: later →
      ∃ fault? next, (empty.run steps)[earlier.length]? = some (fault?, next) ∧
        next = after outcome empty (earlier ++ [step]) ∧
        Accounts (after outcome empty earlier) step fault? next) ∧
    ∃ blocks, List.Forall₂ WriteStep.Appends (passing outcome Option.isNone empty steps) blocks ∧
      final.written = blocks.flatten ∧
      let reader := Reader.ofBytes final.written
      let reads := (empty.growths steps).map (fun count : Nat => ReadStep.read count)
      (reader.run reads).map Prod.fst = blocks.map (fun block => .ok (some block)) ∧
        (after Reader.step reader reads).remaining = [] := by
  intro final
  constructor
  · rintro earlier step later rfl
    obtain ⟨fault?, next, stepped, come⟩ := (after outcome empty earlier).exists_steps step
    refine ⟨fault?, next, ?_, ?_, come.accounts⟩
    · rw [run, getElem?_trace, stepped]
    · rw [after_concat, stepped]
  · obtain ⟨blocks, appends, lengths, written⟩ := empty.exists_blocks steps
    refine ⟨blocks, appends, written, ?_⟩
    rw [lengths, List.map_map]
    exact Reader.run_blocks blocks _ written

/-- A number that is no byte leaves no trace. -/
example :
    (Writer.empty.run [.pad, .byte 256, .bytes [5, 0]]).map (fun entry => entry.2.written) =
      [[0], [0], [0, 5, 0]] := by
  decide

end StructCodec

import StructCodec.Number.Decimal
import StructCodec.Runs

/-!
# Writing to a buffer

A writer holds the bytes written so far and only ever appends to them.
-/

namespace StructCodec

/-- A buffer that is written from front to back. -/
structure Writer where
  written : List UInt8
deriving DecidableEq

/-- An integer that is to be written as a byte is none. -/
structure WriteFault where
  number : Int
deriving DecidableEq

/-- The message of a failed step. -/
def WriteFault.message (fault : WriteFault) : String :=
  Decimal.message (Decimal.isWritable fault.number)
    s!"Byte value must be 0-255, got {fault.number}"

/-- What can be asked of a writer. -/
inductive WriteStep where
  | byte (number : Int)
  | pad
  | bytes (content : List UInt8)
deriving DecidableEq

namespace Writer

/-- A writer to which nothing is written yet. -/
def empty : Writer :=
  ⟨[]⟩

/-- The number of bytes written. -/
def length (writer : Writer) : Nat :=
  writer.written.length

/-- Appends bytes. -/
def append (writer : Writer) (bytes : List UInt8) : Writer :=
  ⟨writer.written ++ bytes⟩

/-- Appends one byte, given as an integer. -/
def writeByte (writer : Writer) (number : Int) : Except WriteFault Writer :=
  if number < 0 ∨ 255 < number then
    .error ⟨number⟩
  else
    .ok (writer.append [UInt8.ofNat number.toNat])

/-- One step of a writer. -/
def step (writer : Writer) : WriteStep → Except WriteFault Writer
  | .byte number => writer.writeByte number
  | .pad => writer.writeByte 0
  | .bytes content => .ok (writer.append content)

/-- The fault of a step, if it fails, with the writer after it.  A failed step leaves
the writer as it was. -/
def outcome (writer : Writer) (step : WriteStep) : Option WriteFault × Writer :=
  match writer.step step with
  | .ok next => (none, next)
  | .error fault => (some fault, writer)

/-- The fault of each of a sequence of steps, if it fails, with the writer after it. -/
def run (writer : Writer) (steps : List WriteStep) : List (Option WriteFault × Writer) :=
  Runs.trace outcome writer steps

@[simp] theorem written_append (writer : Writer) (bytes : List UInt8) :
    (writer.append bytes).written = writer.written ++ bytes := rfl

end Writer

end StructCodec

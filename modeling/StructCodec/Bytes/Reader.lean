import StructCodec.Number.Decimal
import StructCodec.Runs

/-!
# Reading from a buffer

A reader holds what is left of a buffer and how many bytes were taken from it.
Taking more bytes than are left fails and takes none.
-/

namespace StructCodec

/-- More bytes are needed at an offset than are available there. -/
structure Shortage where
  offset : Nat
  needed : Nat
  available : Nat
deriving DecidableEq

/-- What a shortage says once its message can be written. -/
def Shortage.message (shortage : Shortage) : String :=
  s!"Not enough bytes at offset {shortage.offset}: need {shortage.needed}, have {shortage.available}"

/-- Whether the message of a shortage can be written.  The offset and what is available are
positions in a buffer; only the number of bytes that are asked for can be any. -/
def Shortage.isWritable (shortage : Shortage) : Bool :=
  Decimal.isWritable shortage.needed

/-- A buffer that is read from front to back. -/
structure Reader where
  position : Nat
  remaining : List UInt8
deriving DecidableEq

/-- Why a step of a reader fails. -/
inductive ReadFault where
  | negativeCount (count : Int)
  | pastEnd (shortage : Shortage)
deriving DecidableEq

/-- The message of a failed step. -/
def ReadFault.message : ReadFault → String
  | .negativeCount count =>
      Decimal.message (Decimal.isWritable count) s!"num_bytes must be >= 0, got {count}"
  | .pastEnd shortage => Decimal.message shortage.isWritable shortage.message

/-- What can be asked of a reader. -/
inductive ReadStep where
  | read (count : Int)
  | skip (count : Int)
deriving DecidableEq

namespace Reader

/-- A reader at the front of a buffer. -/
def ofBytes (bytes : List UInt8) : Reader :=
  ⟨0, bytes⟩

/-- Takes bytes from the front of what is left. -/
def take (reader : Reader) (count : Nat) : Except Shortage (List UInt8 × Reader) :=
  let bytes := reader.remaining.take count
  if bytes.length = count then
    .ok (bytes, ⟨reader.position + count, reader.remaining.drop count⟩)
  else
    .error ⟨reader.position, count, reader.remaining.length⟩

/-- Takes a number of bytes that must not be negative. -/
def read (reader : Reader) (count : Int) : Except ReadFault (List UInt8 × Reader) :=
  if count < 0 then
    .error (.negativeCount count)
  else
    (reader.take count.toNat).mapError .pastEnd

/-- Passes over a number of bytes that must not be negative. -/
def skip (reader : Reader) (count : Int) : Except ReadFault Reader :=
  (reader.read count).map (·.2)

/-- One step: the bytes that it hands out, if it is a read, and the reader after
it.  A failed step leaves the reader as it was. -/
def step (reader : Reader) : ReadStep → Except ReadFault (Option (List UInt8)) × Reader
  | .read count =>
      match reader.read count with
      | .ok (bytes, next) => (.ok (some bytes), next)
      | .error fault => (.error fault, reader)
  | .skip count =>
      match reader.skip count with
      | .ok next => (.ok none, next)
      | .error fault => (.error fault, reader)

/-- What each of a sequence of steps hands out, with the reader after it. -/
def run (reader : Reader) (steps : List ReadStep) :
    List (Except ReadFault (Option (List UInt8)) × Reader) :=
  Runs.trace step reader steps

/-- Taking succeeds exactly if that many bytes are left. -/
theorem take_of_le {reader : Reader} {count : Nat}
    (enough : count ≤ reader.remaining.length) :
    reader.take count = .ok (reader.remaining.take count,
      ⟨reader.position + count, reader.remaining.drop count⟩) := by
  simp [take, enough]

/-- Taking more than is left reports how much is missing and where. -/
theorem take_of_lt {reader : Reader} {count : Nat}
    (short : reader.remaining.length < count) :
    reader.take count =
      .error ⟨reader.position, count, reader.remaining.length⟩ := by
  have fewer : ¬min count reader.remaining.length = count := by omega
  simp [take, fewer]

end Reader

end StructCodec

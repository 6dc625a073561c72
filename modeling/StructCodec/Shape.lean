import StructCodec.Format

/-!
# Output shapes

How many data a caller expects from a buffer, and how each is delivered.
-/

namespace StructCodec

/-- The slots that a shape declares: a number of slots that deliver data as they
are decoded, or one slot after the other. -/
inductive Slots where
  | uniform (count : Nat)
  | listed (slots : List Slot)

namespace Slots

/-- The number of slots. -/
def count : Slots → Nat
  | .uniform count => count
  | .listed slots => slots.length

/-- The slot at an index. -/
def get? : Slots → Nat → Option Slot
  | .uniform count, index => if index < count then some .asDecoded else none
  | .listed slots, index => slots[index]?

/-- The slots one after the other. -/
def toList : Slots → List Slot
  | .uniform count => List.replicate count .asDecoded
  | .listed slots => slots

@[simp] theorem length_toList (slots : Slots) : slots.toList.length = slots.count := by
  cases slots <;> simp [toList, count]

theorem getElem?_toList (slots : Slots) (index : Nat) :
    slots.toList[index]? = slots.get? index := by
  cases slots with
  | uniform count => simp [toList, get?, List.getElem?_replicate]
  | listed slots => rfl

end Slots

/-- The machine that the program runs on, as far as it limits the number of slots. -/
class Machine where
  /-- One more than the largest number of slots that there is memory for. -/
  slotLimit : Nat
  /-- No list has `1 <<< 60` slots: each takes eight bytes, and a list has fewer than
  `1 <<< 63` bytes. -/
  slotLimit_le : slotLimit ≤ 1 <<< 60

namespace SmallMachine

/-- A machine with memory for fewer than `1 <<< 32` slots. -/
scoped instance machine : Machine :=
  ⟨1 <<< 32, by decide⟩

end SmallMachine

/-- What a caller gives for a shape. -/
inductive ShapeRequest where
  | slots (requests : List SlotRequest)
  | value (value : Value)

namespace ShapeRequest

/-- One more than the largest number of slots that can be declared by number. -/
def arityLimit : Int :=
  1 <<< 63

/-- The slots that were asked for, up to the first request that is none. -/
def readSlots : Nat → List SlotRequest → Except CodecError (List Slot)
  | _, [] => .ok []
  | index, request :: requests =>
      match request.slot? with
      | none => .error (.unsupportedSlot index request)
      | some slot => do
          let slots ← readSlots (index + 1) requests
          return slot :: slots

/-- The slots that a shape declares for a format.  Nothing at all declares one
slot for each field, and a number that many slots. -/
def resolve [Machine] (format : Format) : ShapeRequest → Except CodecError Slots
  | .slots requests => (readSlots 0 requests).map .listed
  | .value .nothing => .ok (.uniform format.fieldCount)
  | .value (.integer arity) =>
      if arity < 0 then .error (.negativeArity arity)
      else if arityLimit ≤ arity then .error .arityTooLarge
      else if (Machine.slotLimit : Int) ≤ arity then .error .arityBeyondMemory
      else .ok (.uniform arity.toNat)
  | .value (.text content) => .error (.textualShape (.text content))
  | .value (.bytes content) => .error (.textualShape (.bytes content))
  | .value (.list items) => (readSlots 0 (items.map .value)).map .listed
  | .value given => .error (.shapeNotIterable given)

end ShapeRequest

end StructCodec

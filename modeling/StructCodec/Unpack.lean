import StructCodec.Shape

/-!
# Unpacking

Directives are followed in order along the buffer: a pad passes over one byte, a
field takes as many bytes as it is wide and delivers its datum through its slot.
The first directive that fails decides the error; bytes after the last directive
are ignored.
-/

namespace StructCodec

/-- Delivers a decoded datum through the slot at an index. -/
def Slot.deliver (policy : NarrowingPolicy) (index : Nat) (datum : Datum) :
    Slot → Except CodecError Datum
  | .asDecoded => .ok datum
  | .integer => .ok (.integer datum.toInt)
  | .boolean | .scalar .boolean =>
      match datum with
      | .boolean truth => .ok (.boolean truth)
      | .integer _ => .error (.slotNotBoolean index)
  | .scalar (.integer type) =>
      match (ScalarType.integer type).narrow policy datum.toInt with
      | .ok number => .ok (.integer number)
      | .error fault => .error (.slotValue index fault)

/-- Decodes one field from its bytes on the wire and delivers it. -/
def unpackField (policy : NarrowingPolicy) (order : ByteOrder) (index : Nat)
    (type : ScalarType) (slot : Slot) (bytes : List UInt8) : Except CodecError Datum := do
  let datum ← (type.decode (order.fromWire bytes)).mapError .scalarCodec
  slot.deliver policy index datum

namespace Format

/-- Follows the directives that are left along a reader, with a byte order in
effect and the index of the next field. -/
def unpackFrom (policy : NarrowingPolicy) (text : String) (slots : Slots) :
    ByteOrder → Nat → Format → Reader → Except CodecError (List Datum)
  | _, _, [], _ => .ok []
  | _, index, .marker order :: rest, reader =>
      unpackFrom policy text slots order index rest reader
  | order, index, .pad :: rest, reader =>
      match reader.take 1 with
      | .error shortage => .error (.truncatedPad shortage)
      | .ok (_, next) => unpackFrom policy text slots order index rest next
  | order, index, .field type :: rest, reader =>
      match slots.get? index with
      | none => .error (.insufficientSlots text slots.count)
      | some slot =>
          match reader.take type.width with
          | .error shortage => .error (.truncatedField index type shortage)
          | .ok (bytes, next) => do
              let datum ← unpackField policy order index type slot bytes
              let others ← unpackFrom policy text slots order (index + 1) rest next
              return datum :: others

end Format

/-- The data in a buffer, delivered through the slots of a shape. -/
def unpack [Machine] (options : Options) (text : String) (buffer : List UInt8)
    (shape : ShapeRequest) : Except CodecError (List Datum) := do
  let format ← Format.parse options text
  let slots ← shape.resolve format
  let data ← format.unpackFrom options.narrowing text slots .initial 0 (.ofBytes buffer)
  if data.length = slots.count then
    return data
  else
    throw (.arityMismatch text data.length slots.count)

/-- The one datum in a buffer, delivered through a slot. -/
def unpackSingle [Machine] (options : Options) (text : String) (buffer : List UInt8)
    (slot : SlotRequest) : Except CodecError Datum := do
  match ← unpack options text buffer (.slots [slot]) with
  | datum :: _ => return datum
  | [] => throw (.arityMismatch text 0 1)

end StructCodec

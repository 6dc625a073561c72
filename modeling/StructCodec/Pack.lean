import StructCodec.Format

/-!
# Packing

Values are consumed in order, one for each typed field; a marker writes nothing
and a pad writes a zero byte.  The first field that fails decides the error, and
values left over are an error after the last field.
-/

namespace StructCodec

/-- The bytes of one field on the wire. -/
def packField (policy : NarrowingPolicy) (order : ByteOrder) (index : Nat)
    (type : ScalarType) (value : Value) : Except CodecError (List UInt8) := do
  let datum ← (type.coerce policy value).mapError (.field index type)
  let canonical ← (type.encode datum.toInt).mapError .scalarCodec
  return order.toWire canonical

namespace Format

/-- Packs the values that are left by the directives that are left, with a byte
order in effect and the index of the next field. -/
def packFrom (policy : NarrowingPolicy) (text : String) (provided : Nat) :
    ByteOrder → Nat → Format → List Value → Except CodecError (List UInt8)
  | _, _, [], [] => .ok []
  | _, index, [], _ :: _ => .error (.excessValues text index provided)
  | _, index, .marker order :: rest, values =>
      packFrom policy text provided order index rest values
  | order, index, .pad :: rest, values => do
      let bytes ← packFrom policy text provided order index rest values
      return 0 :: bytes
  | _, _, .field _ :: _, [] => .error (.insufficientValues text provided)
  | order, index, .field type :: rest, value :: values => do
      let bytes ← packField policy order index type value
      let others ← packFrom policy text provided order (index + 1) rest values
      return bytes ++ others

end Format

/-- The packed form of a list of values. -/
def pack (options : Options) (text : String) (values : List Value) :
    Except CodecError (List UInt8) := do
  let format ← Format.parse options text
  format.packFrom options.narrowing text values.length .initial 0 values

end StructCodec

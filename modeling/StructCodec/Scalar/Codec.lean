import StructCodec.Bytes.LittleEndian
import StructCodec.Scalar.Datum

/-!
# Encoding one scalar

Integers are written little-endian in two's complement, in exactly the width of
their type, and only if they fit it.  A boolean is one byte: 1 or 0 when
written, and true when read unless it is 0.
-/

namespace StructCodec

/-- Why bytes cannot stand for a scalar, or a scalar for bytes. -/
inductive ScalarCodecFault where
  /-- A negative integer is to be written with an unsigned type. -/
  | negativeForUnsigned
  /-- An integer needs more bytes than its type has. -/
  | tooBig
  /-- A boolean is to be read from no byte at all. -/
  | noByte
deriving DecidableEq

/-- The message of a fault. -/
def ScalarCodecFault.message : ScalarCodecFault → String
  | .negativeForUnsigned => "can't convert negative int to unsigned"
  | .tooBig => "int too big to convert"
  | .noByte => "index out of range"

/-- The little-endian bytes of an integer in a number of bytes that must hold it:
with a sign the top bit is left to it, and without one no integer is negative. -/
def Signedness.encode (signedness : Signedness) (width : Nat) (number : Int) :
    Except ScalarCodecFault (List UInt8) :=
  let patterns : Int := 1 <<< (8 * width)
  match signedness with
  | .unsigned =>
      if number < 0 then .error .negativeForUnsigned
      else if number < patterns then .ok (LittleEndian.encodeInt width number)
      else .error .tooBig
  | .signed =>
      if -patterns ≤ 2 * number ∧ 2 * number < patterns then
        .ok (LittleEndian.encodeInt width number)
      else
        .error .tooBig

namespace ScalarType

/-- The little-endian bytes of an integer, which must fit the width of its type; a
boolean asks only whether the integer is zero. -/
def encode (type : ScalarType) (number : Int) : Except ScalarCodecFault (List UInt8) :=
  match type with
  | .boolean => .ok [if number = 0 then 0 else 1]
  | .integer type => type.signedness.encode type.width.bytes number

/-- The datum that little-endian bytes stand for.  An integer may have any
number of bytes; a boolean looks at the first one. -/
def decode (type : ScalarType) (bytes : List UInt8) : Except ScalarCodecFault Datum :=
  match type with
  | .boolean =>
      match bytes with
      | [] => .error .noByte
      | byte :: _ => .ok (.boolean (byte != 0))
  | .integer ⟨.unsigned, _⟩ => .ok (.integer (LittleEndian.decodeNat bytes))
  | .integer ⟨.signed, _⟩ => .ok (.integer (LittleEndian.decodeSigned bytes))

end ScalarType

end StructCodec

/-!
# Byte order on the wire

Scalars are encoded little-endian; on the wire they stand in the byte order that
is in effect.  Going to the wire and coming back is the same reversal.
-/

namespace StructCodec

/-- The order in which the bytes of a scalar stand on the wire. -/
inductive ByteOrder where
  | little
  | big
deriving DecidableEq

namespace ByteOrder

/-- Both byte orders. -/
def all : List ByteOrder :=
  [.little, .big]

/-- The character by which a format switches to a byte order. -/
def marker : ByteOrder → Char
  | .little => '<'
  | .big => '>'

/-- The byte order that a marker switches to. -/
def ofMarker? : Char → Option ByteOrder
  | '<' => some .little
  | '>' => some .big
  | _ => none

/-- The name of a byte order in descriptions. -/
def name : ByteOrder → String
  | .little => "little"
  | .big => "big"

/-- Little-endian bytes as they stand on the wire. -/
def toWire : ByteOrder → List UInt8 → List UInt8
  | .little, bytes => bytes
  | .big, bytes => bytes.reverse

/-- Bytes as they stand on the wire, put back into little-endian order. -/
def fromWire (order : ByteOrder) (bytes : List UInt8) : List UInt8 :=
  order.toWire bytes

@[simp] theorem length_toWire (order : ByteOrder) (bytes : List UInt8) :
    (order.toWire bytes).length = bytes.length := by
  cases order <;> simp [toWire]

@[simp] theorem length_fromWire (order : ByteOrder) (bytes : List UInt8) :
    (order.fromWire bytes).length = bytes.length :=
  order.length_toWire bytes

/-- Coming back from the wire undoes going there. -/
@[simp] theorem fromWire_toWire (order : ByteOrder) (bytes : List UInt8) :
    order.fromWire (order.toWire bytes) = bytes := by
  cases order <;> simp [fromWire, toWire]

/-- Going to the wire undoes coming back from it. -/
@[simp] theorem toWire_fromWire (order : ByteOrder) (bytes : List UInt8) :
    order.toWire (order.fromWire bytes) = bytes := by
  cases order <;> simp [fromWire, toWire]

/-- The marker of a byte order switches to it. -/
@[simp] theorem ofMarker?_marker (order : ByteOrder) :
    ofMarker? order.marker = some order := by
  cases order <;> rfl

end ByteOrder

end StructCodec

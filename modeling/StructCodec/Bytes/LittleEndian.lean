/-!
# Little-endian integers

The byte of weight `256 ^ k` stands at position `k`.  Encoding takes a number of
bytes; decoding takes bytes of any number.  Signed integers are in two's
complement: the top bit of the last byte has negative weight.
-/

namespace StructCodec.LittleEndian

/-- The `width` low-order bytes of a natural number, least significant first. -/
def encodeNat : Nat → Nat → List UInt8
  | 0, _ => []
  | width + 1, number => UInt8.ofNat number :: encodeNat width (number / 256)

/-- The natural number that little-endian bytes stand for. -/
def decodeNat : List UInt8 → Nat
  | [] => 0
  | byte :: bytes => byte.toNat + 256 * decodeNat bytes

/-- The `width` low-order bytes of an integer in two's complement. -/
def encodeInt (width : Nat) (number : Int) : List UInt8 :=
  encodeNat width (number % (1 <<< (8 * width))).toNat

/-- The integer that little-endian bytes stand for in two's complement: the
natural number that they stand for, less the weight of the byte after the last
if the top bit is set.  No bytes at all stand for 0. -/
def decodeSigned (bytes : List UInt8) : Int :=
  let magnitude := decodeNat bytes
  if 1 <<< (8 * bytes.length) ≤ 2 * magnitude then
    (magnitude : Int) - (1 <<< (8 * bytes.length))
  else
    magnitude

@[simp] theorem length_encodeNat (width number : Nat) :
    (encodeNat width number).length = width := by
  induction width generalizing number with
  | zero => rfl
  | succ width induction => simp [encodeNat, induction]

@[simp] theorem length_encodeInt (width : Nat) (number : Int) :
    (encodeInt width number).length = width := by
  simp [encodeInt]

/-- Encoding what bytes stand for gives back the bytes. -/
theorem encodeNat_decodeNat (bytes : List UInt8) :
    encodeNat bytes.length (decodeNat bytes) = bytes := by
  induction bytes with
  | nil => rfl
  | cons byte bytes induction =>
      have low : UInt8.ofNat (byte.toNat + 256 * decodeNat bytes) = byte := by
        apply UInt8.toNat_inj.mp
        rw [UInt8.toNat_ofNat', Nat.add_mul_mod_self_left]
        exact Nat.mod_eq_of_lt byte.toNat_lt
      have high : (byte.toNat + 256 * decodeNat bytes) / 256 = decodeNat bytes := by
        have bound : byte.toNat < 256 := byte.toNat_lt
        omega
      simp only [List.length_cons, decodeNat, encodeNat, low, high, induction]

end StructCodec.LittleEndian

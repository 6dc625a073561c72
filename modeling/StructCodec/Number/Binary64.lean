import StructCodec.Number.Numeral
import StructCodec.Value

/-!
# Exact values of floating-point numbers

A finite binary floating-point number is an integer times a power of two, so it
can be compared with integers exactly, and is an integer exactly if its denominator
divides its numerator.
-/

namespace StructCodec

/-- What a floating-point number is as an exact number. -/
inductive ExactValue where
  | notANumber
  | infinite (negative : Bool)
  | quotient (numerator : Int) (denominator : Nat)
deriving DecidableEq

namespace ExactValue

/-- The integer that an exact value is, if it is one. -/
def integer? : ExactValue → Option Int
  | .quotient numerator denominator =>
      if numerator % denominator = 0 then some (numerator / denominator) else none
  | _ => none

/-- Whether an exact value is an integer or more; what is no number is not. -/
def atLeast (bound : Int) : ExactValue → Bool
  | .notANumber => false
  | .infinite negative => !negative
  | .quotient numerator denominator => bound * denominator ≤ numerator

/-- Whether an exact value is an integer or less; what is no number is not. -/
def atMost (bound : Int) : ExactValue → Bool
  | .notANumber => false
  | .infinite negative => negative
  | .quotient numerator denominator => numerator ≤ bound * denominator

end ExactValue

namespace Binary64

/-- The exact value of a floating-point number, from its sign, exponent and
fraction bits. -/
def exactValue (number : Float) : ExactValue :=
  let bits := number.toBits.toNat
  let fraction := bits % (1 <<< 52)
  let exponent := bits / (1 <<< 52) % (1 <<< 11)
  let negative := bits / (1 <<< 63) != 0
  if exponent = 0x7FF then
    if fraction = 0 then .infinite negative else .notANumber
  else
    let mantissa := if exponent = 0 then fraction else (1 <<< 52) + fraction
    let scale := if exponent = 0 then 1 else exponent
    let numerator := Int.ofNat (mantissa * (1 <<< (scale - 1075)))
    .quotient (if negative then -numerator else numerator) (1 <<< (1075 - scale))

end Binary64

namespace FloatLiteral

/-- The integer that an exponent stands for. -/
def exponentValue : List Char → Int
  | '-' :: digits => -(Numeral.digitsValue digits : Int)
  | '+' :: digits => Numeral.digitsValue digits
  | digits => Numeral.digitsValue digits

/-- The number that a decimal without a sign stands for: digits, perhaps with a
point among them, and perhaps a power of ten after the letter `e`. -/
def magnitude (text : List Char) : Float :=
  let decimal := text.takeWhile (· ≠ 'e')
  let power := exponentValue ((text.dropWhile (· ≠ 'e')).drop 1)
  let whole := decimal.takeWhile (· ≠ '.')
  let fraction := (decimal.dropWhile (· ≠ '.')).drop 1
  let exponent := power - fraction.length
  Float.ofScientific (Numeral.digitsValue (whole ++ fraction)) (exponent < 0) exponent.natAbs

/-- The floating-point number that a literal without a sign stands for. -/
def unsignedValue (text : List Char) : Float :=
  if text = ['n', 'a', 'n'] then 0.0 / 0.0
  else if text = ['i', 'n', 'f'] then 1.0 / 0.0
  else magnitude text

/-- The floating-point number that a literal stands for. -/
def toFloat (literal : FloatLiteral) : Float :=
  match literal.text.toList with
  | '-' :: text => -(unsignedValue text)
  | text => unsignedValue text

end FloatLiteral

end StructCodec

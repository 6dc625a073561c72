/-!
# Integers rounded to 53 significant bits

Binary floating-point numbers hold 53 significant bits, so a large integer is held
as the nearest one that has no more.  Such an integer is written by the decimal with
the fewest significant digits that is still rounded to it.
-/

namespace StructCodec

/-- A natural number written as a significand times a power of two. -/
structure RoundedNat where
  significand : Nat
  exponent : Nat
deriving DecidableEq

namespace RoundedNat

/-- The number that is written. -/
def value (rounded : RoundedNat) : Nat :=
  rounded.significand * (1 <<< rounded.exponent)

/-- A number rounded to 53 significant bits; halfway between two of them, the one
with an even significand is taken. -/
def ofNat (number : Nat) : RoundedNat :=
  let exponent := number.log2 - 52
  let unit := 1 <<< exponent
  let below := number / unit
  let rest := number % unit
  let significand :=
    if 2 * rest < unit ∨ (2 * rest = unit ∧ below % 2 = 0) then below else below + 1
  if significand = 1 <<< 53 then ⟨1 <<< 52, exponent + 1⟩ else ⟨significand, exponent⟩

/-- A number that needs no more than 53 bits stays as it is. -/
theorem ofNat_of_lt {number : Nat} (small : number < 1 <<< 53) : ofNat number = ⟨number, 0⟩ := by
  have exponent : number.log2 - 52 = 0 := by
    by_cases zero : number = 0
    · simp [zero]
    · rw [Nat.one_shiftLeft] at small
      have := (Nat.log2_lt zero).mpr small
      omega
  simp [ofNat, exponent, Nat.mod_one]
  omega

/-- The largest exponent of a floating-point number. -/
def maxExponent : Nat :=
  971

/-- A number rounded to 53 significant bits, unless it is too large for a
floating-point number. -/
def ofNat? (number : Nat) : Option RoundedNat :=
  if (ofNat number).exponent ≤ maxExponent then some (ofNat number) else none

/-- The better of two decimals, the one below and the one above a rounded number:
one that is rounded to it, and of two such the nearer. -/
def choose? (rounded : RoundedNat) (below above : Nat) : Option Nat :=
  if ofNat below = rounded then
    if ofNat above = rounded ∧ below + above ≤ 2 * rounded.value then some above
    else some below
  else if ofNat above = rounded then some above
  else none

/-- The first decimal that is rounded to a number, of those that end with a number of
zeros or fewer. -/
def decimalFrom (rounded : RoundedNat) : Nat → Nat
  | 0 => rounded.value
  | zeros + 1 =>
      let unit := 10 ^ (zeros + 1)
      let below := rounded.value / unit * unit
      match rounded.choose? below (below + unit) with
      | some decimal => decimal
      | none => rounded.decimalFrom zeros

/-- The decimal with the fewest significant digits that is rounded to a number. -/
def shortestDecimal (rounded : RoundedNat) : Nat :=
  rounded.decimalFrom (toString rounded.value).length

end RoundedNat

namespace Binary64

/-- The floating-point number nearest to an integer, which is an integer again. -/
def nearestInt? (number : Int) : Option Int :=
  (RoundedNat.ofNat? number.natAbs).map (fun rounded => number.sign * rounded.value)

/-- The integer with the fewest significant digits to which the same floating-point
number is nearest as to a given one. -/
def shortestInt? (number : Int) : Option Int :=
  (RoundedNat.ofNat? number.natAbs).map (fun rounded => number.sign * rounded.shortestDecimal)

end Binary64

end StructCodec

import StructCodec.Text.Blank

/-!
# Integers written as text

Blank characters around the numeral, a sign in front of it, zeros in front of its
digits and single underscores between them are allowed; a point may follow if only
zeros, and at least one, come after it.  In canonical form a numeral has at most a
minus sign and then digits that start with a zero only if there is no other.  Text is
first read as it is; if it is no canonical numeral, it is brought into canonical form
and read once more.
-/

namespace StructCodec.Numeral

/-- Why text gives no integer. -/
inductive Fault where
  /-- The text is no numeral, or has too many digits once it is brought into
  canonical form. -/
  | malformed
  /-- The text starts with more digits than are read. -/
  | tooLong
deriving DecidableEq

/-- The largest number of digits that are read. -/
def digitLimit : Nat :=
  4300

/-- The value of a decimal digit. -/
def digitValue (char : Char) : Nat :=
  char.toNat - '0'.toNat

/-- The value of decimal digits. -/
def digitsValue (digits : List Char) : Nat :=
  digits.foldl (fun value digit => 10 * value + digitValue digit) 0

/-- Passes over zeros, and underscores behind them, up to another digit or a minus
sign.  If there is none, the last character that was passed over stays. -/
def skipZeros : Char → List Char → Option (List Char)
  | last, [] => some [last]
  | last, '.' :: rest => some (last :: '.' :: rest)
  | _, char :: rest =>
      if char = '0' ∨ char = '_' then skipZeros char rest
      else if char.isDigit ∨ char = '-' then some (char :: rest)
      else none

/-- Text without the zeros in front; it must start with a digit or a minus sign. -/
def dropLeadingZeros : List Char → Option (List Char)
  | [] => none
  | '0' :: rest => skipZeros '0' rest
  | char :: rest => if char.isDigit ∨ char = '-' then some (char :: rest) else none

/-- Text without its first point and what follows, if at least one zero and nothing
else follows. -/
def dropFraction (text : List Char) : List Char :=
  match text.dropWhile (· ≠ '.') with
  | _ :: '0' :: zeros => if zeros.all (· = '0') then text.takeWhile (· ≠ '.') else text
  | _ => text

/-- Whether each underscore stands between two other characters. -/
def hasSingleUnderscores (text : List Char) : Bool :=
  text.head? ≠ some '_' && text.getLast? ≠ some '_' &&
    (text.zip text.tail).all (fun pair => pair ≠ ('_', '_'))

/-- Text without underscores, each of which must stand between two other
characters. -/
def dropUnderscores (text : List Char) : Option (List Char) :=
  if hasSingleUnderscores text then some (text.filter (· ≠ '_')) else none

/-- Brings a numeral without a sign into canonical form. -/
def normalizeUnsigned (text : List Char) : Option (List Char) := do
  dropUnderscores (dropFraction (← dropLeadingZeros text))

/-- Brings a numeral into canonical form. -/
def normalize (text : List Char) : Option (List Char) :=
  match Text.trimBlanks text with
  | '+' :: '-' :: _ => none
  | '+' :: rest => normalizeUnsigned rest
  | '-' :: rest => (normalizeUnsigned rest).map ('-' :: ·)
  | rest => normalizeUnsigned rest

/-- Reads digits, of which only a zero that stands alone may be a zero in front.
Too many of them are an error even if something else follows. -/
def readDigits (text : List Char) : Except Fault Nat :=
  match text with
  | ['0'] => .ok 0
  | '0' :: _ => .error .malformed
  | text =>
      let digits := text.takeWhile Char.isDigit
      if digitLimit < digits.length then .error .tooLong
      else if digits.isEmpty ∨ digits.length < text.length then .error .malformed
      else .ok (digitsValue digits)

/-- Reads a numeral in canonical form. -/
def readCanonical : List Char → Except Fault Int
  | '-' :: digits => (readDigits digits).map (fun number => -(number : Int))
  | digits => (readDigits digits).map Int.ofNat

/-- Reads a numeral. -/
def readInt (text : List Char) : Except Fault Int :=
  match readCanonical text with
  | .error .malformed =>
      match (normalize text).map readCanonical with
      | some (.ok number) => .ok number
      | _ => .error .malformed
  | outcome => outcome

end StructCodec.Numeral

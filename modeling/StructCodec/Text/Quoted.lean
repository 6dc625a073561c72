import StructCodec.Text.Printable

/-!
# Quoted text

Messages show text and bytes between quotes.  The quote is a single one, unless
the text holds single quotes and no double ones.  The quote and the backslash
are written behind a backslash, tab, newline and carriage return by a letter,
and what may not stand for itself by its code in hexadecimal digits.
-/

namespace StructCodec.Text

/-- The last `count` hexadecimal digits of a number, in lower case. -/
def hexDigits : Nat → Nat → List Char
  | 0, _ => []
  | count + 1, number => hexDigits count (number / 16) ++ [Nat.digitChar (number % 16)]

/-- The quote that text is written between. -/
def quoteFor (text : List Char) : Char :=
  if text.contains '\'' && !text.contains '"' then '"' else '\''

/-- A character by its code: two digits after `x`, four after `u` or eight after
`U`, whichever is the first to suffice. -/
def escapeCode (char : Char) : List Char :=
  if char.toNat < 0x100 then
    '\\' :: 'x' :: hexDigits 2 char.toNat
  else if char.toNat < 0x10000 then
    '\\' :: 'u' :: hexDigits 4 char.toNat
  else
    '\\' :: 'U' :: hexDigits 8 char.toNat

/-- The written form of one character between quotes, where `plain` says which
characters may stand for themselves. -/
def escape (plain : Char → Bool) (quote : Char) (char : Char) : List Char :=
  if char = quote ∨ char = '\\' then ['\\', char]
  else if char = '\t' then ['\\', 't']
  else if char = '\n' then ['\\', 'n']
  else if char = '\r' then ['\\', 'r']
  else if plain char then [char]
  else escapeCode char

/-- Text between quotes. -/
def quoteWith (plain : Char → Bool) (text : List Char) : List Char :=
  let quote := quoteFor text
  quote :: text.flatMap (escape plain quote) ++ [quote]

/-- Text between quotes, in which printable characters stand for themselves. -/
def quoted (text : String) : String :=
  String.ofList (quoteWith isPrintable text.toList)

/-- Bytes between quotes behind the letter `b`: a byte that is the code of a
printable ASCII character is written as that character. -/
def quotedBytes (bytes : List UInt8) : String :=
  let chars := bytes.map (fun byte => Char.ofNat byte.toNat)
  let plain := fun char : Char => 0x20 ≤ char.toNat && char.toNat < 0x7F
  String.ofList ('b' :: quoteWith plain chars)

end StructCodec.Text

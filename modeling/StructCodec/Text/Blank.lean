/-!
# Blank characters

The characters with the Unicode property White_Space, which may surround a
number written as text.
-/

namespace StructCodec.Text

/-- The code points of blank characters, as closed ranges, ascending. -/
def blankRanges : List (Nat × Nat) :=
  [(0x09, 0x0D), (0x20, 0x20), (0x85, 0x85), (0xA0, 0xA0), (0x1680, 0x1680),
    (0x2000, 0x200A), (0x2028, 0x2029), (0x202F, 0x202F), (0x205F, 0x205F),
    (0x3000, 0x3000)]

/-- Whether a character is blank. -/
def isBlank (char : Char) : Bool :=
  blankRanges.any (fun range => range.1 ≤ char.toNat && char.toNat ≤ range.2)

/-- Text without the blank characters at its ends. -/
def trimBlanks (text : List Char) : List Char :=
  ((text.dropWhile isBlank).reverse.dropWhile isBlank).reverse

end StructCodec.Text

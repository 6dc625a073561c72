import StructCodec.Options

/-!
# Formats

A format is a sequence of directives, each written as one character: a byte-order
marker, a pad byte, or the tag of a typed field.  A marker is in effect until the
next one; before the first marker the byte order is little-endian.  Whitespace
between directives may be allowed and says nothing.
-/

namespace StructCodec

/-- One instruction of a format. -/
inductive Directive where
  /-- Switches the byte order of the fields that follow. -/
  | marker (order : ByteOrder)
  /-- One byte that holds no value. -/
  | pad
  /-- One scalar. -/
  | field (type : ScalarType)
deriving DecidableEq

/-- A format that has been read. -/
abbrev Format := List Directive

/-- The byte order before the first marker. -/
def ByteOrder.initial : ByteOrder :=
  .little

namespace Directive

/-- The character that a directive is written as. -/
def toChar : Directive → Char
  | .marker order => order.marker
  | .pad => 'x'
  | .field type => type.tag

/-- The directive that a character stands for. -/
def ofChar? (char : Char) : Option Directive :=
  match ByteOrder.ofMarker? char with
  | some order => some (.marker order)
  | none =>
      if char = 'x' then some .pad
      else (ScalarType.ofTag? char).map .field

/-- The number of bytes that a directive takes up in the packed form. -/
def width : Directive → Nat
  | .marker _ => 0
  | .pad => 1
  | .field type => type.width

/-- Whether a directive is a typed field. -/
def isField : Directive → Bool
  | .field _ => true
  | _ => false

/-- Whether a directive is a pad byte. -/
def isPad : Directive → Bool
  | .pad => true
  | _ => false

/-- The character that a directive is written as stands for it. -/
@[simp] theorem ofChar?_toChar (directive : Directive) :
    ofChar? directive.toChar = some directive := by
  cases directive with
  | marker order => cases order <;> rfl
  | pad => rfl
  | field type =>
      cases type with
      | integer type =>
          obtain ⟨signedness, width⟩ := type
          cases signedness <;> cases width <;> decide
      | boolean => decide

end Directive

namespace Format

/-- The whitespace that may stand between directives: tab to carriage return,
the four separator controls, and the space. -/
def isBlank (char : Char) : Bool :=
  (0x09 ≤ char.toNat && char.toNat ≤ 0x0D) || (0x1C ≤ char.toNat && char.toNat ≤ 0x20)

/-- Reads the directives of a format from a position on; `text` is the whole
format, of which an error speaks. -/
def readFrom (ignoreBlanks : Bool) (text : String) :
    Nat → List Char → Except CodecError Format
  | _, [] => .ok []
  | position, char :: rest =>
      match Directive.ofChar? char with
      | some directive => do
          let directives ← readFrom ignoreBlanks text (position + 1) rest
          return directive :: directives
      | none =>
          if ignoreBlanks && isBlank char then
            readFrom ignoreBlanks text (position + 1) rest
          else
            .error (.unknownFormatChar char position text)

/-- Reads a format. -/
def parse (options : Options) (text : String) : Except CodecError Format :=
  readFrom options.ignoreWhitespace text 0 text.toList

/-- The text of a format, without any whitespace. -/
def toText (format : Format) : String :=
  String.ofList (format.map Directive.toChar)

/-- The number of typed fields of a format. -/
def fieldCount (format : Format) : Nat :=
  format.countP Directive.isField

/-- The number of pad bytes of a format. -/
def padCount (format : Format) : Nat :=
  format.countP Directive.isPad

/-- The number of bytes of the packed form. -/
def size : Format → Nat
  | [] => 0
  | directive :: rest => directive.width + size rest

@[simp] theorem fieldCount_nil : fieldCount [] = 0 := rfl

@[simp] theorem fieldCount_marker (order : ByteOrder) (rest : Format) :
    fieldCount (.marker order :: rest) = rest.fieldCount := rfl

@[simp] theorem fieldCount_pad (rest : Format) :
    fieldCount (.pad :: rest) = rest.fieldCount := rfl

@[simp] theorem fieldCount_field (type : ScalarType) (rest : Format) :
    fieldCount (.field type :: rest) = rest.fieldCount + 1 :=
  List.countP_cons_of_pos rfl

end Format

/-- The text that is given for a format. -/
def Value.formatText (given : Value) : Except CodecError String :=
  match given with
  | .text content => .ok content
  | _ => .error (.formatNotText given)

end StructCodec

import StructCodec.Layout

/-!
# Describing a format

A table with one row for each directive, between a heading that counts fields and
pad bytes and a summary of the packed size.  It is printed line by line, so that
what is printed before an error stays printed.
-/

namespace StructCodec

/-- What prints lines and may fail. -/
abbrev Printing := ExceptT CodecError (StateM (List String))

namespace Printing

/-- Prints lines behind those that are printed already. -/
def print (lines : List String) : Printing Unit :=
  modify (· ++ lines)

/-- How printing ends, and the lines that it has printed by then. -/
def start {α : Type} (printing : Printing α) : Except CodecError α × List String :=
  printing.run.run []

end Printing

namespace Description

/-- The same character a number of times. -/
def rule (char : Char) (count : Nat) : String :=
  String.ofList (List.replicate count char)

/-- A number set to the right in six columns. -/
def column (number : Nat) : String :=
  let digits := toString number
  rule ' ' (6 - digits.length) ++ digits

/-- A noun that counts: it stands in the plural unless there is one of it. -/
def counted (count : Nat) (noun : String) : String :=
  if count = 1 then s!"{count} {noun}" else s!"{count} {noun}s"

/-- The row of a directive. -/
def row : Placement → String
  | .marker order => s!"        {order.marker}  byte order -> {order.name}"
  | .pad offset => s!"{column offset}  x  pad" ++ rule '.' 36 ++ counted 1 "byte"
  | .field placement =>
      let name := s!"{placement.index}. {placement.type.name} ({placement.order.name})"
      let dots := rule '.' (max 1 (39 - name.length))
      s!"{column placement.offset}  {placement.type.tag}  {name}{dots}" ++
        counted placement.type.width "byte"

/-- The lines in front of the rows. -/
def heading (layout : Layout) : List String :=
  [rule '|' 7 ++ " structpacker: Fixed-width Binary Struct Codec " ++ rule '|' 7,
    s!"Format: {Text.quoted layout.text}",
    counted layout.fieldCount "field" ++ ", " ++ counted layout.padCount "pad byte" ++ ".",
    "",
    rule '-' 24 ++ " Directives " ++ rule '-' 24]

/-- The lines after the rows. -/
def summary (layout : Layout) : List String :=
  ["",
    rule '=' 24 ++ " Summary " ++ rule '=' 24,
    s!"Packed size: {layout.size} bytes / {layout.size * 8} bits",
    ""]

/-- The rows of the directives that are left, with the offset of the next byte and
the fields that are left.  Each field directive takes the first of these fields; a
marker or a pad takes none. -/
def rowsFrom : Nat → (format : Format) → (fields : List FieldPlacement) →
    fields.length = format.fieldCount → List String
  | _, [], _, _ => []
  | offset, .marker order :: rest, fields, each =>
      row (.marker order) :: rowsFrom offset rest fields each
  | offset, .pad :: rest, fields, each =>
      row (.pad offset) :: rowsFrom (offset + 1) rest fields each
  | offset, .field _ :: rest, field :: fields, each =>
      row (.field field) ::
        rowsFrom (offset + field.type.width) rest fields (by simpa using each)
  | _, .field _ :: _, [], each => absurd each (by simp)

/-- The rows of a layout. -/
def rows (layout : Layout) : List String :=
  rowsFrom 0 layout.format layout.fields (Format.length_fields layout.format)

/-- Prints the description of a format read under the default options. -/
def print (text : String) : Printing Unit := do
  let layout ← Layout.compile {} text
  Printing.print (heading layout)
  Printing.print (rows layout)
  Printing.print (summary layout)

end Description

/-- The description of a format read under the default options, line by line. -/
def describe (text : String) : Except CodecError (List String) :=
  let (ended, lines) := (Description.print text).start
  ended.map (fun _ => lines)

end StructCodec

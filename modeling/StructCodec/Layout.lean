import StructCodec.Pack
import StructCodec.Unpack

/-!
# Layouts

Where the directives of a format stand in the packed form.  A layout is a format
that was read once, with the options it was read under; it knows its size and the
offset, type and byte order of each field.
-/

namespace StructCodec

/-- Where one field stands, and in which byte order. -/
structure FieldPlacement where
  index : Nat
  type : ScalarType
  offset : Nat
  order : ByteOrder
deriving DecidableEq

/-- Where one directive stands. -/
inductive Placement where
  | marker (order : ByteOrder)
  | pad (offset : Nat)
  | field (placement : FieldPlacement)
deriving DecidableEq

namespace Placement

/-- The field that stands there, if it is one. -/
def field? : Placement → Option FieldPlacement
  | .field placement => some placement
  | _ => none

/-- The offset of the pad byte that stands there, if it is one. -/
def padOffset? : Placement → Option Nat
  | .pad offset => some offset
  | _ => none

/-- The fields among a run of placements. -/
def fields (placements : List Placement) : List FieldPlacement :=
  placements.filterMap field?

@[simp] theorem fields_nil : fields [] = [] := rfl

@[simp] theorem fields_marker (order : ByteOrder) (placements : List Placement) :
    fields (.marker order :: placements) = fields placements := rfl

@[simp] theorem fields_pad (offset : Nat) (placements : List Placement) :
    fields (.pad offset :: placements) = fields placements := rfl

@[simp] theorem fields_field (field : FieldPlacement) (placements : List Placement) :
    fields (.field field :: placements) = field :: fields placements := rfl

end Placement

namespace Format

/-- Places the directives that are left, with a byte order in effect, the offset
of the next byte and the index of the next field. -/
def placeFrom : ByteOrder → Nat → Nat → Format → List Placement
  | _, _, _, [] => []
  | _, offset, index, .marker order :: rest =>
      .marker order :: placeFrom order offset index rest
  | order, offset, index, .pad :: rest =>
      .pad offset :: placeFrom order (offset + 1) index rest
  | order, offset, index, .field type :: rest =>
      .field ⟨index, type, offset, order⟩ ::
        placeFrom order (offset + type.width) (index + 1) rest

/-- Where each directive of a format stands. -/
def placements (format : Format) : List Placement :=
  format.placeFrom .initial 0 0

/-- Where each field of a format stands. -/
def fields (format : Format) : List FieldPlacement :=
  format.placements.filterMap Placement.field?

/-- The offsets of the pad bytes of a format. -/
def padOffsets (format : Format) : List Nat :=
  format.placements.filterMap Placement.padOffset?

/-- Every directive is placed. -/
theorem length_placeFrom (order : ByteOrder) (offset index : Nat) (format : Format) :
    (format.placeFrom order offset index).length = format.length := by
  induction format generalizing order offset index with
  | nil => rfl
  | cons directive rest induction =>
      cases directive <;> simp [placeFrom, induction]

/-- There is a placement for every field. -/
theorem length_fields_placeFrom (order : ByteOrder) (offset index : Nat) (format : Format) :
    (Placement.fields (format.placeFrom order offset index)).length = format.fieldCount := by
  induction format generalizing order offset index with
  | nil => rfl
  | cons directive rest induction =>
      cases directive <;> simp [placeFrom, induction]

@[simp] theorem length_fields (format : Format) : format.fields.length = format.fieldCount :=
  length_fields_placeFrom .initial 0 0 format

end Format

/-- A format that was read once, with its text and its options. -/
structure Layout where
  text : String
  options : Options
  format : Format

namespace Layout

/-- Reads the format of a layout. -/
def compile (options : Options) (text : String) : Except CodecError Layout := do
  let format ← Format.parse options text
  return ⟨text, options, format⟩

/-- The number of bytes of the packed form. -/
def size (layout : Layout) : Nat :=
  layout.format.size

/-- The number of pad bytes. -/
def padCount (layout : Layout) : Nat :=
  layout.format.padCount

/-- The number of fields. -/
def fieldCount (layout : Layout) : Nat :=
  layout.format.fieldCount

/-- The fields in order. -/
def fields (layout : Layout) : List FieldPlacement :=
  layout.format.fields

/-- The offset of each field. -/
def fieldOffsets (layout : Layout) : List Nat :=
  layout.fields.map (·.offset)

/-- What is told about a layout: its parts. -/
structure Summary where
  text : String
  options : Options
  format : Format
  fields : List FieldPlacement
  padCount : Int
  size : Int

namespace Summary

/-- The number of fields. -/
def fieldCount (summary : Summary) : Nat :=
  summary.fields.length

/-- The form in which a layout is shown. -/
def shown (summary : Summary) : String :=
  s!"Layout({Text.quoted summary.text}, size={summary.size}, fields={summary.fieldCount})"

end Summary

/-- The parts of a layout, told. -/
def summary (layout : Layout) : Summary :=
  ⟨layout.text, layout.options, layout.format, layout.fields, layout.padCount, layout.size⟩

/-- The form in which a layout is shown. -/
def shown (layout : Layout) : String :=
  layout.summary.shown

/-- Packs values by the format of a layout. -/
def pack (layout : Layout) (values : List Value) : Except CodecError (List UInt8) :=
  StructCodec.pack layout.options layout.text values

/-- Unpacks a buffer by the format of a layout. -/
def unpack [Machine] (layout : Layout) (buffer : List UInt8) (shape : ShapeRequest) :
    Except CodecError (List Datum) :=
  StructCodec.unpack layout.options layout.text buffer shape

/-- Unpacks the one datum of a buffer by the format of a layout. -/
def unpackSingle [Machine] (layout : Layout) (buffer : List UInt8) (slot : SlotRequest) :
    Except CodecError Datum :=
  StructCodec.unpackSingle layout.options layout.text buffer slot

end Layout

end StructCodec

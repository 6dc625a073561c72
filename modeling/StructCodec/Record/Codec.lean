import StructCodec.Pack
import StructCodec.Record.Basic
import StructCodec.Record.Schema
import StructCodec.Unpack

/-!
# Packing and unpacking records

The fields of a record, in declaration order, are the values to pack and the slots
to unpack into.
-/

namespace StructCodec.Record

/-- Packs the values of a record by the format given, or the format of its class. -/
def pack (record : Record) (recordClass : RecordClass) (options : Options) (format : Value) :
    Except RecordError (List UInt8) := do
  let _ ← recordClass.schema
  let resolved ← recordClass.resolveFormat format
  let values := record.values.map (·.2)
  let packed := do StructCodec.pack options (← resolved.formatText) values
  packed.mapError .codec

/-- Unpacks a record of a class by the format given, or the format of the class.  The data
are handed to what makes the records. -/
def unpack [Machine] (maker : RecordMaker) (recordClass : RecordClass) (options : Options)
    (buffer : List UInt8) (format : Value) : Except RecordError Record := do
  let slots ← recordClass.schema
  let resolved ← recordClass.resolveFormat format
  let shape := ShapeRequest.slots (slots.map (fun slot => .slot slot.slot))
  let unpacked := do StructCodec.unpack options (← resolved.formatText) buffer shape
  let data ← unpacked.mapError .codec
  let given := (slots.map (·.name)).zip (data.map Datum.toValue)
  (maker recordClass given).mapError (RecordError.ofConstruction recordClass.name)

end StructCodec.Record

import StructCodec.Record.Codec
import StructCodec.Runs

/-!
# Working with one record

A session holds a class and at most one record of it, which steps make, change,
compare, pack and replace.
-/

namespace StructCodec

/-- What can be asked of a session. -/
inductive RecordStep where
  | schema
  | resolve (format : Value)
  | make (values : List (String × Value))
  | assign (name : String) (value : Value)
  | compare (values : List (String × Value))
  | pack (options : Options) (format : Value)
  | unpack (options : Options) (buffer : List UInt8) (format : Value)

/-- What a session answers. -/
inductive RecordAnswer where
  | slots (slots : List FieldSlot)
  | format (format : Value)
  | done
  | equal (verdict : Bool)
  | bytes (bytes : List UInt8)

/-- A class and the current record of it, if there is one. -/
structure RecordSession where
  recordClass : RecordClass
  current? : Option Record

namespace RecordSession

/-- A session without a record. -/
def ofClass (recordClass : RecordClass) : RecordSession :=
  ⟨recordClass, none⟩

/-- The current record, which some steps need. -/
def current (session : RecordSession) : Except RecordError Record :=
  match session.current? with
  | some record => .ok record
  | none => .error .noRecord

/-- The same session with another current record. -/
def replace (session : RecordSession) (record : Record) : RecordSession :=
  ⟨session.recordClass, some record⟩

/-- The answer to a step and the session after it, unless the step fails. -/
def perform [Machine] (maker : RecordMaker) (session : RecordSession) :
    RecordStep → Except RecordError (RecordAnswer × RecordSession)
  | .schema => do
      let slots ← session.recordClass.schema
      return (.slots slots, session)
  | .resolve format => do
      let _ ← session.recordClass.schema
      let resolved ← session.recordClass.resolveFormat format
      return (.format resolved, session)
  | .make values => do
      let record ← (maker session.recordClass values).mapError .ofFault
      return (.done, session.replace record)
  | .assign name value => do
      let record ← session.current
      let changed ← record.assign session.recordClass name value
      return (.done, session.replace changed)
  | .compare values => do
      let record ← session.current
      let other ← (maker session.recordClass values).mapError .ofFault
      return (.equal (record.same other), session)
  | .pack options format => do
      let record ← session.current
      let bytes ← record.pack session.recordClass options format
      return (.bytes bytes, session)
  | .unpack options buffer format => do
      let record ← Record.unpack maker session.recordClass options buffer format
      return (.done, session.replace record)

/-- One step: its answer and the session after it, which a failed step leaves as it
was. -/
def step [Machine] (maker : RecordMaker) (session : RecordSession) (asked : RecordStep) :
    Except RecordError RecordAnswer × RecordSession :=
  match session.perform maker asked with
  | .ok (answer, next) => (.ok answer, next)
  | .error error => (.error error, session)

/-- The answers to a sequence of steps, each with the session after it. -/
def run [Machine] (maker : RecordMaker) (session : RecordSession) (steps : List RecordStep) :
    List (Except RecordError RecordAnswer × RecordSession) :=
  Runs.trace (step maker) session steps

end RecordSession

end StructCodec

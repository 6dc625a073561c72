import StructCodec.Error

/-!
# Options

The settings under which formats are read and integers are fitted.
-/

namespace StructCodec

/-- The settings of the codec. -/
structure Options where
  narrowing : NarrowingPolicy := .wrap
  ignoreWhitespace : Bool := true
deriving DecidableEq

/-- The narrowing policy that a value names. -/
def NarrowingPolicy.ofValue (given : Value) : Except CodecError NarrowingPolicy :=
  match given with
  | .text "wrap" => .ok .wrap
  | .text "strict" => .ok .strict
  | _ => .error (.invalidNarrowing given)

/-- The name of a narrowing policy. -/
def NarrowingPolicy.name : NarrowingPolicy → String
  | .wrap => "wrap"
  | .strict => "strict"

/-- Options from the values given for them; what is not given has its default.
The narrowing policy is looked at first. -/
def Options.ofValues (narrowing? ignoreWhitespace? : Option Value) :
    Except CodecError Options := do
  let narrowing ← match narrowing? with
    | none => .ok NarrowingPolicy.wrap
    | some given => NarrowingPolicy.ofValue given
  match ignoreWhitespace? with
  | none => .ok ⟨narrowing, true⟩
  | some (.boolean truth) => .ok ⟨narrowing, truth⟩
  | some given => .error (.invalidIgnoreWhitespace given)

end StructCodec

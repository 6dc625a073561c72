import StructCodec.Number.Binary64

/-!
# Equality of values

Numbers are compared by what they stand for, whether they are booleans, integers
or floating-point numbers; everything else by kind and content.  A register
equals no other object, and neither does a number that is not a number.
-/

namespace StructCodec.Value

/-- What a boolean, an integer or a floating-point number is as an exact number; a
boolean counts as 0 or 1. -/
def exactValue? : Value → Option ExactValue
  | .boolean truth => some (.quotient (if truth then 1 else 0) 1)
  | .integer number => some (.quotient number 1)
  | .float literal => some (Binary64.exactValue literal.toFloat)
  | _ => none

/-- The exact integer that a number stands for, if it is one. -/
def exactInteger? (value : Value) : Option Int :=
  value.exactValue?.bind ExactValue.integer?

mutual

/-- Whether two values that are different objects are equal. -/
def same : Value → Value → Bool
  | .nothing, .nothing => true
  | .text left, .text right => left == right
  | .bytes left, .bytes right => left == right
  | .list left, .list right => sameItems left right
  | .scalar left, .scalar right => left == right
  | .float left, .float right => left.toFloat == right.toFloat
  | left, right =>
      match left.exactInteger?, right.exactInteger? with
      | some leftNumber, some rightNumber => leftNumber == rightNumber
      | _, _ => false

/-- Whether two lists of values have equal items. -/
def sameItems : List Value → List Value → Bool
  | [], [] => true
  | left :: lefts, right :: rights => left.same right && sameItems lefts rights
  | _, _ => false

end

mutual

/-- Whether two copies of a value are equal: copying a list copies the registers
in it, and a copied register is another object. -/
def copiesAgree : Value → Bool
  | .list items => itemCopiesAgree items
  | .register _ => false
  | _ => true

/-- Whether two copies of a list have equal items. -/
def itemCopiesAgree : List Value → Bool
  | [] => true
  | item :: items => item.copiesAgree && itemCopiesAgree items

end

/-- Whether two uses of one default are equal.  A list is copied for each use;
anything else is the same object each time. -/
def usesAgree : Value → Bool
  | .list items => itemCopiesAgree items
  | _ => true

end StructCodec.Value

import StructCodec.Description
import StructCodec.Proofs.Geometry

/-!
# What the rows of a table show

The columns of a table are set apart by blanks, dots and brackets.  What stands between them
are the words of a line, and the words of a row say all that there is to say about its
placement, whatever the widths of the columns.
-/

namespace StructCodec

namespace Description

/-- Whether a character sets the words of a line apart. -/
def isSeparator (char : Char) : Bool :=
  [' ', '.', ',', '(', ')', '\n'].contains char

/-- The words among characters. -/
def wordsOf (chars : List Char) : List String :=
  ((chars.splitOnP isSeparator).filter (fun word => !word.isEmpty)).map String.ofList

/-- The words of a line. -/
def words (line : String) : List String :=
  wordsOf line.toList

/-- Characters that make up one word. -/
structure IsWord (chars : List Char) : Prop where
  nonempty : chars.isEmpty = false
  unbroken : chars.any isSeparator = false

theorem IsWord.isSeparator_of_mem {chars : List Char} (isWord : IsWord chars) :
    ∀ char ∈ chars, isSeparator char = false := by
  intro char member
  exact Bool.eq_false_of_not_eq_true (List.any_eq_false.mp isWord.unbroken char member)

theorem IsWord.lineBreak_notMem {chars : List Char} (isWord : IsWord chars) :
    '\n' ∉ chars := by
  intro member
  cases isWord.isSeparator_of_mem '\n' member

theorem not_isSeparator_of_isDigit {char : Char} (isDigit : char.isDigit = true) :
    ¬isSeparator char = true := by
  intro separates
  have listed := List.mem_of_elem_eq_true separates
  simp only [List.mem_cons, List.not_mem_nil, or_false] at listed
  rcases listed with rfl | rfl | rfl | rfl | rfl | rfl <;> cases isDigit

theorem isWord_repr (number : Nat) : IsWord number.repr.toList := by
  rw [Nat.repr_eq_ofList_toDigits, String.toList_ofList]
  constructor
  · rw [List.isEmpty_eq_false_iff]
    exact Nat.toDigits_ne_nil
  · rw [List.any_eq_false]
    intro char member
    exact not_isSeparator_of_isDigit
      (Nat.isDigit_of_mem_toDigits (by decide) (by decide) member)

theorem isWord_typeName (type : ScalarType) : IsWord type.name.toList := by
  obtain ⟨⟨⟩ | ⟨⟩, ⟨⟩ | ⟨⟩ | ⟨⟩ | ⟨⟩⟩ | ⟨⟩ := type <;> exact ⟨rfl, rfl⟩

theorem isWord_orderName (order : ByteOrder) : IsWord order.name.toList := by
  cases order <;> exact ⟨rfl, rfl⟩

theorem isWord_tag (type : ScalarType) : IsWord type.tag.toString.toList := by
  obtain ⟨⟨⟩ | ⟨⟩, ⟨⟩ | ⟨⟩ | ⟨⟩ | ⟨⟩⟩ | ⟨⟩ := type <;> exact ⟨rfl, rfl⟩

section

variable {separator : Char} {chars : List Char}

theorem wordsOf_separator (separates : isSeparator separator = true) (rest : List Char) :
    wordsOf (separator :: rest) = wordsOf rest := by
  simp [wordsOf, List.splitOnP_cons_eq_if_modifyHead, separates]

theorem wordsOf_rule (separates : isSeparator separator = true) (count : Nat)
    (rest : List Char) :
    wordsOf ((rule separator count).toList ++ rest) = wordsOf rest := by
  rw [rule, String.toList_ofList]
  induction count with
  | zero => rfl
  | succ count induction =>
      rw [List.replicate_succ, List.cons_append, wordsOf_separator separates, induction]

theorem wordsOf_append (isWord : IsWord chars) (separates : isSeparator separator = true)
    (rest : List Char) :
    wordsOf (chars ++ separator :: rest) = String.ofList chars :: wordsOf rest := by
  rw [wordsOf,
    List.splitOnP_append_cons_of_forall_mem isWord.isSeparator_of_mem separator separates]
  simp [isWord.nonempty, wordsOf]

theorem wordsOf_isWord (isWord : IsWord chars) : wordsOf chars = [String.ofList chars] := by
  rw [wordsOf, List.splitOnP_eq_singleton isWord.isSeparator_of_mem]
  simp [isWord.nonempty]

end

/-- The words that count a noun. -/
def countedWords (count : Nat) (noun : String) : List String :=
  [count.repr, if count = 1 then noun else noun ++ "s"]

end Description

/-- The words that say all about a placement. -/
def Placement.words : Placement → List String
  | .marker order => [order.marker.toString, "byte", "order", "->", order.name]
  | .pad offset => [offset.repr, "x", "pad", "1", "byte"]
  | .field placed =>
      [placed.offset.repr, placed.type.tag.toString, placed.index.repr, placed.type.name,
        placed.order.name] ++ Description.countedWords placed.type.width "byte"

namespace Description

theorem toList_counted (count : Nat) (noun : String) :
    (counted count noun).toList =
      count.repr.toList ++ ' ' :: (if count = 1 then noun else noun ++ "s").toList := by
  by_cases single : count = 1
  · simp only [counted, if_pos single, toString, String.toList_append, String.reduceToList,
      List.append_assoc, List.cons_append, List.nil_append]
  · simp only [counted, if_neg single, toString, String.toList_append, String.reduceToList,
      List.append_assoc, List.cons_append, List.nil_append]

theorem isWord_bytes (count : Nat) :
    IsWord (if count = 1 then "byte" else "byte" ++ "s").toList := by
  split <;> exact ⟨rfl, rfl⟩

theorem toList_row_pad (offset : Nat) :
    (row (.pad offset)).toList =
      (rule ' ' (6 - offset.repr.length)).toList ++
        (offset.repr.toList ++
          [' ', ' ', 'x', ' ', ' ', 'p', 'a', 'd'] ++ List.replicate 36 '.' ++
            ['1', ' ', 'b', 'y', 't', 'e']) := by
  simp only [row, column, String.toList_append, toString, List.append_assoc]
  rfl

/-- The row of a field, column by column. -/
theorem toList_row_field (placed : FieldPlacement) :
    ∃ dots, (row (.field placed)).toList =
      (rule ' ' (6 - placed.offset.repr.length)).toList ++
        (placed.offset.repr.toList ++ ' ' :: ' ' ::
          (placed.type.tag.toString.toList ++ ' ' :: ' ' ::
            (placed.index.repr.toList ++ '.' :: ' ' ::
              (placed.type.name.toList ++ ' ' :: '(' ::
                (placed.order.name.toList ++ ')' ::
                  ((rule '.' dots).toList ++
                    (counted placed.type.width "byte").toList)))))) := by
  simp only [row, column, String.toList_append, toString, List.append_assoc,
    String.reduceToList, List.cons_append, List.nil_append]
  exact ⟨_, rfl⟩

/-- A row has the words of its placement, in order. -/
theorem words_row (placement : Placement) : words (row placement) = placement.words := by
  cases placement with
  | marker order => cases order <;> decide
  | pad offset =>
      rw [words, toList_row_pad, wordsOf_rule rfl, List.append_assoc, List.append_assoc,
        List.cons_append, wordsOf_append (isWord_repr offset) rfl, String.ofList_toList]
      rfl
  | field placed =>
      obtain ⟨dots, columns⟩ := toList_row_field placed
      rw [words, columns, wordsOf_rule rfl, wordsOf_append (isWord_repr _) rfl,
        wordsOf_separator rfl, wordsOf_append (isWord_tag _) rfl, wordsOf_separator rfl,
        wordsOf_append (isWord_repr _) rfl, wordsOf_separator rfl,
        wordsOf_append (isWord_typeName _) rfl, wordsOf_separator rfl,
        wordsOf_append (isWord_orderName _) rfl, wordsOf_rule rfl, toList_counted,
        wordsOf_append (isWord_repr _) rfl, wordsOf_isWord (isWord_bytes _)]
      simp only [String.ofList_toList]
      rfl

theorem lineBreak_notMem_rule {char : Char} (other : '\n' ≠ char) (count : Nat) :
    '\n' ∉ (rule char count).toList := by
  rw [rule, String.toList_ofList]
  exact fun member => other (List.eq_of_mem_replicate member)

theorem lineBreak_notMem_blanks (count : Nat) : '\n' ∉ (rule ' ' count).toList :=
  lineBreak_notMem_rule (by decide) count

theorem lineBreak_notMem_dots (count : Nat) : '\n' ∉ (rule '.' count).toList :=
  lineBreak_notMem_rule (by decide) count

/-- A row takes up one line. -/
theorem lineBreak_notMem_row (placement : Placement) : '\n' ∉ (row placement).toList := by
  cases placement with
  | marker order => cases order <;> decide
  | pad offset =>
      have inOffset := (isWord_repr offset).lineBreak_notMem
      rw [toList_row_pad]
      simp only [List.mem_append, lineBreak_notMem_blanks, inOffset, false_or]
      decide
  | field placed =>
      obtain ⟨dots, columns⟩ := toList_row_field placed
      rw [columns, toList_counted]
      simp only [List.mem_append, List.mem_cons, Char.reduceEq, lineBreak_notMem_blanks,
        lineBreak_notMem_dots, false_or, not_or]
      exact ⟨(isWord_repr _).lineBreak_notMem, (isWord_tag _).lineBreak_notMem,
        (isWord_repr _).lineBreak_notMem, (isWord_typeName _).lineBreak_notMem,
        (isWord_orderName _).lineBreak_notMem, (isWord_repr _).lineBreak_notMem,
        (isWord_bytes _).lineBreak_notMem⟩

/-! ### Reading a row -/

/-- The number that a word is, if it has digits only. -/
def numeral? (word : String) : Option Nat :=
  if word.toList.all Char.isDigit then some (Nat.ofDigitChars 10 word.toList 0) else none

/-- The sign of a row: its first word that is no number. -/
def sign (line : String) : Option String :=
  (words line).find? (fun word => (numeral? word).isNone)

/-- The directive whose sign a row has. -/
def shown (line : String) : Option Directive := do
  Directive.ofChar? (← (← sign line).toList.head?)

/-- The offset and the width that a row tells: its first word, and the one before its last. -/
def extent (line : String) : Option (Nat × Nat) := do
  let offset ← numeral? (← (words line).head?)
  let width ← numeral? (← (words line).dropLast.getLast?)
  return (offset, width)

@[simp] theorem numeral?_repr (number : Nat) : numeral? number.repr = some number := by
  have allDigits : (Nat.toDigits 10 number).all Char.isDigit = true := by
    rw [List.all_eq_true]
    intro char member
    exact Nat.isDigit_of_mem_toDigits (by decide) (by decide) member
  rw [numeral?, Nat.toList_repr, if_pos allDigits, Nat.ofDigitChars_ten_toDigits]

theorem numeral?_tag (type : ScalarType) : numeral? type.tag.toString = none := by
  obtain ⟨⟨⟩ | ⟨⟩, ⟨⟩ | ⟨⟩ | ⟨⟩ | ⟨⟩⟩ | ⟨⟩ := type <;> decide

theorem sign_row (placement : Placement) :
    sign (row placement) = some placement.directive.toChar.toString := by
  rw [sign, words_row]
  cases placement with
  | marker order => cases order <;> decide
  | pad offset =>
      rw [Placement.words,
        List.find?_cons_of_neg (by rw [numeral?_repr]; exact Bool.false_ne_true),
        List.find?_cons_of_pos (by decide)]
      rfl
  | field placed =>
      rw [Placement.words, List.cons_append,
        List.find?_cons_of_neg (by rw [numeral?_repr]; exact Bool.false_ne_true),
        List.cons_append, List.find?_cons_of_pos (by rw [numeral?_tag]; rfl)]
      rfl

theorem shown_row (placement : Placement) :
    shown (row placement) = some placement.directive := by
  simp [shown, sign_row]

end Description

/-- The offset and the width of a placement; a marker stands nowhere. -/
def Placement.extent? (placement : Placement) : Option (Nat × Nat) :=
  placement.offset?.map (fun offset => (offset, placement.width))

theorem Placement.Tiles.adjoin {low high : Nat} {placements : List Placement}
    (tiles : Tiles low placements high) : Adjoin low (placements.filterMap extent?) high := by
  induction tiles with
  | nil offset => exact .nil offset
  | marker order _ induction => exact induction
  | pad _ induction => exact .cons induction
  | field placed _ induction => exact .cons induction

namespace Description

theorem extent_row (placement : Placement) : extent (row placement) = placement.extent? := by
  rw [extent, words_row]
  cases placement with
  | marker order => cases order <;> decide
  | pad offset =>
      have single : numeral? "1" = some 1 := numeral?_repr 1
      simp [Placement.words, Placement.extent?, Placement.offset?, Placement.width, single]
  | field placed =>
      simp [Placement.words, countedWords, Placement.extent?, Placement.offset?,
        Placement.width]

end Description

end StructCodec

import StructCodec.Proofs.FormatLanguage
import StructCodec.Proofs.TableRows

/-!
# The description of a format

The rows of a description are those of the placements of the format: the offset that is
counted along and the fields that are taken along stay in step with the layout.  So whoever
reads the printed table finds the layout in it, and the format itself.
-/

namespace StructCodec

namespace Description

/-- The rows from a byte offset and a field index on are those of the placements from there
on. -/
theorem rowsFrom_placeFrom (order : ByteOrder) (offset index : Nat) (format : Format)
    (each : (Placement.fields (format.placeFrom order offset index)).length =
      format.fieldCount) :
    rowsFrom offset format (Placement.fields (format.placeFrom order offset index)) each =
      (format.placeFrom order offset index).map row := by
  induction format generalizing order offset index with
  | nil => rfl
  | cons directive rest induction =>
      cases directive with
      | marker next => exact congrArg (List.cons _) (induction next offset index each)
      | pad => exact congrArg (List.cons _) (induction order (offset + 1) index each)
      | field type =>
          exact congrArg (List.cons _) (induction order (offset + type.width) (index + 1) _)

theorem rows_eq (layout : Layout) : rows layout = layout.format.placements.map row :=
  rowsFrom_placeFrom .initial 0 0 layout.format _

theorem start_print_of_refused {text : String} {error : CodecError}
    (refused : Format.parse {} text = .error error) :
    (print text).start = (.error error, []) := by
  have uncompiled : Layout.compile {} text = .error error := by
    rw [Layout.compile, refused]
    rfl
  rw [print, uncompiled]
  rfl

theorem start_print_of_reading {text : String} {format : Format}
    (reading : Format.parse {} text = .ok format) :
    (print text).start =
      (.ok (), heading ⟨text, {}, format⟩ ++ rows ⟨text, {}, format⟩ ++
        summary ⟨text, {}, format⟩) := by
  have compiled : Layout.compile {} text = .ok ⟨text, {}, format⟩ := by
    rw [Layout.compile, reading]
    rfl
  rw [print, compiled]
  rfl

/-- What is printed for a format that is read: a heading that counts, the rows, and the size. -/
theorem describe_eq {text : String} {format : Format}
    (reading : Format.parse {} text = .ok format) :
    describe text = .ok (heading ⟨text, {}, format⟩ ++ format.placements.map row ++
      summary ⟨text, {}, format⟩) := by
  rw [describe, start_print_of_reading reading, rows_eq]
  rfl

/-! ### The words around the rows -/

/-- The words of the line that counts fields and pad bytes. -/
theorem words_counts (fields pads : Nat) :
    words (counted fields "field" ++ ", " ++ counted pads "pad byte" ++ ".") =
      countedWords fields "field" ++ pads.repr :: "pad" ::
        [if pads = 1 then "byte" else "bytes"] := by
  have isField : IsWord (if fields = 1 then "field" else "field" ++ "s").toList := by
    split <;> exact ⟨rfl, rfl⟩
  have padNoun : wordsOf ((if pads = 1 then "pad byte" else "pad byte" ++ "s").toList ++ ['.']) =
      ["pad", if pads = 1 then "byte" else "bytes"] := by
    split <;> decide
  simp only [words, String.toList_append, toList_counted, String.reduceToList,
    List.append_assoc, List.cons_append, List.nil_append]
  rw [wordsOf_append (isWord_repr fields) rfl, wordsOf_append isField rfl,
    wordsOf_separator rfl, wordsOf_append (isWord_repr pads) rfl, padNoun]
  simp only [String.ofList_toList]
  rfl

/-- The words of the line that tells the size. -/
theorem words_size (size : Nat) :
    words s!"Packed size: {size} bytes / {size * 8} bits" =
      ["Packed", "size:", size.repr, "bytes", "/", (size * 8).repr, "bits"] := by
  have columns : (s!"Packed size: {size} bytes / {size * 8} bits").toList =
      "Packed".toList ++ ' ' :: ("size:".toList ++ ' ' ::
        (size.repr.toList ++ ' ' :: ("bytes".toList ++ ' ' :: ("/".toList ++ ' ' ::
          ((size * 8).repr.toList ++ ' ' :: "bits".toList))))) := by
    simp only [String.toList_append, toString, String.reduceToList, List.append_assoc,
      List.cons_append, List.nil_append]
  rw [words, columns, wordsOf_append ⟨rfl, rfl⟩ rfl, wordsOf_append ⟨rfl, rfl⟩ rfl,
    wordsOf_append (isWord_repr size) rfl, wordsOf_append ⟨rfl, rfl⟩ rfl,
    wordsOf_append ⟨rfl, rfl⟩ rfl, wordsOf_append (isWord_repr (size * 8)) rfl,
    wordsOf_isWord ⟨rfl, rfl⟩]
  simp only [String.ofList_toList]

/-! ### What the rows tell -/

/-- The rows of a table tell a layout: there is one line for each directive, in order, and the
line of a field tells the placement of that field in the layout.  The offsets and widths that
they tell lead from the start of the packed form to its end. -/
structure Tells (rows : List String) (layout : Layout) : Prop where
  lines : ∀ row ∈ rows, '\n' ∉ row.toList
  directives : rows.map shown = layout.format.map some
  marker : ∀ (front : Format) (order : ByteOrder) (back : Format),
    layout.format = front ++ .marker order :: back →
      rows[front.length]?.map words =
        some [order.marker.toString, "byte", "order", "->", order.name]
  pad : ∀ front back : Format, layout.format = front ++ .pad :: back →
    rows[front.length]?.map words = some [front.size.repr, "x", "pad", "1", "byte"]
  field : ∀ (front : Format) (type : ScalarType) (back : Format),
    layout.format = front ++ .field type :: back →
      ∃ placed, layout.fields[front.fieldCount]? = some placed ∧ placed.type = type ∧
        rows[front.length]?.map words =
          some [placed.offset.repr, placed.type.tag.toString, placed.index.repr,
            placed.type.name, placed.order.name, placed.type.width.repr,
            if placed.type.width = 1 then "byte" else "bytes"]
  extents : Adjoin 0 (rows.filterMap extent) layout.size

/-- The row of a directive is that of its placement, behind what stands before it. -/
theorem getElem?_rows (front : Format) (directive : Directive) (back : Format) :
    ((Format.placements (front ++ directive :: back)).map row)[front.length]? =
      some (row (directive.placeAt (front.orderAfter .initial) front.size front.fieldCount)) := by
  obtain ⟨later, split⟩ := Format.placeFrom_split .initial 0 0 front directive back
  have ahead : (front.placeFrom .initial 0 0).length = front.length :=
    Format.length_placeFrom .initial 0 0 front
  rw [Format.placements, split, Nat.zero_add, Nat.zero_add, List.getElem?_map,
    List.getElem?_append_right ahead.le, ahead, Nat.sub_self]
  rfl

/-- What is read off the rows is what the placements tell. -/
theorem filterMap_rows {α : Type} {read : String → Option α} {told : Placement → Option α}
    (each : ∀ placement, read (row placement) = told placement) (placements : List Placement) :
    (placements.map row).filterMap read = placements.filterMap told := by
  rw [List.filterMap_map]
  exact List.filterMap_congr fun placement _ => each placement

theorem tells_rows (layout : Layout) : Tells (layout.format.placements.map row) layout where
  lines := by
    intro line member
    obtain ⟨placement, _, rfl⟩ := List.mem_map.mp member
    exact lineBreak_notMem_row placement
  directives := by
    have same := Format.map_directive_placeFrom .initial 0 0 layout.format
    conv_rhs => rw [← same, List.map_map]
    rw [List.map_map]
    exact List.map_congr_left fun placement _ => shown_row placement
  marker := by
    intro front order back split
    rw [split, getElem?_rows, Option.map_some, words_row]
    rfl
  pad := by
    intro front back split
    rw [split, getElem?_rows, Option.map_some, words_row]
    rfl
  field := by
    intro front type back split
    refine ⟨⟨front.fieldCount, type, front.size, front.orderAfter .initial⟩, ?_, rfl, ?_⟩
    · have placed : Placement.field ⟨front.fieldCount, type, front.size,
          front.orderAfter .initial⟩ ∈ layout.format.placements := by
        apply Format.mem_placeFrom_iff.mpr
        exact ⟨front, .field type, back, split, by rw [Nat.zero_add, Nat.zero_add]; rfl⟩
      exact Format.getElem?_fields_iff.mpr ⟨Format.mem_fields_of_placed placed, rfl⟩
    · rw [split, getElem?_rows, Option.map_some, words_row]
      rfl
  extents := by
    have tiles := Format.tiles_placeFrom .initial 0 0 layout.format
    rw [Nat.zero_add] at tiles
    rw [filterMap_rows extent_row]
    exact tiles.adjoin

end Description

/-- A pad of a format is packed as a zero byte, behind what the directives before it are packed
as. -/
theorem pack_at_pad {options : Options} {text : String} {front back : Format}
    (reading : Format.parse options text = .ok (front ++ .pad :: back)) {values : List Value}
    {bytes : List UInt8} (packed : pack options text values = .ok bytes) :
    ∃ before after, pack options front.toText (values.take front.fieldCount) = .ok before ∧
      before.length = front.size ∧ bytes = before ++ 0 :: after := by
  obtain ⟨count, blocks, written, rfl⟩ := (pack_eq_ok_iff_of_reading reading).mp packed
  rw [Format.fieldCount_append] at count
  have enough : (values.take front.fieldCount).length = front.fieldCount := by
    rw [List.length_take]
    omega
  rw [← List.take_append_drop front.fieldCount values] at written
  obtain ⟨frontBlocks, backBlocks, frontWritten, backWritten, rfl⟩ :=
    (Format.writes_append_iff enough).mp written
  obtain ⟨block, later, atPad, _, rfl⟩ := List.forall₂_cons_left_iff.mp backWritten
  cases atPad
  refine ⟨frontBlocks.flatten, later.flatten, ?_, Format.length_of_writes frontWritten, ?_⟩
  · apply (pack_eq_ok_iff_of_reading (Format.parse_toText options front)).mpr
    exact ⟨enough, frontBlocks, frontWritten, rfl⟩
  · rw [List.flatten_append]
    rfl

/-- Two readings of a text agree, whatever the options. -/
theorem Format.parse_unique {left right : Options} {text : String} {first second : Format}
    (firstReading : parse left text = .ok first) (secondReading : parse right text = .ok second) :
    first = second := by
  rw [(parse_eq_ok_iff.mp firstReading).2, (parse_eq_ok_iff.mp secondReading).2]

namespace Description

theorem join_signs (format : Format) :
    String.join ((format.placements.map row).filterMap sign) = format.toText := by
  have same := Format.map_directive_placeFrom .initial 0 0 format
  have signs : (format.placements.map row).filterMap sign =
      format.map (fun directive => directive.toChar.toString) := by
    conv_rhs => rw [← same, List.map_map]
    rw [filterMap_rows sign_row]
    exact congrFun List.filterMap_eq_map format.placements
  apply String.toList_inj.mp
  rw [signs, Format.toText, String.toList_join, List.flatMap_map, String.toList_ofList,
    List.map_eq_flatMap]
  simp

theorem countP_rows (kind : Directive → Bool) (format : Format) :
    (format.placements.map row).countP (fun line => (shown line).any kind) =
      format.countP kind := by
  have same := Format.map_directive_placeFrom .initial 0 0 format
  conv_rhs => rw [← same, List.countP_map]
  rw [List.countP_map]
  apply List.countP_congr
  intro placement _
  simp [shown_row]

end Description

open Description in
/-- The description of a format tells its layout: the rows tell every directive at its place,
the lines around them count the rows of fields and of pads and give the size where the last row
ends.  A pad stands in every packed form where its row says.  The signs of the rows, written one
after the other, are read to the same format.  For a text that is no format nothing is printed. -/
theorem description_shows_layout (text : String) :
    (∀ format, Format.parse {} text = .ok format →
      ∃ layout banner source counts rows size,
        Layout.compile {} text = .ok layout ∧ layout.format = format ∧
        describe text =
          .ok ([banner, source, counts, "", rule '-' 24 ++ " Directives " ++ rule '-' 24] ++
            rows ++ ["", rule '=' 24 ++ " Summary " ++ rule '=' 24, size, ""]) ∧
        Tells rows layout ∧
        words counts =
          countedWords (rows.countP (fun row => (shown row).any Directive.isField)) "field" ++
            [(rows.countP (fun row => (shown row).any Directive.isPad)).repr, "pad",
              if rows.countP (fun row => (shown row).any Directive.isPad) = 1 then "byte"
              else "bytes"] ∧
        words size =
          ["Packed", "size:", layout.size.repr, "bytes", "/", (layout.size * 8).repr, "bits"] ∧
        (∀ front back : Format, format = front ++ .pad :: back →
          ∀ options values bytes, pack options text values = .ok bytes →
            ∃ before after,
              pack options front.toText (values.take front.fieldCount) = .ok before ∧
              before.length = front.size ∧ bytes = before ++ 0 :: after) ∧
        ∀ options, Format.parse options (String.join (rows.filterMap sign)) = .ok format) ∧
    ∀ error, Format.parse {} text = .error error →
      describe text = .error error ∧ (Description.print text).start = (.error error, []) := by
  constructor
  · intro format reading
    refine ⟨⟨text, {}, format⟩, _, _, _, format.placements.map row, _,
      Layout.compile_eq_ok_iff.mpr ⟨format, reading, rfl⟩, rfl, describe_eq reading,
      tells_rows ⟨text, {}, format⟩, ?_, words_size _, ?_, ?_⟩
    · rw [countP_rows, countP_rows]
      exact words_counts format.fieldCount format.padCount
    · rintro front back rfl options values bytes packed
      obtain ⟨read, _, otherReading, _⟩ := pack_eq_ok_iff.mp packed
      rw [Format.parse_unique otherReading reading] at otherReading
      exact pack_at_pad otherReading packed
    · intro options
      rw [join_signs]
      exact Format.parse_toText options format
  · intro error refused
    have start := start_print_of_refused refused
    rw [describe, start]
    exact ⟨rfl, rfl⟩

end StructCodec

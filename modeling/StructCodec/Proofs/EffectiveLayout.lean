import Mathlib.Logic.Relation
import StructCodec.Proofs.Composition
import StructCodec.Proofs.ShapeResolution

/-!
# The effective layout of a format

What a format does depends on its pads and fields alone, and on the byte order in effect
for a field only if the field is wider than one byte.  Formats that agree in this pack and
unpack alike, whatever markers and whitespace they are written with.
-/

namespace StructCodec

/-- What matters of a directive: a field of one byte has no byte order. -/
inductive LayoutItem where
  | pad
  | field (type : ScalarType) (order? : Option ByteOrder)
deriving DecidableEq

namespace Format

def effectiveFrom : ByteOrder → Format → List LayoutItem
  | _, [] => []
  | _, .marker order :: rest => effectiveFrom order rest
  | order, .pad :: rest => .pad :: effectiveFrom order rest
  | order, .field type :: rest =>
      .field type (if 1 < type.width then some order else none) :: effectiveFrom order rest

/-- The pads and fields of a format in order, each field with the byte order in effect for
it if it is wider than one byte. -/
def effective (format : Format) : List LayoutItem :=
  format.effectiveFrom .initial

theorem effectiveFrom_append (order : ByteOrder) (first second : Format) :
    effectiveFrom order (first ++ second) =
      first.effectiveFrom order ++ second.effectiveFrom (first.orderAfter order) := by
  induction first generalizing order with
  | nil => rfl
  | cons directive first induction =>
      cases directive <;> simp [effectiveFrom, orderAfter, induction]

end Format

/-! ### Landmarks -/

def FieldPlacement.core (field : FieldPlacement) : FieldPlacement :=
  { field with order := if 1 < field.type.width then field.order else .initial }

/-- A placement as far as it matters. -/
def Placement.essence : Placement → Option Placement
  | .marker _ => none
  | .pad offset => some (.pad offset)
  | .field placed => some (.field placed.core)

/-- The pads and fields of an effective layout at their places. -/
def placeItems : Nat → Nat → List LayoutItem → List Placement
  | _, _, [] => []
  | offset, index, .pad :: rest => .pad offset :: placeItems (offset + 1) index rest
  | offset, index, .field type order? :: rest =>
      .field ⟨index, type, offset, order?.getD .initial⟩ ::
        placeItems (offset + type.width) (index + 1) rest

namespace Format

/-- The placements of a format as far as they matter. -/
def landmarks (format : Format) : List Placement :=
  format.placements.filterMap Placement.essence

theorem filterMap_essence_placeFrom (order : ByteOrder) (offset index : Nat)
    (format : Format) :
    (format.placeFrom order offset index).filterMap Placement.essence =
      placeItems offset index (format.effectiveFrom order) := by
  induction format generalizing order offset index with
  | nil => rfl
  | cons directive format induction =>
      cases directive with
      | marker next => exact induction next offset index
      | pad => simp [placeFrom, Placement.essence, effectiveFrom, placeItems, induction]
      | field type =>
          have order_eq : (if 1 < type.width then some order else none).getD .initial =
              if 1 < type.width then order else .initial := by
            split <;> rfl
          simp [placeFrom, Placement.essence, FieldPlacement.core, effectiveFrom, placeItems,
            induction, order_eq]

theorem landmarks_congr {left right : Format} (same : left.effective = right.effective) :
    left.landmarks = right.landmarks := by
  unfold effective at same
  rw [landmarks, landmarks, placements, placements, filterMap_essence_placeFrom,
    filterMap_essence_placeFrom, same]

end Format

namespace Placement

theorem span_filterMap_essence (placements : List Placement) :
    span (placements.filterMap essence) = span placements := by
  induction placements with
  | nil => rfl
  | cons placement placements induction =>
      cases placement <;>
        simp [List.filterMap_cons, essence, FieldPlacement.core, width, induction]

theorem offsets_filterMap_essence (placements : List Placement) :
    (fields (placements.filterMap essence)).map (·.offset) =
      (fields placements).map (·.offset) := by
  induction placements with
  | nil => rfl
  | cons placement placements induction =>
      cases placement <;> simp [List.filterMap_cons, essence, FieldPlacement.core, induction]

end Placement

namespace Format

variable {left right : Format}

theorem size_congr (same : left.effective = right.effective) : left.size = right.size := by
  rw [← span_placements, ← span_placements, ← Placement.span_filterMap_essence,
    ← Placement.span_filterMap_essence right.placements]
  exact congrArg Placement.span (landmarks_congr same)

theorem offsets_congr (same : left.effective = right.effective) :
    left.fields.map (·.offset) = right.fields.map (·.offset) := by
  have leftOffsets := Placement.offsets_filterMap_essence left.placements
  have rightOffsets := Placement.offsets_filterMap_essence right.placements
  change (Placement.fields left.landmarks).map _ = left.fields.map _ at leftOffsets
  change (Placement.fields right.landmarks).map _ = right.fields.map _ at rightOffsets
  rw [← leftOffsets, ← rightOffsets, landmarks_congr same]

theorem fieldCount_congr (same : left.effective = right.effective) :
    left.fieldCount = right.fieldCount := by
  have lengths := congrArg List.length (offsets_congr same)
  rwa [List.length_map, List.length_map, length_fields, length_fields] at lengths

end Format

/-! ### One byte has no order -/

theorem ByteOrder.toWire_of_length_le_one (order : ByteOrder) {bytes : List UInt8}
    (short : bytes.length ≤ 1) : order.toWire bytes = bytes := by
  cases order with
  | little => rfl
  | big =>
      cases bytes with
      | nil => rfl
      | cons byte rest =>
          have rest_eq : rest = [] := by
            rw [List.length_cons] at short
            exact List.length_eq_zero_iff.mp (by omega)
          rw [rest_eq]
          rfl

namespace FieldPlacement

theorem core_index (field : FieldPlacement) : field.core.index = field.index := rfl

theorem core_type (field : FieldPlacement) : field.core.type = field.type := rfl

theorem core_offset (field : FieldPlacement) : field.core.offset = field.offset := rfl

theorem core_slice (field : FieldPlacement) (buffer : List UInt8) :
    field.core.slice buffer = field.slice buffer := rfl

theorem core_of_wide {field : FieldPlacement} (wide : 1 < field.type.width) :
    field.core = field := by
  rw [core, if_pos wide]

theorem packField_core (policy : NarrowingPolicy) (field : FieldPlacement) (value : Value) :
    packField policy field.core.order field.index field.type value =
      packField policy field.order field.index field.type value := by
  by_cases wide : 1 < field.type.width
  · rw [core_of_wide wide]
  · have unordered (order : ByteOrder) (datum : Datum) :
        order.toWire (field.type.image datum.toInt) = field.type.image datum.toInt := by
      apply ByteOrder.toWire_of_length_le_one
      rw [ScalarType.length_image]
      exact Nat.not_lt.mp wide
    simp only [packField_eq, unordered]

theorem unpackField_core (policy : NarrowingPolicy) (field : FieldPlacement) (slot : Slot)
    (buffer : List UInt8) :
    unpackField policy field.core.order field.index field.type slot (field.slice buffer) =
      unpackField policy field.order field.index field.type slot (field.slice buffer) := by
  by_cases wide : 1 < field.type.width
  · rw [core_of_wide wide]
  · have unordered (order : ByteOrder) :
        order.fromWire (field.slice buffer) = field.slice buffer := by
      apply ByteOrder.toWire_of_length_le_one
      rw [slice, List.length_take]
      omega
    simp only [unpackField, unordered]

end FieldPlacement

/-! ### Packing and unpacking by landmarks -/

namespace Placement

theorem write_core (policy : NarrowingPolicy) (text : String) (values : List Value)
    (field : FieldPlacement) :
    (Placement.field field.core).write policy text values =
      (Placement.field field).write policy text values := by
  simp only [write, FieldPlacement.core_index, FieldPlacement.core_type,
    FieldPlacement.packField_core]

theorem read_core (policy : NarrowingPolicy) (text : String) (slots : Slots)
    (buffer : List UInt8) (field : FieldPlacement) :
    (Placement.field field.core).read policy text slots buffer =
      (Placement.field field).read policy text slots buffer := by
  simp only [read, FieldPlacement.core_index, FieldPlacement.core_type,
    FieldPlacement.core_offset, FieldPlacement.core_slice, FieldPlacement.unpackField_core]

/-- A traversal that gets nothing from markers and looks at fields as far as they matter
looks at landmarks only. -/
theorem gather_essence {ε β : Type} {visit : Placement → Except ε (List β)}
    (marker : ∀ order, visit (.marker order) = .ok [])
    (core : ∀ field : FieldPlacement, visit (.field field.core) = visit (.field field))
    (placements : List Placement) :
    Traversal.gather visit (placements.filterMap essence) =
      Traversal.gather visit placements := by
  induction placements with
  | nil => rfl
  | cons placement placements induction =>
      rw [Traversal.gather_cons, ← induction]
      cases placement with
      | marker order =>
          rw [marker, List.filterMap_cons, essence]
          cases Traversal.gather visit (placements.filterMap essence) <;> rfl
      | pad offset =>
          rw [List.filterMap_cons, essence]
          exact Traversal.gather_cons visit _ _
      | field field =>
          rw [← core, List.filterMap_cons, essence]
          exact Traversal.gather_cons visit _ _

/-- What is written at a placement, up to the kind of error. -/
def emits (policy : NarrowingPolicy) (values : List Value) (placement : Placement) :
    Except ErrorKind (List UInt8) :=
  (placement.write policy "" values).mapError CodecError.kind

/-- What is delivered at a placement, up to the kind of error. -/
def yields (policy : NarrowingPolicy) (slots : Slots) (buffer : List UInt8)
    (placement : Placement) : Except ErrorKind (List Datum) :=
  ((placement.read policy "" slots buffer).map Option.toList).mapError CodecError.kind

theorem mapError_write (policy : NarrowingPolicy) (text : String) (values : List Value)
    (placement : Placement) :
    (placement.write policy text values).mapError CodecError.kind =
      placement.emits policy values := by
  cases placement with
  | marker order => rfl
  | pad offset => rfl
  | field field =>
      simp only [emits, write]
      cases values[field.index]? <;> rfl

theorem mapError_read (policy : NarrowingPolicy) (text : String) (slots : Slots)
    (buffer : List UInt8) (placement : Placement) :
    ((placement.read policy text slots buffer).map Option.toList).mapError CodecError.kind =
      placement.yields policy slots buffer := by
  cases placement with
  | marker order => rfl
  | pad offset => rfl
  | field field =>
      simp only [yields, read]
      cases slots.get? field.index <;> rfl

end Placement

section Landmarks

variable {options : Options} {text : String} {format : Format}

/-- Up to the kind of error, packing gathers what is written at each placement. -/
theorem pack_eq_gather (reading : Format.parse options text = .ok format)
    (values : List Value) :
    (pack options text values).mapError CodecError.kind =
      Traversal.gather (Placement.emits options.narrowing values) format.placements >>=
        fun bytes =>
          if format.fieldCount < values.length then .error (.library .excessValues)
          else .ok bytes := by
  have emits_eq : Placement.emits options.narrowing values = fun placement =>
      (placement.write options.narrowing text values).mapError CodecError.kind := by
    funext placement
    exact (Placement.mapError_write options.narrowing text values placement).symm
  rw [emits_eq, ← Traversal.mapError_gather, Traversal.gather, pack_eq_write reading]
  cases format.placements.mapM (Placement.write options.narrowing text values) with
  | error error => rfl
  | ok blocks =>
      change (Format.conclude text format.fieldCount values.length blocks).mapError _ =
        if format.fieldCount < values.length then _ else _
      rw [Format.conclude]
      split <;> rfl

/-- Up to the kind of error, unpacking gathers what is delivered at each placement. -/
theorem unpack_eq_gather [Machine] {shape : ShapeRequest} {slots : Slots}
    (reading : Format.parse options text = .ok format)
    (resolved : shape.resolve format = .ok slots) (buffer : List UInt8) :
    (unpack options text buffer shape).mapError CodecError.kind =
      Traversal.gather (Placement.yields options.narrowing slots buffer) format.placements >>=
        fun data =>
          if data.length = slots.count then .ok data
          else .error (.library .arityMismatch) := by
  have yields_eq : Placement.yields options.narrowing slots buffer = fun placement =>
      ((placement.read options.narrowing text slots buffer).map Option.toList).mapError
        CodecError.kind := by
    funext placement
    exact (Placement.mapError_read options.narrowing text slots buffer placement).symm
  rw [yields_eq, ← Traversal.mapError_gather, ← Traversal.map_reduceOption_mapM,
    unpack_eq_read reading resolved]
  cases (format.placements.mapM
    (Placement.read options.narrowing text slots buffer)).map List.reduceOption with
  | error error => rfl
  | ok data =>
      change (if data.length = slots.count then _ else _ : Except CodecError _).mapError _ =
        if data.length = slots.count then _ else _
      split <;> rfl

theorem gather_emits_landmarks (policy : NarrowingPolicy) (values : List Value)
    (format : Format) :
    Traversal.gather (Placement.emits policy values) format.landmarks =
      Traversal.gather (Placement.emits policy values) format.placements := by
  apply Placement.gather_essence (fun _ => rfl)
  intro field
  rw [Placement.emits, Placement.write_core]
  rfl

theorem gather_yields_landmarks (policy : NarrowingPolicy) (slots : Slots)
    (buffer : List UInt8) (format : Format) :
    Traversal.gather (Placement.yields policy slots buffer) format.landmarks =
      Traversal.gather (Placement.yields policy slots buffer) format.placements := by
  apply Placement.gather_essence (fun _ => rfl)
  intro field
  rw [Placement.yields, Placement.read_core]
  rfl

end Landmarks

/-! ### Texts that mean the same -/

/-- Two texts under two options have the same sizes, pack alike and unpack alike, up to the
kind of error. -/
structure Interchangeable [Machine] (leftOptions rightOptions : Options)
    (leftText rightText : String) : Prop where
  sizing : ((Layout.compile leftOptions leftText).map fun layout =>
      (layout.size, layout.fieldCount, layout.fieldOffsets)).mapError CodecError.kind =
    ((Layout.compile rightOptions rightText).map fun layout =>
      (layout.size, layout.fieldCount, layout.fieldOffsets)).mapError CodecError.kind
  packing : ∀ values, (pack leftOptions leftText values).mapError CodecError.kind =
    (pack rightOptions rightText values).mapError CodecError.kind
  unpacking : ∀ buffer shape,
    (unpack leftOptions leftText buffer shape).mapError CodecError.kind =
      (unpack rightOptions rightText buffer shape).mapError CodecError.kind

theorem Interchangeable.of_effective [Machine] {policy : NarrowingPolicy}
    {leftBlanks rightBlanks : Bool} {leftText rightText : String} {left right : Format}
    (leftReading : Format.parse ⟨policy, leftBlanks⟩ leftText = .ok left)
    (rightReading : Format.parse ⟨policy, rightBlanks⟩ rightText = .ok right)
    (same : left.effective = right.effective) :
    Interchangeable ⟨policy, leftBlanks⟩ ⟨policy, rightBlanks⟩ leftText rightText := by
  have count : left.fieldCount = right.fieldCount := Format.fieldCount_congr same
  constructor
  · rw [Layout.compile_eq_ok_iff.mpr ⟨left, leftReading, rfl⟩,
      Layout.compile_eq_ok_iff.mpr ⟨right, rightReading, rfl⟩]
    have offsets := Format.offsets_congr same
    simp only [Except.map, Except.mapError, Layout.size, Layout.fieldCount,
      Layout.fieldOffsets, Layout.fields, Format.size_congr same, count, offsets]
  · intro values
    rw [pack_eq_gather leftReading, pack_eq_gather rightReading, ← gather_emits_landmarks,
      ← gather_emits_landmarks, Format.landmarks_congr same, count]
  · intro buffer shape
    have resolution := ShapeRequest.resolve_congr count shape
    cases resolved : shape.resolve right with
    | error error =>
        rw [resolved] at resolution
        rw [unpack_of_shape_error leftReading resolution,
          unpack_of_shape_error rightReading resolved]
    | ok slots =>
        rw [resolved] at resolution
        rw [unpack_eq_gather leftReading resolution, unpack_eq_gather rightReading resolved,
          ← gather_yields_landmarks, ← gather_yields_landmarks, Format.landmarks_congr same]

theorem Interchangeable.of_refused [Machine] {leftOptions rightOptions : Options}
    {leftText rightText : String}
    (leftRefused : ∃ char ∈ leftText.toList, ¬ leftOptions.Accepts char)
    (rightRefused : ∃ char ∈ rightText.toList, ¬ rightOptions.Accepts char) :
    Interchangeable leftOptions rightOptions leftText rightText := by
  obtain ⟨_, _, leftFailed⟩ := Format.parse_of_refused leftRefused
  obtain ⟨_, _, rightFailed⟩ := Format.parse_of_refused rightRefused
  constructor
  · rw [Layout.compile, Layout.compile, leftFailed, rightFailed]
    rfl
  · intro values
    rw [pack, pack, leftFailed, rightFailed]
    rfl
  · intro buffer shape
    rw [unpack, unpack, leftFailed, rightFailed]
    rfl

theorem Interchangeable.equivalence [Machine] (options : Options) :
    Equivalence (Interchangeable options options) := by
  constructor
  · intro text
    exact ⟨rfl, fun _ => rfl, fun _ _ => rfl⟩
  · intro leftText rightText same
    exact ⟨same.sizing.symm, fun values => (same.packing values).symm,
      fun buffer shape => (same.unpacking buffer shape).symm⟩
  · intro leftText middleText rightText first second
    exact ⟨first.sizing.trans second.sizing,
      fun values => (first.packing values).trans (second.packing values),
      fun buffer shape => (first.unpacking buffer shape).trans (second.unpacking buffer shape)⟩

/-! ### Edits that change nothing -/

/-- Deleting a character that says nothing: ignored whitespace, a marker of the byte order
that is in effect already, or a marker with no field of more than one byte between it and
the next marker or the end. -/
inductive IdleEdit (options : Options) : String → String → Prop where
  | blank {before after : String} {char : Char} (ignored : options.ignoreWhitespace = true)
      (blank : Format.isBlank char = true) :
      IdleEdit options (before ++ String.singleton char ++ after) (before ++ after)
  | repeated {before after : String} :
      IdleEdit options (before ++ String.singleton (lastMarker before) ++ after)
        (before ++ after)
  | unused {before after : String} (order : ByteOrder)
      (narrow : ∀ type : ScalarType,
        type.tag ∈ after.toList.takeWhile (fun char => !isMarker char) → type.width = 1) :
      IdleEdit options (before ++ String.singleton order.marker ++ after) (before ++ after)

namespace Format

/-- Without a field of more than one byte in front of the next marker, the byte order in
effect does not matter. -/
theorem effectiveFrom_of_narrow {chars : List Char}
    (narrow : ∀ type : ScalarType,
      type.tag ∈ chars.takeWhile (fun char => !isMarker char) → type.width = 1)
    (left right : ByteOrder) :
    effectiveFrom left (chars.filterMap Directive.ofChar?) =
      effectiveFrom right (chars.filterMap Directive.ofChar?) := by
  induction chars with
  | nil => rfl
  | cons char chars induction =>
      by_cases marker : isMarker char = true
      · -- Behind a marker both sides are in its order, whatever stands there.
        obtain ⟨order, rfl⟩ := isMarker_iff.mp marker
        rw [List.filterMap_cons_some (Directive.ofChar?_marker order)]
        rfl
      · rw [List.takeWhile_cons_of_pos (by simp [marker])] at narrow
        have rest := induction (fun type member => narrow type (List.mem_cons_of_mem _ member))
        cases found : Directive.ofChar? char with
        | none =>
            rw [List.filterMap_cons_none found]
            exact rest
        | some directive =>
            rw [List.filterMap_cons_some found]
            obtain rfl := Directive.ofChar?_eq_some_iff.mp found
            cases directive with
            | marker order => exact absurd (isMarker_iff.mpr ⟨order, rfl⟩) marker
            | pad => exact congrArg (LayoutItem.pad :: ·) rest
            | field type =>
                have byte : type.width = 1 := narrow type List.mem_cons_self
                rw [effectiveFrom, effectiveFrom, byte, rest]
                rfl

/-- Between two formats a marker matters only to what stands behind it. -/
theorem effective_marker (first second : Format) (order : ByteOrder)
    (same : second.effectiveFrom order = second.effectiveFrom (first.orderAfter .initial)) :
    effective (first ++ [.marker order] ++ second) = effective (first ++ second) := by
  rw [List.append_assoc, effective, effectiveFrom_append, List.singleton_append,
    effectiveFrom, same, ← effectiveFrom_append]
  rfl

end Format

/-- A character that may stand in a format may be deleted if the effective layout stays. -/
theorem Interchangeable.of_deletion [Machine] {options : Options} {before after : String}
    {char : Char} (accepted : options.Accepts char)
    (same : ∀ first second, Format.parse options before = .ok first →
      Format.parse options after = .ok second →
      Format.effective (first ++ (Directive.ofChar? char).toList ++ second) =
        Format.effective (first ++ second)) :
    Interchangeable options options (before ++ String.singleton char ++ after)
      (before ++ after) := by
  rcases Format.parse_or_refused options before with
    ⟨first, firstReading⟩ | ⟨other, inBefore, refused⟩
  · rcases Format.parse_or_refused options after with
      ⟨second, secondReading⟩ | ⟨other, inAfter, refused⟩
    · have longer := Format.parse_append
        (Format.parse_append firstReading (Format.parse_singleton accepted)) secondReading
      have shorter := Format.parse_append firstReading secondReading
      exact .of_effective longer shorter (same first second firstReading secondReading)
    · apply Interchangeable.of_refused <;> exact ⟨other, by simp [inAfter], refused⟩
  · apply Interchangeable.of_refused <;> exact ⟨other, by simp [inBefore], refused⟩

theorem Interchangeable.of_idleEdit [Machine] {options : Options} {longer shorter : String}
    (edit : IdleEdit options longer shorter) :
    Interchangeable options options longer shorter := by
  cases edit with
  | @blank before after char ignored blank =>
      apply Interchangeable.of_deletion (.inr ⟨ignored, blank⟩)
      intro first second _ _
      rw [Directive.ofChar?_of_isBlank blank, Option.toList_none, List.append_nil]
  | @repeated before after =>
      -- The last marker is an order's marker even if the text is no format.
      have order_eq : lastMarker before = (Format.orderAfter .initial
          (before.toList.filterMap Directive.ofChar?)).marker :=
        Format.getLastD_markers .little before.toList
      rw [order_eq]
      apply Interchangeable.of_deletion (options.accepts_marker _)
      intro first second firstReading _
      obtain ⟨_, rfl⟩ := Format.parse_eq_ok_iff.mp firstReading
      rw [Directive.ofChar?_marker]
      exact Format.effective_marker _ second _ rfl
  | @unused before after order narrow =>
      apply Interchangeable.of_deletion (options.accepts_marker order)
      intro first second _ secondReading
      obtain ⟨_, rfl⟩ := Format.parse_eq_ok_iff.mp secondReading
      rw [Directive.ofChar?_marker]
      exact Format.effective_marker first _ order (Format.effectiveFrom_of_narrow narrow _ _)

/-- Texts with the same effective layout have the same sizes, pack alike and unpack alike,
whether or not whitespace is ignored in them.  So do texts that become each other when
characters that say nothing are deleted and inserted. -/
theorem interchangeable_of_effective [Machine] (policy : NarrowingPolicy) :
    (∀ (leftBlanks rightBlanks : Bool) (leftText rightText : String) (left right : Format),
      Format.parse ⟨policy, leftBlanks⟩ leftText = .ok left →
      Format.parse ⟨policy, rightBlanks⟩ rightText = .ok right →
      left.effective = right.effective →
      Interchangeable ⟨policy, leftBlanks⟩ ⟨policy, rightBlanks⟩ leftText rightText) ∧
    ∀ (blanks : Bool) (leftText rightText : String),
      Relation.EqvGen (IdleEdit ⟨policy, blanks⟩) leftText rightText →
      Interchangeable ⟨policy, blanks⟩ ⟨policy, blanks⟩ leftText rightText := by
  constructor
  · intro leftBlanks rightBlanks leftText rightText left right leftReading rightReading same
    exact .of_effective leftReading rightReading same
  · intro blanks leftText rightText edits
    apply (Interchangeable.equivalence ⟨policy, blanks⟩).eqvGen_iff.mp
    exact edits.mono (fun longer shorter edit => .of_idleEdit edit)

open SmallMachine in
theorem interchangeable_of_effective_marked :
    Interchangeable ⟨.strict, true⟩ ⟨.strict, false⟩ "<B >h<x" "B>hx" ∧
      Interchangeable ⟨.strict, true⟩ ⟨.strict, true⟩ "<B >h<x" "B>hx" := by
  obtain ⟨effective, edited⟩ := interchangeable_of_effective .strict
  constructor
  · exact effective true false "<B >h<x" "B>hx" _ _ rfl rfl (by decide)
  · have leading : IdleEdit ⟨.strict, true⟩ "<B >h<x" "B >h<x" :=
      @IdleEdit.repeated _ "" "B >h<x"
    have space : IdleEdit ⟨.strict, true⟩ "B >h<x" "B>h<x" :=
      @IdleEdit.blank _ "B" ">h<x" ' ' rfl rfl
    have trailing : IdleEdit ⟨.strict, true⟩ "B>h<x" "B>hx" := by
      apply @IdleEdit.unused _ "B>h" "x" .little
      rintro (⟨⟨⟩, ⟨⟩⟩ | _) <;> decide
    apply edited true
    exact .trans _ _ _ (.rel _ _ leading)
      (.trans _ _ _ (.rel _ _ space) (.rel _ _ trailing))

end StructCodec

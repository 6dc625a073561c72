import StructCodec.Proofs.NarrowingPolicies

/-!
# Bytes that unpacking does not read

Of a buffer, unpacking looks at the bytes of fields and at whether bytes are there at all.
So a buffer that did not run short may be longer, and pad bytes and bytes behind the format
may be any, also where unpacking fails.
-/

namespace StructCodec

def CodecError.IsUnderrun (error : CodecError) : Prop :=
  error.kind = .library .bufferUnderrun

/-! ### Longer buffers -/

theorem FieldPlacement.slice_append {field : FieldPlacement} {buffer : List UInt8}
    (complete : field.offset + field.type.width ≤ buffer.length) (extra : List UInt8) :
    field.slice (buffer ++ extra) = field.slice buffer := by
  have enough : field.type.width ≤ (buffer.drop field.offset).length := by
    rw [List.length_drop]
    omega
  rw [slice, slice, List.drop_append_of_le_length (by omega),
    List.take_append_of_le_length enough]

/-- A placement that did not run short is read in the same way from a longer buffer. -/
theorem Placement.read_append_runs (policy : NarrowingPolicy) (text : String) (slots : Slots)
    (buffer extra : List UInt8) (placement : Placement) :
    Relaxes.Runs CodecError.IsUnderrun (placement.read policy text slots buffer)
      (placement.read policy text slots (buffer ++ extra)) := by
  have longer (bound : Nat) (inside : bound ≤ buffer.length) :
      bound ≤ (buffer ++ extra).length := by
    rw [List.length_append]
    omega
  cases placement with
  | marker order =>
      left
      rfl
  | pad offset =>
      by_cases inside : offset < buffer.length
      · have stillInside : offset < (buffer ++ extra).length := longer (offset + 1) inside
        left
        simp only [read, if_pos inside, if_pos stillInside]
      · right
        refine ⟨_, ?_, if_neg inside⟩
        rfl
  | field field =>
      simp only [read]
      cases slots.get? field.index with
      | none =>
          left
          rfl
      | some slot =>
          by_cases complete : field.offset + field.type.width ≤ buffer.length
          · left
            simp only [if_pos complete, if_pos (longer _ complete),
              FieldPlacement.slice_append complete]
          · right
            refine ⟨_, ?_, if_neg complete⟩
            rfl

theorem unpack_append_runs [Machine] (options : Options) (text : String) (buffer extra : List UInt8)
    (shape : ShapeRequest) :
    Relaxes.Runs CodecError.IsUnderrun (unpack options text buffer shape)
      (unpack options text (buffer ++ extra) shape) := by
  cases reading : Format.parse options text with
  | error error =>
      left
      simp only [unpack, reading]
      rfl
  | ok format =>
      cases resolved : shape.resolve format with
      | error error =>
          left
          rw [unpack_of_shape_error reading resolved, unpack_of_shape_error reading resolved]
      | ok slots =>
          rw [unpack_eq_read reading resolved, unpack_eq_read reading resolved]
          have read := Traversal.mapM_runs
            (Placement.read_append_runs options.narrowing text slots buffer extra)
            format.placements
          exact (read.map List.reduceOption).bind _

/-! ### Buffers that agree at the fields -/

namespace Format

/-- Two buffers of one length differ at pad bytes and behind a format only. -/
structure Agrees (format : Format) (left right : List UInt8) : Prop where
  length_eq : left.length = right.length
  same : ∀ position < format.size, position ∉ format.padOffsets →
    left[position]? = right[position]?

variable {format : Format} {left right : List UInt8}

theorem Agrees.slice_eq (agrees : format.Agrees left right) {field : FieldPlacement}
    (member : field ∈ format.fields) : field.slice left = field.slice right := by
  apply FieldPlacement.slice_congr
  intro position low high
  have ends := field_end_le_size member
  exact agrees.same position (by omega) (not_mem_padOffsets member low high)

theorem Agrees.read_eq (agrees : format.Agrees left right) {placement : Placement}
    (placed : placement ∈ format.placements) (policy : NarrowingPolicy) (text : String)
    (slots : Slots) :
    placement.read policy text slots left = placement.read policy text slots right := by
  cases placement with
  | marker order => rfl
  | pad offset => simp only [Placement.read, agrees.length_eq]
  | field field =>
      have slice := agrees.slice_eq (mem_fields_of_placed placed)
      simp only [Placement.read, agrees.length_eq, slice]

end Format

theorem unpack_of_agrees [Machine] {options : Options} {text : String} {left right : List UInt8}
    (agrees : ∀ format, Format.parse options text = .ok format → format.Agrees left right)
    (shape : ShapeRequest) :
    unpack options text left shape = unpack options text right shape := by
  cases reading : Format.parse options text with
  | error error =>
      simp only [unpack, reading]
      rfl
  | ok format =>
      cases resolved : shape.resolve format with
      | error error =>
          rw [unpack_of_shape_error reading resolved, unpack_of_shape_error reading resolved]
      | ok slots =>
          have read : format.placements.mapM
                (Placement.read options.narrowing text slots left) =
              format.placements.mapM (Placement.read options.narrowing text slots right) := by
            apply Traversal.mapM_congr
            intro placement placed
            exact (agrees format reading).read_eq placed _ _ _
          rw [unpack_eq_read reading resolved, unpack_eq_read reading resolved, read]

/-- What unpacking comes to, its error and the message of it included, does not depend on
bytes behind those that it reaches, nor on pad bytes. -/
theorem unpack_of_unread_bytes [Machine] (options : Options) (text : String) (buffer : List UInt8)
    (shape : ShapeRequest) :
    (∀ extra, (∀ error, unpack options text buffer shape = .error error →
        error.kind ≠ .library .bufferUnderrun) →
      unpack options text (buffer ++ extra) shape = unpack options text buffer shape) ∧
    ∀ other, other.length = buffer.length →
      (∀ layout, Layout.compile options text = .ok layout →
        ∀ position, position < layout.size → position ∉ layout.format.padOffsets →
          other[position]? = buffer[position]?) →
      unpack options text other shape = unpack options text buffer shape := by
  constructor
  · intro extra enough
    rcases unpack_append_runs options text buffer extra shape with
      same | ⟨error, underrun, failed⟩
    · exact same.symm
    · exact absurd underrun (enough error failed)
  · intro other length_eq same
    apply unpack_of_agrees
    intro format reading
    refine ⟨length_eq, ?_⟩
    intro position
    exact same _ (Layout.compile_eq_ok_iff.mpr ⟨format, reading, rfl⟩) position

open SmallMachine in
/-- Bytes are added behind a format, and pad bytes are changed before a field that has no
slot. -/
theorem unpack_of_unread_bytes_padded :
    unpack {} "<xB>h" [1, 7, 255, 254, 9, 9] (.value .nothing) =
        .ok [.integer 7, .integer (-2)] ∧
      unpack {} "<xB>h" [5, 7, 255, 254] (.slots [.slot .integer]) =
        .error (.insufficientSlots "<xB>h" 1) := by
  have unpacked : unpack {} "<xB>h" [1, 7, 255, 254] (.value .nothing) =
      .ok [.integer 7, .integer (-2)] := rfl
  have failed : unpack {} "<xB>h" [1, 7, 255, 254] (.slots [.slot .integer]) =
      .error (.insufficientSlots "<xB>h" 1) := rfl
  constructor
  · rw [← unpacked]
    apply (unpack_of_unread_bytes {} "<xB>h" [1, 7, 255, 254] _).1 [9, 9]
    rw [unpacked]
    intro error isError
    cases isError
  · rw [← failed]
    apply (unpack_of_unread_bytes {} "<xB>h" [1, 7, 255, 254] _).2 [5, 7, 255, 254] rfl
    intro layout compiled position inside notPad
    obtain ⟨format, reading, rfl⟩ := Layout.compile_eq_ok_iff.mp compiled
    cases reading
    match position with
    | 0 => exact absurd (by decide) notPad
    | position + 1 => rfl

end StructCodec

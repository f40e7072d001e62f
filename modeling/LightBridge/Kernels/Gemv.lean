import LightBridge.Foundation.Cursor
import LightBridge.Foundation.Slices
import LightBridge.Kernels.Numeric

/-! Packed matrices and their products with a vector. -/
namespace LightBridge.Kernels
open Foundation

inductive PayloadEndian where
  | little
  | big
  deriving DecidableEq, Repr

structure EncodedTensorView where
  ty : GgmlType
  endian : PayloadEndian
  shape : List Nat
  bytes : List UInt8
  deriving DecidableEq, Repr

def maxTensorRank : Nat := 3

def EncodedTensorView.new (ty : GgmlType) (endian : PayloadEndian) (shape : List Nat)
    (bytes : List UInt8) :
    Except KernelError EncodedTensorView := do
  ensure (shape ≠ [] ∧ shape.length ≤ maxTensorRank) (.shapeRankTooLarge maxTensorRank shape.length)
  match shape.findIdx? (· == 0) with
  | some dimension => .error (.zeroDimension dimension)
  | none => do
      let rowBytes ← match ty.rowSize (shape.headD 0) with
        | .ok rowBytes => .ok rowBytes
        | .error _ =>
            .error (.dimensionMismatch "block-aligned leading tensor dimension" ty.blockSize
              (shape.headD 0))
      let rowCount ← shape.tail.foldlM
        (fun total dimension =>
          okOr (checkedMul total dimension) (.arithmeticOverflow "tensor row count")) 1
      let expected ← okOr (checkedMul rowBytes rowCount)
        (.arithmeticOverflow "tensor encoded byte length")
      ensure (bytes.length = expected) (.encodedLengthMismatch expected bytes.length)
      pure { ty, endian, shape, bytes }

/-- A checked `[input_width, output_width]` packed matrix. -/
structure PackedMatrix where
  ty : GgmlType
  inputWidth : Nat
  outputWidth : Nat
  rowBytes : Nat
  bytes : List UInt8
  deriving DecidableEq, Repr

namespace PackedMatrix

def new (view : EncodedTensorView) : Except KernelError PackedMatrix := do
  ensure (view.endian = .little) .bigEndianPayload
  ensure (view.shape.length = 2) (.tensorRank 2 view.shape.length)
  ensure (view.ty ∈ [GgmlType.f32, .q4K, .q5K, .iq2S, .iq3S]) (.unsupportedType view.ty)
  let inputWidth := view.shape.getD 0 0
  let rowBytes ← match view.ty.rowSize inputWidth with
    | .ok rowBytes => .ok rowBytes
    | .error _ =>
        .error (.dimensionMismatch "block-aligned matrix input width" view.ty.blockSize inputWidth)
  pure { ty := view.ty, inputWidth, outputWidth := view.shape.getD 1 0, rowBytes,
         bytes := view.bytes }

def fromParts (ty : GgmlType) (endian : PayloadEndian) (inputWidth outputWidth : Nat)
    (bytes : List UInt8) :
    Except KernelError PackedMatrix := do
  let view ← EncodedTensorView.new ty endian [inputWidth, outputWidth] bytes
  new view

def row (matrix : PackedMatrix) (index : Nat) : List UInt8 :=
  slice matrix.bytes (index * matrix.rowBytes) matrix.rowBytes

end PackedMatrix

/-- `error?` of a quantisation primitive. -/
def quantized {α : Type} (r : Except QuantError α) : Except KernelError α := wrap .quant r

/-- `layout`: the elements and bytes of one block of a supported type. -/
def layout (ty : GgmlType) : Except QuantError (Nat × Nat) := do
  ensure (ty ∈ [GgmlType.f32, .q4K, .q5K, .iq2S, .iq3S]) (.unsupportedType ty)
  pure (ty.blockSize, ty.typeSize)

/-! ### Rows of a table -/

/-- `f16::is_finite`. -/
def f16Finite (bits : BitVec 16) : Bool := bits.extractLsb' 10 5 != 31#5

/-- The scales of a block, with their offsets. -/
def scaleFields : GgmlType → Except QuantError (List (String × Nat))
  | .q4K | .q5K => .ok [("d", 0), ("dmin", 2)]
  | .iq2S | .iq3S => .ok [("d", 0)]
  | ty => .error (.unsupportedType ty)

/-- The scales of one block of a row. -/
def validateBlockScales (ty : GgmlType) (encoded : List UInt8) (blockBytes block : Nat) :
    List (String × Nat) → Except QuantError Unit
  | [] => .ok ()
  | (field, offset) :: fields => do
      let bits := BitVec.ofNat 16 (ofLeBytes (slice encoded (block * blockBytes + offset) 2))
      ensure (f16Finite bits) (.nonFiniteScale ty block field bits)
      validateBlockScales ty encoded blockBytes block fields

def validateScales (ty : GgmlType) (encoded : List UInt8) (blockBytes : Nat) :
    List Nat → Except QuantError Unit
  | [] => .ok ()
  | block :: blocks =>
      if ty = .f32 then .ok ()
      else do
        let fields ← scaleFields ty
        validateBlockScales ty encoded blockBytes block fields
        validateScales ty encoded blockBytes blocks

/-- What `decode_row_into` writes into an output of `outputLength` values. Its blocks have
passed their validation when they are decoded. -/
def decodeRow (N : Numerics) (ty : GgmlType) (encoded : List UInt8)
    (logicalElements outputLength : Nat) :
    Except QuantError (List F32) := do
  let (blockElements, blockBytes) ← layout ty
  ensure (logicalElements ≠ 0) .zeroLogicalElements
  ensure (logicalElements % blockElements = 0)
    (.logicalElementsNotDivisible ty logicalElements blockElements)
  let blockCount := logicalElements / blockElements
  let encodedLength ← okOr (checkedMul blockCount blockBytes)
    (.arithmeticOverflow "encoded row length")
  let rowLength ← okOr (checkedMul blockCount blockElements)
    (.arithmeticOverflow "logical row length")
  ensure (encoded.length = encodedLength) (.encodedLengthMismatch ty encodedLength encoded.length)
  ensure (outputLength = rowLength) (.outputLengthMismatch ty rowLength outputLength)
  validateScales ty encoded blockBytes (List.range blockCount)
  let blocks ← (List.range blockCount).mapM fun block =>
    N.decodeBlock ty (slice encoded (block * blockBytes) blockBytes)
  pure blocks.flatten

/-- The blocks fill the output. -/
theorem decodeRow_length {N : Numerics} {ty : GgmlType} {encoded : List UInt8}
    {logicalElements outputLength : Nat} {values : List F32}
    (h : decodeRow N ty encoded logicalElements outputLength = .ok values) :
    values.length = outputLength := by
  unfold decodeRow layout at h
  simp only [except_bind_ok_iff, ensure_eq_ok, okOr_eq_ok, checkedMul_eq_some] at h
  obtain ⟨_, ⟨_, -, hlayout⟩, _, -, _, -, _, -, _, ⟨-, rfl⟩, _, -, _, rfl, _, -, blocks,
    hblocks, h⟩ := h
  cases hlayout
  cases h
  have hall := except_mapM_ok_iff.mp hblocks
  rw [List.length_flatten]
  have hsizes : blocks.map List.length = List.replicate blocks.length ty.blockSize := by
    refine List.eq_replicate_iff.mpr ⟨List.length_map _, fun size hmem => ?_⟩
    obtain ⟨values, hvalues, rfl⟩ := List.mem_map.mp hmem
    obtain ⟨i, hi, rfl⟩ := List.mem_iff_getElem.mp hvalues
    have hrel := List.forall₂_iff_get.mp hall
    exact N.decodeBlock_length ty _ _ (hrel.2 i (by rw [hrel.1]; exact hi) hi)
  rw [hsizes, List.sum_replicate_nat, ← hall.length_eq, List.length_range]

/-! ### Products -/

def q8KBlockElements : Nat := 256
def q8KBlockBytes : Nat := 292

def requiredQ8KBytes (inputWidth : Nat) : Except KernelError Nat := do
  ensure (inputWidth ≠ 0 ∧ inputWidth % q8KBlockElements = 0)
    (.dimensionMismatch "Q8_K input width" q8KBlockElements inputWidth)
  okOr (checkedMul (inputWidth / q8KBlockElements) q8KBlockBytes)
    (.arithmeticOverflow "Q8_K scratch byte length")

def validateDimensions (matrix : PackedMatrix) (input : List F32) (outputLength : Nat) :
    Except KernelError Unit := do
  ensure (input.length = matrix.inputWidth)
    (.dimensionMismatch "GEMV input" matrix.inputWidth input.length)
  ensure (outputLength = matrix.outputWidth)
    (.dimensionMismatch "GEMV output" matrix.outputWidth outputLength)
  validateFiniteSlice "GEMV input" input

/-- A block of a row, decoded. -/
def decodedBlock (N : Numerics) (matrix : PackedMatrix) (blockBytes row block : Nat) :
    Except KernelError (List F32) :=
  quantized (N.decodeBlock matrix.ty (slice (matrix.row row) (block * blockBytes) blockBytes))

/-- A pass over `0..count` that only checks. -/
def forEach (check : Nat → Except KernelError Unit) : List Nat → Except KernelError Unit
  | [] => .ok ()
  | index :: indices => do
      check index
      forEach check indices

def prepareDequant (N : Numerics) (matrix : PackedMatrix) (input : List F32)
    (outputLength decodedLength : Nat) :
    Except KernelError Unit := do
  validateDimensions matrix input outputLength
  let (blockElements, blockBytes) ← quantized (layout matrix.ty)
  ensure (blockElements ≤ decodedLength)
    (.scratchTooSmall "decoded block" blockElements decodedLength)
  forEach (fun row =>
    forEach (fun block => do
      let decoded ← decodedBlock N matrix blockBytes row block
      validateFiniteSlice "GEMV weights" decoded) (List.range (matrix.inputWidth / blockElements)))
    (List.range matrix.outputWidth)

def prepareLlamaQ8K (N : Numerics) (matrix : PackedMatrix) (input : List F32)
    (outputLength q8Length : Nat) :
    Except KernelError (List UInt8) := do
  validateDimensions matrix input outputLength
  ensure (matrix.ty ∈ [GgmlType.q4K, .q5K, .iq2S, .iq3S]) (.unsupportedType matrix.ty)
  let required ← requiredQ8KBytes matrix.inputWidth
  ensure (required ≤ q8Length) (.scratchTooSmall "Q8_K row" required q8Length)
  let q8 ← quantized (N.quantizeRow input)
  forEach (fun row => quantized (N.validateDot matrix.ty (matrix.row row) q8 matrix.inputWidth))
    (List.range matrix.outputWidth)
  pure q8

/-- `sum += left[lane] * right[lane]` over the lanes of one block. -/
def dotLanes (N : Numerics) (sum : F32) (left right : List F32) : F32 :=
  (left.zip right).foldl (fun sum lane => N.add sum (N.mul lane.1 lane.2)) sum

def dotF32Row (N : Numerics) (matrix : PackedMatrix) (row : Nat) (input : List F32) :
    Except KernelError F32 := do
  ensure (matrix.ty = .f32) (.unsupportedType matrix.ty)
  let weights := (List.range input.length).map fun lane =>
    F32.fromBits (ofLeBytes (slice (matrix.row row) (lane * 4) 4))
  pure (dotLanes N .zero weights input)

def dotDequantRow (N : Numerics) (matrix : PackedMatrix) (row : Nat) (input : List F32) :
    Except KernelError F32 := do
  let (blockElements, blockBytes) ← quantized (layout matrix.ty)
  (List.range (matrix.inputWidth / blockElements)).foldlM (fun sum block => do
    let decoded ← decodedBlock N matrix blockBytes row block
    pure (dotLanes N sum decoded (slice input (block * blockElements) blockElements))) .zero

/-- `vec_dot_q8_k` and `vec_dot_q8_k_cpu`: the validation, then the product. -/
def vecDot (N : Numerics) (dot : GgmlType → List UInt8 → List UInt8 → Nat → F32)
    (matrix : PackedMatrix)
    (q8 : List UInt8) (row : Nat) : Except KernelError F32 := do
  quantized (N.validateDot matrix.ty (matrix.row row) q8 matrix.inputWidth)
  pure (dot matrix.ty (matrix.row row) q8 matrix.inputWidth)

/-- How a row of the result is computed, once the preparation has passed. -/
abbrev RowDot : Type := Nat → Except KernelError F32

/-- The preparation of `gemv_into`: every check, before any row is written. -/
def prepareGemv (N : Numerics) (mode : ReferenceExecutionMode) (matrix : PackedMatrix)
    (input : List F32)
    (outputLength decodedLength q8Length : Nat) : Except KernelError RowDot :=
  if matrix.ty = .f32 then do
    prepareDequant N matrix input outputLength decodedLength
    match mode with
    | .cpuParallelQ8K => pure fun row => dotF32Row N matrix row input
    | .dequantF32 | .llamaQ8K => pure fun row => dotDequantRow N matrix row input
  else match mode with
  | .dequantF32 => do
      prepareDequant N matrix input outputLength decodedLength
      pure fun row => dotDequantRow N matrix row input
  | .llamaQ8K => do
      let q8 ← prepareLlamaQ8K N matrix input outputLength q8Length
      pure (vecDot N N.dotScalar matrix q8)
  | .cpuParallelQ8K => do
      let q8 ← prepareLlamaQ8K N matrix input outputLength q8Length
      pure (vecDot N N.dotCpu matrix q8)

/-- `*destination = dot(row)?` for every destination. The parallel loop writes the same
rows in some other order. -/
def writeRows (dot : RowDot) : List Nat → Command (List F32) KernelError Unit
  | [] => pure ()
  | row :: rows => do
      let value ← Command.lift (dot row)
      Command.update fun output => output.set row value
      writeRows dot rows

/-- `gemv_into`, on the output buffer. -/
def gemvInto (N : Numerics) (mode : ReferenceExecutionMode) (matrix : PackedMatrix)
    (input : List F32)
    (decodedLength q8Length : Nat) : Command (List F32) KernelError Unit := do
  let output ← Command.read
  let dot ← Command.lift (prepareGemv N mode matrix input output.length decodedLength q8Length)
  writeRows dot (List.range output.length)

/-- What `gemv_into` puts into a buffer of `outputLength` values. -/
def gemv (N : Numerics) (mode : ReferenceExecutionMode) (matrix : PackedMatrix) (input : List F32)
    (outputLength decodedLength q8Length : Nat) : Except KernelError (List F32) := do
  let dot ← prepareGemv N mode matrix input outputLength decodedLength q8Length
  (List.range outputLength).mapM dot

/-- The preparation of `gemv_accumulate_scaled_into`, where `F32` rows take one path in every mode.
-/
def prepareAccumulate (N : Numerics) (mode : ReferenceExecutionMode) (matrix : PackedMatrix)
    (input : List F32)
    (outputLength decodedLength q8Length : Nat) : Except KernelError RowDot :=
  if matrix.ty = .f32 then do
    prepareDequant N matrix input outputLength decodedLength
    pure fun row => dotF32Row N matrix row input
  else prepareGemv N mode matrix input outputLength decodedLength q8Length

/-- What `gemv_accumulate_scaled_into` turns a destination into. -/
def gemvAccumulateScaled (N : Numerics) (mode : ReferenceExecutionMode) (matrix : PackedMatrix)
    (input : List F32)
    (destination : List F32) (scale : F32) (decodedLength q8Length : Nat) :
    Except KernelError (List F32) := do
  validateFiniteValue "accumulation scale" 0 scale
  validateFiniteSlice "destination" destination
  let dot ← prepareAccumulate N mode matrix input destination.length decodedLength q8Length
  destination.zipIdx.mapM fun (value, row) => do
    let product ← dot row
    pure (N.add value (N.mul scale product))

/-! ### No row fails after the preparation -/

theorem forEach_eq_ok {check : Nat → Except KernelError Unit} {indices : List Nat} :
    forEach check indices = .ok () ↔ ∀ index ∈ indices, check index = .ok () := by
  induction indices with
  | nil => simp [forEach]
  | cons index indices ih =>
      rw [forEach, except_bind_ok_iff]
      simp only [List.forall_mem_cons, ← ih]
      exact ⟨fun ⟨_, h, hrest⟩ => ⟨h, hrest⟩, fun ⟨h, hrest⟩ => ⟨(), h, hrest⟩⟩

theorem dotF32Row_ok (N : Numerics) {matrix : PackedMatrix} (hty : matrix.ty = .f32) (row : Nat)
    (input : List F32) :
    ∃ value, dotF32Row N matrix row input = .ok value := by
  rw [dotF32Row, ensure, if_pos hty]
  exact ⟨_, rfl⟩

theorem foldlM_ok {α β ε : Type} {f : β → α → Except ε β} {xs : List α}
    (h : ∀ x ∈ xs, ∀ b, ∃ b', f b x = .ok b')
    (b : β) : ∃ b', xs.foldlM f b = .ok b' := by
  induction xs generalizing b with
  | nil => exact ⟨b, rfl⟩
  | cons x xs ih =>
      obtain ⟨b', hb'⟩ := h x List.mem_cons_self b
      obtain ⟨b'', hrest⟩ := ih (fun y hy => h y (List.mem_cons_of_mem x hy)) b'
      exact ⟨b'', by rw [List.foldlM_cons, hb']; exact hrest⟩

theorem prepareDequant_ok {N : Numerics} {matrix : PackedMatrix} {input : List F32}
    {outputLength decodedLength : Nat}
    (h : prepareDequant N matrix input outputLength decodedLength = .ok ()) {row : Nat}
    (hrow : row < outputLength) :
    ∃ value, dotDequantRow N matrix row input = .ok value := by
  unfold prepareDequant at h
  obtain ⟨_, hdimensions, h⟩ := except_bind_ok_iff.mp h
  obtain ⟨⟨blockElements, blockBytes⟩, hlayout, h⟩ := except_bind_ok_iff.mp h
  obtain ⟨-, -, h⟩ := except_bind_ok_iff.mp h
  unfold validateDimensions at hdimensions
  obtain ⟨-, -, hdimensions⟩ := except_bind_ok_iff.mp hdimensions
  obtain ⟨_, houtput, -⟩ := except_bind_ok_iff.mp hdimensions
  have hblocks := forEach_eq_ok.mp (forEach_eq_ok.mp h row
    (List.mem_range.mpr (ensure_eq_ok.mp houtput ▸ hrow)))
  unfold dotDequantRow
  rw [hlayout]
  refine foldlM_ok (fun block hblock sum => ?_) F32.zero
  obtain ⟨decoded, hdecoded, -⟩ := except_bind_ok_iff.mp (hblocks block hblock)
  exact ⟨_, by rw [hdecoded]; rfl⟩

theorem prepareLlamaQ8K_ok {N : Numerics} {matrix : PackedMatrix} {input : List F32}
    {outputLength q8Length : Nat} {q8 : List UInt8}
    (h : prepareLlamaQ8K N matrix input outputLength q8Length = .ok q8) {row : Nat}
    (hrow : row < outputLength) (dot : GgmlType → List UInt8 → List UInt8 → Nat → F32) :
    ∃ value, vecDot N dot matrix q8 row = .ok value := by
  unfold prepareLlamaQ8K at h
  obtain ⟨_, hdimensions, h⟩ := except_bind_ok_iff.mp h
  obtain ⟨-, -, h⟩ := except_bind_ok_iff.mp h
  obtain ⟨required, -, h⟩ := except_bind_ok_iff.mp h
  obtain ⟨-, -, h⟩ := except_bind_ok_iff.mp h
  obtain ⟨quants, hquants, h⟩ := except_bind_ok_iff.mp h
  obtain ⟨_, hrows, h⟩ := except_bind_ok_iff.mp h
  cases h
  unfold validateDimensions at hdimensions
  obtain ⟨-, -, hdimensions⟩ := except_bind_ok_iff.mp hdimensions
  obtain ⟨_, houtput, -⟩ := except_bind_ok_iff.mp hdimensions
  have hvalid := forEach_eq_ok.mp hrows row (List.mem_range.mpr (ensure_eq_ok.mp houtput ▸ hrow))
  exact ⟨_, by rw [vecDot, hvalid]; rfl⟩

theorem prepareGemv_ok {N : Numerics} {mode : ReferenceExecutionMode} {matrix : PackedMatrix}
    {input : List F32} {outputLength decodedLength q8Length : Nat} {dot : RowDot}
    (h : prepareGemv N mode matrix input outputLength decodedLength q8Length = .ok dot) {row : Nat}
    (hrow : row < outputLength) : ∃ value, dot row = .ok value := by
  unfold prepareGemv at h
  split at h
  · rename_i hty
    obtain ⟨_, hprepare, h⟩ := except_bind_ok_iff.mp h
    cases mode with
    | cpuParallelQ8K =>
        cases h
        exact dotF32Row_ok N hty row input
    | dequantF32 =>
        cases h
        exact prepareDequant_ok hprepare hrow
    | llamaQ8K =>
        cases h
        exact prepareDequant_ok hprepare hrow
  · cases mode with
    | dequantF32 =>
        obtain ⟨_, hprepare, h⟩ := except_bind_ok_iff.mp h
        cases h
        exact prepareDequant_ok hprepare hrow
    | llamaQ8K =>
        obtain ⟨q8, hprepare, h⟩ := except_bind_ok_iff.mp h
        cases h
        exact prepareLlamaQ8K_ok hprepare hrow N.dotScalar
    | cpuParallelQ8K =>
        obtain ⟨q8, hprepare, h⟩ := except_bind_ok_iff.mp h
        cases h
        exact prepareLlamaQ8K_ok hprepare hrow N.dotCpu

theorem gemv_length {N : Numerics} {mode : ReferenceExecutionMode} {matrix : PackedMatrix}
    {input values : List F32} {outputLength decodedLength q8Length : Nat}
    (h : gemv N mode matrix input outputLength decodedLength q8Length = .ok values) :
    values.length = outputLength := by
  obtain ⟨dot, -, hrows⟩ := except_bind_ok_iff.mp h
  rw [← (except_mapM_ok_iff.mp hrows).length_eq, List.length_range]

/-- A write loop in which no row fails writes every row. -/
theorem writeRows_ok {dot : RowDot} {value : Nat → F32} {rows : List Nat}
    (h : ∀ row ∈ rows, dot row = .ok (value row))
    (output : List F32) : ∃ written, writeRows dot rows output = (.ok (), written) ∧
      written.length = output.length ∧ ∀ i, written[i]? = if i ∈ rows ∧
      i < output.length then some (value i) else output[i]? := by
  induction rows generalizing output with
  | nil => exact ⟨output, rfl, rfl, fun i => by simp⟩
  | cons row rows ih =>
      obtain ⟨written, hrun, hlength, hget⟩ := ih (fun r hr => h r (List.mem_cons_of_mem row hr))
        (output.set row (value row))
      refine ⟨written, ?_, hlength.trans List.length_set, fun i => ?_⟩
      · rw [writeRows, Command.bind_run, Command.lift_run, h row List.mem_cons_self]
        exact hrun
      · rw [hget i, List.length_set, List.getElem?_set]
        by_cases hmem : i ∈ rows <;> by_cases hrow : row = i <;> by_cases hlt : i <
          output.length <;>
          simp_all [eq_comm]

/-- `gemv_into` writes the whole result or nothing. -/
theorem gemvInto_run (N : Numerics) (mode : ReferenceExecutionMode) (matrix : PackedMatrix)
    (input : List F32) (decodedLength q8Length : Nat) (output : List F32) :
    gemvInto N mode matrix input decodedLength q8Length output =
      match gemv N mode matrix input output.length decodedLength q8Length with
      | .ok values => (.ok (), values)
      | .error e => (.error e, output) := by
  unfold gemvInto gemv
  rw [Command.bind_run, Command.read_run]
  dsimp only
  rw [Command.bind_run, Command.lift_run]
  cases hprepare : prepareGemv N mode matrix input output.length decodedLength q8Length with
  | error e => rfl
  | ok dot =>
      have hrows : ∀ row ∈ List.range output.length, ∃ value, dot row = .ok value := fun row hrow =>
        prepareGemv_ok hprepare (List.mem_range.mp hrow)
      choose! value hvalue using hrows
      obtain ⟨written, hrun, hlength, hget⟩ := writeRows_ok hvalue output
      have hwritten : written = (List.range output.length).map value := by
        apply List.ext_getElem?
        intro i
        rw [hget i, List.getElem?_map]
        by_cases hi : i < output.length
        · rw [if_pos ⟨List.mem_range.mpr hi, hi⟩, List.getElem?_range hi]
          rfl
        · rw [if_neg (fun h => hi h.2), List.getElem?_eq_none (Nat.le_of_not_lt hi),
            List.getElem?_eq_none (by rw [List.length_range]; exact Nat.le_of_not_lt hi)]
          rfl
      dsimp only
      rw [hrun, except_ok_bind, except_mapM_of_ok hvalue, hwritten]

end LightBridge.Kernels

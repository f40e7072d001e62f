import Mathlib.Data.List.GetD
import LightBridge.Kernels.Moe
import LightBridge.Quant.Range

/-! The matrix kernels on their caller's buffers, over the packed types of
`bridge-quant-layout`: which paths agree, and what a failed call leaves behind. -/
namespace LightBridge.Kernels
open Foundation Quant

/-! ### The host -/

/-- What `quantize_row_q8_k_into` writes into a row of the right length. -/
def quantizeRow (A : Floats) (input : List F32) : Except QuantError (List UInt8) := do
  let blockCount ← checkQuantize input (input.length / q8KBlockElements * q8KBlockBytes)
  pure (quantizeBlocks A input (List.range blockCount)
    (List.replicate (input.length / q8KBlockElements * q8KBlockBytes) 0)).2

/-- The primitives of a host; `dotCpu` is the block dot of its processor. -/
def host (A : Floats) (dotCpu : GgmlType → List UInt8 → List UInt8 → Nat → F32) : Numerics where
  toArithmetic := A.toArithmetic
  decodeBlock := decodeBlock A
  decodeBlock_length _ _ _ h := decodeBlock_length h
  quantizeRow := quantizeRow A
  validateDot weightType weights q8 logicalElements := do
    let _ ← validateVecDotInner weightType weights q8 logicalElements
    pure ()
  dotScalar weightType weights q8 logicalElements :=
    (dotScalar A weightType weights q8 (logicalElements / q8KBlockElements)).getD .zero
  dotCpu := dotCpu

/-! ### Accumulation -/

/-- `*value += scale * dot(row)?` for every destination. -/
def accumulateRows (N : Numerics) (scale : F32) (dot : RowDot) :
    List Nat → Command (List F32) KernelError Unit
  | [] => pure ()
  | row :: rows => do
      let product ← Command.lift (dot row)
      Command.update fun destination => destination.modify row fun value =>
        N.add value (N.mul scale product)
      accumulateRows N scale dot rows

/-- `gemv_accumulate_scaled_into`, on the destination. -/
def gemvAccumulateScaledInto (N : Numerics) (mode : ReferenceExecutionMode) (matrix : PackedMatrix)
    (input : List F32)
    (scale : F32) (decodedLength q8Length : Nat) : Command (List F32) KernelError Unit := do
  Command.lift (validateFiniteValue "accumulation scale" 0 scale)
  let destination ← Command.read
  Command.lift (validateFiniteSlice "destination" destination)
  let dot ← Command.lift
    (prepareAccumulate N mode matrix input destination.length decodedLength q8Length)
  accumulateRows N scale dot (List.range destination.length)

/-- `destination[i] + scale * product[i]`. -/
def scaledSum (N : Numerics) (scale : F32) (destination products : List F32) : List F32 :=
  List.zipWith (fun value product => N.add value (N.mul scale product)) destination products

/-- A loop in which no row fails adds every row. -/
theorem accumulateRows_ok {N : Numerics} {scale : F32} {dot : RowDot} {product : Nat → F32}
    {rows : List Nat}
    (h : ∀ row ∈ rows, dot row = .ok (product row)) (distinct : rows.Nodup)
    (destination : List F32) :
    ∃ written, accumulateRows N scale dot rows destination = (.ok (), written) ∧
      ∀ i, written[i]? = if i ∈ rows then destination[i]?.map
        (fun value => N.add value (N.mul scale (product i)))
        else destination[i]? := by
  induction rows generalizing destination with
  | nil => exact ⟨destination, rfl, fun i => rfl⟩
  | cons row rows ih =>
      obtain ⟨hrow, hrest⟩ := List.forall_mem_cons.mp h
      obtain ⟨hfresh, hdistinct⟩ := List.nodup_cons.mp distinct
      obtain ⟨written, hrun, hget⟩ := ih hrest hdistinct
        (destination.modify row fun value => N.add value (N.mul scale (product row)))
      refine ⟨written, ?_, fun i => ?_⟩
      · rw [accumulateRows, hrow]
        exact hrun
      · rw [hget i, List.getElem?_modify]
        by_cases hi : row = i
        · subst hi
          simp [hfresh]
        · simp [hi, Ne.symm hi]

theorem prepareAccumulate_ok {N : Numerics} {mode : ReferenceExecutionMode} {matrix : PackedMatrix}
    {input : List F32} {outputLength decodedLength q8Length : Nat} {dot : RowDot}
    (h : prepareAccumulate N mode matrix input outputLength decodedLength q8Length = .ok dot)
    {row : Nat}
    (hrow : row < outputLength) : ∃ value, dot row = .ok value := by
  unfold prepareAccumulate at h
  split at h
  · rename_i hty
    obtain ⟨_, -, h⟩ := except_bind_ok_iff.mp h
    cases h
    exact dotF32Row_ok N hty row input
  · exact prepareGemv_ok h hrow

/-- What the rows of a result add up to, whichever way they are computed. -/
theorem accumulateRows_run {N : Numerics} {scale : F32} {dot : RowDot}
    {destination products : List F32}
    (h : (List.range destination.length).mapM dot = .ok products) :
    accumulateRows N scale dot (List.range destination.length) destination =
      (.ok (), scaledSum N scale destination products) := by
  have hget := except_mapM_ok_iff.mp h
  have hlength : products.length = destination.length := by rw [← hget.length_eq, List.length_range]
  have hrows : ∀ row ∈ List.range destination.length, dot row = .ok (products.getD row .zero) := by
    intro row hrow
    have hlt := List.mem_range.mp hrow
    have hdot := (List.forall₂_iff_get.mp hget).2 row (by rwa [List.length_range]) (by omega)
    simp only [List.get_eq_getElem, List.getElem_range] at hdot
    rw [hdot, List.getD_eq_getElem _ _ (by omega)]
  obtain ⟨written, hrun, hvalues⟩ := accumulateRows_ok hrows List.nodup_range destination
  have hwritten : written = scaledSum N scale destination products := by
    apply List.ext_getElem?
    intro i
    rw [hvalues i, scaledSum, List.getElem?_zipWith]
    by_cases hi : i < destination.length
    · rw [if_pos (List.mem_range.mpr hi), List.getElem?_eq_getElem hi,
        List.getElem?_eq_getElem (by omega), List.getD_eq_getElem _ _ (by omega)]
      rfl
    · rw [if_neg (fun hmem => hi (List.mem_range.mp hmem)), List.getElem?_eq_none (by omega)]
  rw [hrun, hwritten]

/-- The kernel on the destination, from the products of its rows. -/
theorem gemvAccumulateScaledInto_run {N : Numerics} {mode : ReferenceExecutionMode}
    {matrix : PackedMatrix} {input : List F32} {scale : F32} {decodedLength q8Length : Nat}
    {destination : List F32} (hscale : scale.isFinite = true)
    (hfinite : ∀ value ∈ destination, value.isFinite = true) :
    gemvAccumulateScaledInto N mode matrix input scale decodedLength q8Length destination =
      match (do
        let dot ← prepareAccumulate N mode matrix input destination.length decodedLength q8Length
        (List.range destination.length).mapM dot : Except KernelError (List F32)) with
      | .ok products => (.ok (), scaledSum N scale destination products)
      | .error e => (.error e, destination) := by
  have hvalid : validateFiniteSlice "destination" destination = .ok () :=
    validateFiniteSlice_eq_ok.mpr hfinite
  unfold gemvAccumulateScaledInto
  rw [validateFiniteValue, ensure, if_pos hscale,
    Command.bind_of_ok (Command.lift_run _ destination),
    Command.bind_of_ok (Command.read_run destination), hvalid,
    Command.bind_of_ok (Command.lift_run _ destination)]
  cases hprepare : prepareAccumulate N mode matrix input destination.length decodedLength
    q8Length with
  | error e => rfl
  | ok dot =>
      have hrows : ∀ row ∈ List.range destination.length, ∃ value, dot row = .ok value :=
        fun row hrow =>
        prepareAccumulate_ok hprepare (List.mem_range.mp hrow)
      choose! product hproduct using hrows
      have hmap : (List.range destination.length).mapM dot =
          .ok ((List.range destination.length).map product) :=
        except_mapM_of_ok hproduct
      rw [Command.bind_of_ok (Command.lift_run _ destination), accumulateRows_run hmap,
        except_ok_bind, hmap]

/-- An accumulation that fails has added nothing. -/
theorem gemvAccumulateScaledInto_ends (N : Numerics) (mode : ReferenceExecutionMode)
    (matrix : PackedMatrix) (input : List F32) (scale : F32) (decodedLength q8Length : Nat)
    (destination : List F32) :
    Command.Ends (fun _ destination' => destination'.length = destination.length)
      (fun _ destination' => destination' = destination)
      (gemvAccumulateScaledInto N mode matrix input scale decodedLength q8Length destination) := by
  unfold gemvAccumulateScaledInto
  refine .lift_bind (fun _ _ => rfl) fun _ _ =>
    .read_bind (.lift_bind (fun _ _ => rfl) fun _ _ => ?_)
  refine .lift_bind (fun _ _ => rfl) fun dot hprepare => ?_
  have hrows : ∀ row ∈ List.range destination.length, ∃ value, dot row = .ok value :=
    fun row hrow =>
    prepareAccumulate_ok hprepare (List.mem_range.mp hrow)
  choose! product hproduct using hrows
  have hmap : (List.range destination.length).mapM dot =
      .ok ((List.range destination.length).map product) :=
    except_mapM_of_ok hproduct
  rw [accumulateRows_run hmap]
  refine .answered () _ ?_
  simp [scaledSum]

/-- The kernel on the destination computes what `gemvAccumulateScaled` answers. -/
theorem gemvAccumulateScaledInto_computes (N : Numerics) (mode : ReferenceExecutionMode)
    (matrix : PackedMatrix) (input : List F32) (scale : F32) (decodedLength q8Length : Nat)
    (destination : List F32) :
    Command.Computes
      (gemvAccumulateScaled N mode matrix input destination scale decodedLength q8Length)
      (gemvAccumulateScaledInto N mode matrix input scale decodedLength q8Length destination) := by
  unfold gemvAccumulateScaledInto gemvAccumulateScaled
  refine .lift_bind fun _ _ => .read_bind (.lift_bind fun _ _ => .lift_bind fun dot hprepare => ?_)
  have hrows : ∀ row ∈ List.range destination.length, ∃ value, dot row = .ok value :=
    fun row hrow =>
    prepareAccumulate_ok hprepare (List.mem_range.mp hrow)
  choose! product hproduct using hrows
  have hmap : (List.range destination.length).mapM dot =
      .ok ((List.range destination.length).map product) :=
    except_mapM_of_ok hproduct
  have hsum : (destination.zipIdx.map fun entry => N.add entry.1 (N.mul scale (product entry.2))) =
      scaledSum N scale destination ((List.range destination.length).map product) := by
    apply List.ext_getElem
    · simp [scaledSum]
    · intro i _ _
      simp [scaledSum]
  rw [accumulateRows_run hmap,
    except_mapM_of_ok (g := fun entry => N.add entry.1 (N.mul scale (product entry.2))), hsum]
  · exact .answered () _ rfl
  · intro entry hentry
    have hlt : entry.2 < destination.length := by
      have hlast := List.mem_zipIdx hentry
      omega
    dsimp only
    rw [hproduct entry.2 (List.mem_range.mpr hlt)]
    rfl

/-! ### Rows of `F32` -/

theorem foldlM_of_ok {α β ε : Type} {f : β → α → Except ε β} {g : β → α → β} {xs : List α}
    (h : ∀ x ∈ xs, ∀ b, f b x = .ok (g b x)) (b : β) : xs.foldlM f b = .ok (xs.foldl g b) := by
  induction xs generalizing b with
  | nil => rfl
  | cons x xs ih =>
      rw [List.foldlM_cons, h x List.mem_cons_self b, List.foldl_cons]
      exact ih (fun y hy => h y (List.mem_cons_of_mem x hy)) (g b x)

/-- Lanes one at a time. -/
theorem dotLanes_singles (N : Numerics) (weight : Nat → F32) (input : List F32) (sum : F32)
    {start count : Nat} (h : start + count = input.length) :
    (List.range' start count).foldl
      (fun sum lane => dotLanes N sum [weight lane] (slice input lane 1)) sum =
      dotLanes N sum ((List.range' start count).map weight) (input.drop start) := by
  induction count generalizing start sum with
  | zero => rfl
  | succ count ih =>
      have hlt : start < input.length := by omega
      have hdrop : input.drop start = input[start] :: input.drop (start + 1) :=
        List.drop_eq_getElem_cons hlt
      have hslice : slice input start 1 = [input[start]] := by
        rw [slice, hdrop, List.take_succ_cons, List.take_zero]
      rw [List.range'_succ, List.foldl_cons, ih _ (by omega), hslice, List.map_cons, hdrop]
      rfl

/-- Once the weights have been decoded, both ways to compute a row of `F32` weights add the same
products in the same order. -/
theorem dotDequantRow_f32 {A : Floats} {dotCpu : GgmlType → List UInt8 → List UInt8 → Nat → F32}
    {matrix : PackedMatrix} {input : List F32} {outputLength decodedLength : Nat}
    (hty : matrix.ty = .f32)
    (h : prepareDequant (host A dotCpu) matrix input outputLength decodedLength = .ok ())
    {row : Nat} (hrow : row < outputLength) :
    dotDequantRow (host A dotCpu) matrix row input =
      dotF32Row (host A dotCpu) matrix row input := by
  unfold prepareDequant at h
  obtain ⟨_, hdimensions, h⟩ := except_bind_ok_iff.mp h
  obtain ⟨sizes, hlayout, h⟩ := except_bind_ok_iff.mp h
  obtain ⟨-, -, h⟩ := except_bind_ok_iff.mp h
  unfold validateDimensions at hdimensions
  obtain ⟨_, hinput, hdimensions⟩ := except_bind_ok_iff.mp hdimensions
  obtain ⟨_, houtput, -⟩ := except_bind_ok_iff.mp hdimensions
  rw [ensure_eq_ok] at hinput houtput
  obtain rfl : sizes = (1, 4) := by
    rw [hty] at hlayout
    exact (Except.ok.inj hlayout).symm
  have hblocks := forEach_eq_ok.mp (forEach_eq_ok.mp h row (List.mem_range.mpr (houtput ▸ hrow)))
  let weight : Nat → F32 := fun lane =>
    F32.fromBits (ofLeBytes (slice (matrix.row row) (lane * 4) 4))
  have hdecoded : ∀ block ∈ List.range (matrix.inputWidth / 1),
      decodedBlock (host A dotCpu) matrix 4 row block = .ok [weight block] := by
    intro block hblock
    obtain ⟨decoded, hdecoded, -⟩ := except_bind_ok_iff.mp (hblocks block hblock)
    have hblock := wrap_eq_ok.mp hdecoded
    rw [hty] at hblock
    rw [hdecoded, decodeBlock_f32 A hblock, readF32, slice_slice _ _ _ _ _ (Nat.le_refl 4)]
    rfl
  have hstep : ∀ block ∈ List.range (matrix.inputWidth / 1), ∀ sum : F32,
      (do
        let decoded ← decodedBlock (host A dotCpu) matrix 4 row block
        pure (dotLanes (host A dotCpu) sum decoded (slice input (block * 1) 1)) : Except
          KernelError F32) =
      .ok (dotLanes (host A dotCpu) sum [weight block] (slice input block 1)) := by
    intro block hblock sum
    rw [hdecoded block hblock, Nat.mul_one]
    rfl
  unfold dotDequantRow dotF32Row
  rw [hlayout, ensure, if_pos hty, except_ok_bind, except_ok_bind]
  refine (foldlM_of_ok hstep F32.zero).trans ?_
  rw [Nat.div_one, ← hinput, List.range_eq_range',
    dotLanes_singles _ weight input F32.zero (Nat.zero_add _)]
  rfl

/-! ### The paths agree -/

/-- The two preparations answer the same error, or rows with the same values. -/
theorem prepareAccumulate_products {A : Floats}
    {dotCpu : GgmlType → List UInt8 → List UInt8 → Nat → F32} (mode : ReferenceExecutionMode)
    (matrix : PackedMatrix) (input : List F32) (outputLength decodedLength q8Length : Nat) :
    (do
      let dot ← prepareAccumulate (host A dotCpu) mode matrix input outputLength
        decodedLength q8Length
      (List.range outputLength).mapM dot : Except KernelError (List F32)) =
    gemv (host A dotCpu) mode matrix input outputLength decodedLength q8Length := by
  unfold gemv prepareAccumulate
  by_cases hty : matrix.ty = .f32
  · rw [if_pos hty]
    unfold prepareGemv
    rw [if_pos hty]
    cases hprepare : prepareDequant (host A dotCpu) matrix input outputLength decodedLength with
    | error e => rfl
    | ok u =>
        have hrows : ∀ row ∈ List.range outputLength,
            dotF32Row (host A dotCpu) matrix row input =
              dotDequantRow (host A dotCpu) matrix row input :=
          fun row hrow => (dotDequantRow_f32 hty hprepare (List.mem_range.mp hrow)).symm
        cases mode with
        | cpuParallelQ8K => rfl
        | dequantF32 => exact except_mapM_congr hrows
        | llamaQ8K => exact except_mapM_congr hrows
  · rw [if_neg hty]

theorem gemv_cpuParallel {A : Floats} {dotCpu : GgmlType → List UInt8 → List UInt8 → Nat → F32}
    (hsame : ∀ weightType weights q8 logicalElements, dotCpu weightType weights q8 logicalElements =
      (host A dotCpu).dotScalar weightType weights q8 logicalElements)
    (matrix : PackedMatrix) (input : List F32) (outputLength decodedLength q8Length : Nat) :
    gemv (host A dotCpu) .cpuParallelQ8K matrix input outputLength decodedLength q8Length =
      gemv (host A dotCpu) .llamaQ8K matrix input outputLength decodedLength q8Length := by
  unfold gemv prepareGemv
  by_cases hty : matrix.ty = .f32
  · rw [if_pos hty, if_pos hty]
    cases hprepare : prepareDequant (host A dotCpu) matrix input outputLength decodedLength with
    | error e => rfl
    | ok u =>
        exact except_mapM_congr fun row hrow =>
          (dotDequantRow_f32 hty hprepare (List.mem_range.mp hrow)).symm
  · have hdot : (host A dotCpu).dotCpu = (host A dotCpu).dotScalar := by
      funext weightType weights q8 logicalElements
      exact hsame weightType weights q8 logicalElements
    rw [if_neg hty, if_neg hty]
    dsimp only
    rw [hdot]

/-- All matrix-vector paths agree: the parallel kernel does what the sequential one does, and
accumulation adds `scale` times what the same mode writes. -/
theorem matrix_paths_agree {A : Floats} {dotCpu : GgmlType → List UInt8 → List UInt8 → Nat → F32}
    (hsame : ∀ weightType weights q8 logicalElements, dotCpu weightType weights q8 logicalElements =
      (host A dotCpu).dotScalar weightType weights q8 logicalElements) :
    (∀ matrix input decodedLength q8Length output,
      gemvInto (host A dotCpu) .cpuParallelQ8K matrix input decodedLength q8Length output =
        gemvInto (host A dotCpu) .llamaQ8K matrix input decodedLength q8Length output) ∧
    ∀ mode matrix input scale decodedLength q8Length destination, scale.isFinite = true →
      (∀ value ∈ destination, value.isFinite = true) → ∀ output,
      output.length = destination.length →
        gemvAccumulateScaledInto (host A dotCpu) mode matrix input scale decodedLength q8Length
        destination =
          match gemvInto (host A dotCpu) mode matrix input decodedLength q8Length output with
          | (.ok (), products) => (.ok (), scaledSum (host A dotCpu) scale destination products)
          | (.error e, _) => (.error e, destination) := by
  constructor
  · intro matrix input decodedLength q8Length output
    rw [gemvInto_run, gemvInto_run, gemv_cpuParallel hsame]
  · intro mode matrix input scale decodedLength q8Length destination hscale hfinite output hlength
    rw [gemvAccumulateScaledInto_run hscale hfinite, prepareAccumulate_products,
      gemvInto_run, hlength]
    cases gemv (host A dotCpu) mode matrix input destination.length decodedLength q8Length with
    | ok products => rfl
    | error e => rfl

/-- A host without AVX2, on which every product is zero. -/
def zeroFloats : Floats where
  toArithmetic := zeroNumerics.toArithmetic
  ofHalf _ := .zero
  ofInt _ := .zero

def scalarHost : Numerics :=
  host zeroFloats fun weightType weights q8 logicalElements =>
    (dotScalar zeroFloats weightType weights q8 (logicalElements / q8KBlockElements)).getD .zero

/-- Two quantised rows of 256 weights. -/
def packedRows : PackedMatrix := ⟨.q4K, 256, 2, 144, List.replicate 288 17⟩

def ones : List F32 := List.replicate 256 one

theorem matrix_paths_agree_scalar :
    gemvInto scalarHost .cpuParallelQ8K packedRows ones 256 292 [one, one] =
        gemvInto scalarHost .llamaQ8K packedRows ones 256 292 [one, one] ∧
      gemvAccumulateScaledInto scalarHost .dequantF32 packedRows ones one 256 292 [one, .zero] =
        (.ok (), scaledSum scalarHost one [one, .zero] [.zero, .zero]) := by
  have hproducts : gemvInto scalarHost .dequantF32 packedRows ones 256 292 [one, one] =
      (.ok (), [.zero, .zero]) := by decide +kernel
  unfold scalarHost at hproducts ⊢
  obtain ⟨hparallel, haccumulated⟩ := @matrix_paths_agree zeroFloats
    (fun weightType weights q8 logicalElements =>
      (dotScalar zeroFloats weightType weights q8 (logicalElements / q8KBlockElements)).getD .zero)
    fun _ _ _ _ => rfl
  refine ⟨hparallel packedRows ones 256 292 [one, one], ?_⟩
  rw [haccumulated .dequantF32 packedRows ones one 256 292 [one, .zero] (by decide) (by decide)
    [one, one] rfl, hproducts]

/-! ### Failed calls -/

/-- The kernels validate before they write: a failed call leaves its destination as it was, and
`decode_row_into` that answers has written the decodings of the blocks in order. -/
theorem failed_kernels_write_nothing (A : Floats)
    (dotCpu : GgmlType → List UInt8 → List UInt8 → Nat → F32) :
    (∀ ty encoded logicalElements output e output',
      decodeRowInto A ty encoded logicalElements output = (.error e, output') → output' = output) ∧
    (∀ input encoded e encoded', quantizeRowQ8KInto A input encoded = (.error e, encoded') →
      encoded' = encoded) ∧
    (∀ mode matrix input decodedLength q8Length output e output',
      gemvInto (host A dotCpu) mode matrix input decodedLength q8Length output =
      (.error e, output') → output' = output) ∧
    (∀ mode matrix input scale decodedLength q8Length destination e destination',
      gemvAccumulateScaledInto (host A dotCpu) mode matrix input scale decodedLength q8Length
        destination = (.error e, destination') → destination' = destination) ∧
    ∀ ty encoded logicalElements output output',
      decodeRowInto A ty encoded logicalElements output = (.ok (), output') →
        DecodedRow A ty encoded logicalElements output' := by
  refine ⟨?_, ?_, ?_, ?_, ?_⟩
  · intro ty encoded logicalElements output e output' h
    exact (decodeRowInto_ends A ty encoded logicalElements output).of_error h
  · intro input encoded e encoded' h
    exact ((quantizeRowQ8KInto_ends A input encoded).of_error h).1
  · intro mode matrix input decodedLength q8Length output e output' h
    rw [gemvInto_run] at h
    split at h
    · cases h
    · cases h
      rfl
  · intro mode matrix input scale decodedLength q8Length destination e destination' h
    exact (gemvAccumulateScaledInto_ends (host A dotCpu) mode matrix input scale decodedLength
      q8Length destination).of_error h
  · intro ty encoded logicalElements output output' h
    exact (decodeRowInto_ends A ty encoded logicalElements output).of_ok h

end LightBridge.Kernels

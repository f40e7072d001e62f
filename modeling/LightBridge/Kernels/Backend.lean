import LightBridge.Kernels.Buffers
import LightBridge.Kernels.Layer
import LightBridge.Quant.Avx2

/-! The kernels on the parallel backend of a processor, with AVX2 or without: each of them computes
what it does in the scalar mode. -/
namespace LightBridge.Kernels
open Foundation Quant

/-- The primitives of a processor. The product of `vec_dot_q8_k_cpu` is what follows its checks. -/
def cpuHost (avx2 : Bool) (A : Floats) : Numerics :=
  host A fun weightType weights q8 logicalElements =>
    (if avx2 then dotAvx2 A weightType weights q8 (logicalElements / q8KBlockElements)
      else dotScalar A weightType weights q8 (logicalElements / q8KBlockElements)).getD .zero

/-- Every processor has the same products. -/
theorem cpuHost_avx2 (avx2 : Bool) (A : Floats) : cpuHost avx2 A = cpuHost false A := by
  cases avx2 with
  | false => rfl
  | true => simp only [cpuHost, dotAvx2_eq, if_true, Bool.false_eq_true, if_false]

section Modes
variable (A : Floats)

theorem gemv_modes :
    gemv (cpuHost false A) .cpuParallelQ8K = gemv (cpuHost false A) .llamaQ8K := by
  funext matrix input outputLength decodedLength q8Length
  exact gemv_cpuParallel (fun _ _ _ _ => rfl) matrix input outputLength decodedLength q8Length

theorem gemvInto_modes :
    gemvInto (cpuHost false A) .cpuParallelQ8K = gemvInto (cpuHost false A) .llamaQ8K := by
  funext matrix input decodedLength q8Length output
  rw [gemvInto_run, gemvInto_run, gemv_modes]

/-- `F32` rows take one path in both modes, and packed ones have the same products. -/
theorem prepareAccumulate_modes :
    prepareAccumulate (cpuHost false A) .cpuParallelQ8K =
      prepareAccumulate (cpuHost false A) .llamaQ8K := by
  funext matrix input outputLength decodedLength q8Length
  unfold prepareAccumulate
  split
  · rfl
  · rename_i hty
    rw [prepareGemv, prepareGemv, if_neg hty, if_neg hty]
    rfl

theorem gemvAccumulateScaled_modes :
    gemvAccumulateScaled (cpuHost false A) .cpuParallelQ8K =
      gemvAccumulateScaled (cpuHost false A) .llamaQ8K := by
  funext matrix input destination scale decodedLength q8Length
  rw [gemvAccumulateScaled, gemvAccumulateScaled, prepareAccumulate_modes]

/-! ### Experts -/

theorem swigluActivations_modes :
    swigluActivations (cpuHost false A) .cpuParallelQ8K =
      swigluActivations (cpuHost false A) .llamaQ8K := by
  funext expert input scratch
  rw [swigluActivations, swigluActivations, gemv_modes]

theorem swigluProject_modes :
    swigluProject (cpuHost false A) .cpuParallelQ8K =
      swigluProject (cpuHost false A) .llamaQ8K := by
  funext expert input outputLength scratch
  rw [swigluProject, swigluProject, swigluActivations_modes, gemv_modes]

theorem expertSwigluAccumulate_modes :
    expertSwigluAccumulate (cpuHost false A) .cpuParallelQ8K =
      expertSwigluAccumulate (cpuHost false A) .llamaQ8K := by
  funext expert input destination coefficient scratch
  rw [expertSwigluAccumulate, expertSwigluAccumulate, swigluActivations_modes,
    gemvAccumulateScaled_modes]

theorem preflight_modes :
    preflight (cpuHost false A) .cpuParallelQ8K = preflight (cpuHost false A) .llamaQ8K := by
  funext expert input outputLength scratch field
  rw [preflight, preflight, swigluProject_modes]

theorem preflightRouted_modes (input : List F32) (outputLength : Nat) (scratch : SwiGluScratch)
    (routed : List SelectedExpert) :
    preflightRouted (cpuHost false A) .cpuParallelQ8K input outputLength scratch routed =
      preflightRouted (cpuHost false A) .llamaQ8K input outputLength scratch routed := by
  induction routed with
  | nil => rfl
  | cons selected rest ih => rw [preflightRouted, preflightRouted, preflight_modes, ih]

theorem validateRouted_modes (experts : List SwiGluExpert) (shared : SwiGluExpert)
    (input : List F32) (outputLength : Nat) (scratch : SwiGluScratch) (previous : Option Nat)
    (routed : List RoutedExpert) :
    validateRouted (cpuHost false A) .cpuParallelQ8K experts shared input outputLength scratch
        previous routed =
      validateRouted (cpuHost false A) .llamaQ8K experts shared input outputLength scratch
        previous routed := by
  induction routed generalizing previous with
  | nil => rfl
  | cons selected rest ih =>
      rw [validateRouted, validateRouted, swigluProject_modes]
      simp only [ih]

theorem moeRoutedById_modes :
    moeRoutedById (cpuHost false A) .cpuParallelQ8K =
      moeRoutedById (cpuHost false A) .llamaQ8K := by
  funext routed experts shared input outputLength preflightLength scratch
  rw [moeRoutedById, moeRoutedById, validateRouted_modes, swigluProject_modes,
    expertSwigluAccumulate_modes]

theorem moeSelected_modes :
    moeSelected (cpuHost false A) .cpuParallelQ8K = moeSelected (cpuHost false A) .llamaQ8K := by
  funext routed shared input outputLength preflightLength scratch
  rw [moeSelected, moeSelected, preflightRouted_modes, preflight_modes,
    expertSwigluAccumulate_modes]

/-! ### Blocks -/

theorem project_modes :
    project (cpuHost false A) .cpuParallelQ8K = project (cpuHost false A) .llamaQ8K := by
  funext buffers matrix input outputLength
  rw [project, project, gemv_modes]

/-- The execution of a block in another mode. -/
def Hy3BlockExecution.inMode (execution : Hy3BlockExecution) (mode : ReferenceExecutionMode) :
    Hy3BlockExecution := { execution with mode }

variable (execution : Hy3BlockExecution)

theorem projectToken_modes :
    projectToken (cpuHost false A) (execution.inMode .cpuParallelQ8K) =
      projectToken (cpuHost false A) (execution.inMode .llamaQ8K) := by
  funext attention buffers hidden
  simp only [projectToken, Hy3BlockExecution.inMode, project_modes]

theorem attendToken_modes (alloc : Kv.Allocator) :
    attendToken (cpuHost false A) alloc (execution.inMode .cpuParallelQ8K) =
      attendToken (cpuHost false A) alloc (execution.inMode .llamaQ8K) := by
  funext attention ffnNorm
  rw [attendToken, attendToken, projectToken_modes]
  simp only [Hy3BlockExecution.inMode, project_modes]

theorem routeToken_modes :
    routeToken (cpuHost false A) .cpuParallelQ8K = routeToken (cpuHost false A) .llamaQ8K := by
  funext scratch router selectionBias expertUsedCount weightScale normalized
  rw [routeToken, routeToken, project_modes]

theorem feedForward_modes (normalized : List F32) (weights : Hy3FeedForwardWeights) :
    feedForward (cpuHost false A) .cpuParallelQ8K normalized weights =
      feedForward (cpuHost false A) .llamaQ8K normalized weights := by
  cases weights with
  | dense expert => rw [feedForward, feedForward, swigluProject_modes]
  | moe moe => rw [feedForward, feedForward, routeToken_modes, moeRoutedById_modes]

theorem hy3BlockForwardToken_modes (alloc : Kv.Allocator) :
    hy3BlockForwardToken (cpuHost false A) alloc (execution.inMode .cpuParallelQ8K) =
      hy3BlockForwardToken (cpuHost false A) alloc (execution.inMode .llamaQ8K) := by
  funext block
  rw [hy3BlockForwardToken, hy3BlockForwardToken, attendToken_modes]
  simp only [Hy3BlockExecution.inMode, feedForward_modes]

theorem hy3MoeRouteToken_modes (alloc : Kv.Allocator) :
    hy3MoeRouteToken (cpuHost false A) alloc (execution.inMode .cpuParallelQ8K) =
      hy3MoeRouteToken (cpuHost false A) alloc (execution.inMode .llamaQ8K) := by
  funext block
  rw [hy3MoeRouteToken, hy3MoeRouteToken, attendToken_modes]
  simp only [Hy3BlockExecution.inMode, routeToken_modes]

theorem hy3MoeFinishToken_modes :
    hy3MoeFinishToken (cpuHost false A) .cpuParallelQ8K =
      hy3MoeFinishToken (cpuHost false A) .llamaQ8K := by
  funext selected shared
  rw [hy3MoeFinishToken, hy3MoeFinishToken, moeSelected_modes]

end Modes
end LightBridge.Kernels

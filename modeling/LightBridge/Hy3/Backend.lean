import LightBridge.Hy3.Session
import LightBridge.Kernels.Backend

/-! The scalar runtime on the parallel backend of a processor. Whatever is asked of its sessions,
they go through what sessions in the scalar mode go through. -/
namespace LightBridge.Hy3
open Foundation Kernels ExpertCache Quant
variable {ε : Type}

/-- The model in another mode. -/
def Hy3ScalarModel.inMode (model : Hy3ScalarModel) (mode : ReferenceExecutionMode) :
    Hy3ScalarModel := { model with executionMode := mode }

/-- The environment in which the leases of a layer are granted. The parallel backend collects its
leases and asks for no room in advance. -/
def Environment.leased (env : Environment ε) : Environment ε := { env with leases := fun _ => true }

namespace Hy3ScalarModel
variable (A : Floats) (env : Environment ε) (model : Hy3ScalarModel)

theorem execution_inMode (mode : ReferenceExecutionMode) (layer position : Nat) :
    (model.inMode mode).execution layer position = (model.execution layer position).inMode mode :=
  rfl

theorem evaluateDense_modes :
    evaluateDense (cpuHost false A) env (model.inMode .cpuParallelQ8K) =
      evaluateDense (cpuHost false A) env.leased (model.inMode .llamaQ8K) := by
  funext index layer expert
  simp only [evaluateDense, execution_inMode, hy3BlockForwardToken_modes]
  rfl

theorem loadRoutes_modes :
    loadRoutes env (model.inMode .cpuParallelQ8K) =
      loadRoutes env.leased (model.inMode .llamaQ8K) := by
  funext layer moe routes
  rfl

theorem finishMoe_modes :
    finishMoe (cpuHost false A) env (model.inMode .cpuParallelQ8K) =
      finishMoe (cpuHost false A) env.leased (model.inMode .llamaQ8K) := by
  funext index moe scratch
  unfold finishMoe
  rw [loadRoutes_modes]
  simp only [inMode, hy3MoeFinishToken_modes]
  rfl

theorem evaluateMoe_modes :
    evaluateMoe (cpuHost false A) env (model.inMode .cpuParallelQ8K) =
      evaluateMoe (cpuHost false A) env.leased (model.inMode .llamaQ8K) := by
  funext index layer moe
  simp only [evaluateMoe, execution_inMode, hy3MoeRouteToken_modes, finishMoe_modes]
  rfl

theorem evaluateLayer_modes :
    evaluateLayer (cpuHost false A) env (model.inMode .cpuParallelQ8K) =
      evaluateLayer (cpuHost false A) env.leased (model.inMode .llamaQ8K) := by
  funext index layer
  rw [evaluateLayer, evaluateLayer, evaluateDense_modes, evaluateMoe_modes]

theorem evaluateLayers_modes (index : Nat) (layers : List LayerWeights) :
    evaluateLayers (cpuHost false A) env (model.inMode .cpuParallelQ8K) index layers =
      evaluateLayers (cpuHost false A) env.leased (model.inMode .llamaQ8K) index layers := by
  induction layers generalizing index with
  | nil => rfl
  | cons layer layers ih => rw [evaluateLayers, evaluateLayers, evaluateLayer_modes, ih]

theorem finishToken_modes :
    finishToken (ε := ε) (cpuHost false A) (model.inMode .cpuParallelQ8K) =
      finishToken (cpuHost false A) (model.inMode .llamaQ8K) := by
  unfold finishToken
  simp only [inMode, gemvInto_modes]

theorem evaluateInner_modes :
    evaluateInner (cpuHost false A) env (model.inMode .cpuParallelQ8K) =
      evaluateInner (cpuHost false A) env.leased (model.inMode .llamaQ8K) := by
  funext tokenId
  unfold evaluateInner
  rw [evaluateLayers_modes, finishToken_modes]
  rfl

theorem evaluate_modes :
    evaluate (cpuHost false A) env (model.inMode .cpuParallelQ8K) =
      evaluate (cpuHost false A) env.leased (model.inMode .llamaQ8K) := by
  funext tokenId state
  rw [evaluate, evaluate, evaluateInner_modes]

end Hy3ScalarModel

/-! ### Whole sessions -/

/-- What is asked of a session. -/
inductive SessionCall (ε : Type) where
  | evaluate (env : Environment ε) (tokenId : Nat)
  | reset
  | restore (alloc : Kv.Allocator) (bytes : List UInt8) (maximumBytes : Nat)
  | snapshot (alloc : Kv.Allocator) (maximumBytes : Nat)

/-- What a caller sees of a call. -/
inductive SessionAnswer (ε : Type) where
  | evaluated (result : Except (Hy3ScalarError ε) Unit) (logits : List F32)
  | reset
  | restored (result : Except (Hy3ScalarError ε) Unit)
  | exported (result : Except (Hy3ScalarError ε) (List UInt8))

def SessionCall.leased : SessionCall ε → SessionCall ε
  | .evaluate env tokenId => .evaluate env.leased tokenId
  | .reset => .reset
  | .restore alloc bytes maximumBytes => .restore alloc bytes maximumBytes
  | .snapshot alloc maximumBytes => .snapshot alloc maximumBytes

namespace Hy3ScalarModel

/-- One call, on the session and the caller's logits. -/
def answer (N : Numerics) (sha : Sha256) (model : Hy3ScalarModel) (call : SessionCall ε)
    (state : Hy3ScalarSession × List F32) :
    SessionAnswer ε × Hy3ScalarSession × List F32 :=
  match call with
  | .evaluate env tokenId =>
      let ended := model.evaluate N env tokenId state
      (.evaluated ended.1 ended.2.2, ended.2)
  | .reset => (.reset, resetSession state.1, state.2)
  | .restore alloc bytes maximumBytes =>
      let ended := model.restoreKvSnapshot sha alloc bytes maximumBytes state.1
      (.restored ended.1, ended.2, state.2)
  | .snapshot alloc maximumBytes =>
      (.exported (model.exportKvSnapshot sha alloc state.1 maximumBytes), state)

/-- The answers to the calls, and the session they leave. -/
def answers (N : Numerics) (sha : Sha256) (model : Hy3ScalarModel) :
    List (SessionCall ε) → Hy3ScalarSession × List F32 →
      List (SessionAnswer ε) × Hy3ScalarSession × List F32
  | [], state => ([], state)
  | call :: calls, state =>
      let first := model.answer N sha call state
      let rest := answers N sha model calls first.2
      (first.1 :: rest.1, rest.2)

/-- Over every run of calls, sessions on the parallel backend of any processor answer and become
what sessions of the scalar mode do, bit by bit. -/
theorem backends_agree (avx2 : Bool) (A : Floats) (sha : Sha256) (model : Hy3ScalarModel)
    (calls : List (SessionCall ε)) (state : Hy3ScalarSession × List F32) :
    (model.inMode .cpuParallelQ8K).answers (cpuHost avx2 A) sha calls state =
      (model.inMode .llamaQ8K).answers (cpuHost false A) sha (calls.map SessionCall.leased)
        state := by
  rw [cpuHost_avx2]
  induction calls generalizing state with
  | nil => rfl
  | cons call calls ih =>
      have hcall : (model.inMode .cpuParallelQ8K).answer (cpuHost false A) sha call state =
          (model.inMode .llamaQ8K).answer (cpuHost false A) sha call.leased state := by
        cases call with
        | evaluate env tokenId =>
            simp only [answer, SessionCall.leased, evaluate_modes]
        | reset => rfl
        | restore alloc bytes maximumBytes => rfl
        | snapshot alloc maximumBytes => rfl
      rw [answers, List.map_cons, answers, hcall, ih]

end Hy3ScalarModel
end LightBridge.Hy3

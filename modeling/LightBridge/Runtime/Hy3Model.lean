import LightBridge.Hy3.Retry
import LightBridge.Runtime.ChatSession

/-! `Hy3ScalarModel` as the causal model of the chat engine. -/
namespace LightBridge.Hy3
open Foundation Kernels LightBridge.Runtime

/-- What a call of the scalar model meets: while it opens a session, evaluates a token, or
stores and restores its rows. -/
structure World (ε : Type) where
  opening : SessionAllocator
  evaluation : Environment ε
  rows : Kv.Allocator

namespace Hy3ScalarModel
variable {ε : Type}

/-- `impl CausalModel for Hy3ScalarModel`, and the snapshots of its rows. -/
def causal (N : Numerics) (sha : Sha256) (model : Hy3ScalarModel)
    (capacity : model.contextCapacity ≤ usizeMax) :
    SnapshotModel (World ε) Hy3ScalarSession (Hy3ScalarError ε) where
  vocabularySize := model.config.vocabularySize
  contextLength := model.contextCapacity
  contextLength_le := capacity
  newSession world := newSession world.opening model
  resetSession := resetSession
  position := Hy3ScalarSession.position
  evaluateToken world tokenId := evaluate N world.evaluation model tokenId
  modelFingerprint := model.modelFingerprint
  exportKvSnapshot world session maximumBytes :=
    exportKvSnapshot sha world.rows model session maximumBytes
  restoreKvSnapshot world bytes maximumBytes :=
    restoreKvSnapshot sha world.rows model bytes maximumBytes

end Hy3ScalarModel

/-! ### Positions -/

section Position
open Hy3ScalarModel
variable {ε : Type} {model : Hy3ScalarModel} {position : Nat}

/-- The sessions at one position. -/
def At (position : Nat) (session : Hy3ScalarSession) : Prop := session.position = position

theorem embedToken_at (N : Numerics) (tokenId : Nat) :
    (embedToken (ε := ε) N model tokenId).Keeps (At position) := by
  unfold embedToken
  refine (Command.Keeps.read _).bind fun session => ?_
  refine (Command.Keeps.lift _ _).bind fun embeddings => ?_
  refine (Command.Keeps.lift _ _).bind fun hidden => ?_
  exact fun _ h => h

theorem normalizeHidden_at (N : Numerics) :
    (normalizeHidden (ε := ε) N model).Keeps (At position) := by
  unfold normalizeHidden
  refine (Command.Keeps.read _).bind fun session => ?_
  refine (Command.Keeps.lift _ _).bind fun normalized => ?_
  exact fun _ h => h

theorem evaluateDense_at (N : Numerics) (env : Environment ε) (index : Nat) (layer : LayerWeights)
    (expert : OwnedExpert) :
    (evaluateDense N env model index layer expert).Keeps (At position) := by
  unfold evaluateDense
  refine (Command.Keeps.read _).bind fun session => ?_
  refine (Command.Keeps.lift _ _).bind fun attention => ?_
  refine (Command.Keeps.lift _ _).bind fun expert => ?_
  apply Command.Keeps.zoom
  exact fun _ _ h => h

theorem finishMoe_at (N : Numerics) (env : Environment ε) (index : Nat) (moe : OwnedMoe)
    (scratch : Hy3BlockScratch) :
    (finishMoe N env model index moe scratch).Keeps (At position) := by
  unfold finishMoe
  refine (Command.Keeps.read _).bind fun session => ?_
  refine Command.Keeps.bind (fun _ h => h) fun _ => ?_
  refine (Command.Keeps.lift _ _).bind fun leases => ?_
  refine Command.Keeps.bind (fun _ h => h) fun _ => ?_
  refine (Command.Keeps.lift _ _).bind fun _ => ?_
  refine (Command.Keeps.lift _ _).bind fun selected => ?_
  refine (Command.Keeps.lift _ _).bind fun shared => ?_
  refine Command.Keeps.bind (Command.Keeps.zoom ?_ _) fun _ => ?_
  · exact fun _ _ h => h
  exact fun _ h => h

theorem evaluateMoe_at (N : Numerics) (env : Environment ε) (index : Nat) (layer : LayerWeights)
    (moe : OwnedMoe) :
    (evaluateMoe N env model index layer moe).Keeps (At position) := by
  unfold evaluateMoe
  refine (Command.Keeps.read _).bind fun session => ?_
  refine (Command.Keeps.lift _ _).bind fun streaming => ?_
  refine (Command.Keeps.lift _ _).bind fun scratch => ?_
  refine Command.Keeps.bind (Command.Keeps.zoom ?_ _) fun _ => ?_
  · exact fun _ _ h => h
  exact finishMoe_at N env index moe scratch

theorem evaluateLayers_at (N : Numerics) (env : Environment ε) (layers : List LayerWeights) :
    ∀ index, (evaluateLayers N env model index layers).Keeps (At position) := by
  induction layers with
  | nil => exact fun _ _ h => h
  | cons layer layers ih =>
      intro index
      unfold evaluateLayers
      refine Command.Keeps.bind ?_ fun _ => ih (index + 1)
      unfold evaluateLayer
      refine (Command.Keeps.lift _ _).bind fun _ => ?_
      cases layer.feedForward with
      | dense expert => exact evaluateDense_at N env index layer expert
      | moe moe => exact evaluateMoe_at N env index layer moe

theorem evaluateInner_position (N : Numerics) (env : Environment ε) (tokenId : Nat)
    (session : Hy3ScalarSession) (logits : List F32) :
    Command.Ends (fun _ state => state.1.position = session.position + 1)
      (fun _ state => state.1.position = session.position)
      (evaluateInner N env model tokenId (session, logits)) := by
  have hlayers : (do
      embedToken N model tokenId
      evaluateLayers N env model 0 model.layers
      normalizeHidden N model : Command Hy3ScalarSession (Hy3ScalarError ε) Unit).Keeps
      (At session.position) := by
    refine (embedToken_at N tokenId).bind fun _ => ?_
    refine (evaluateLayers_at N env model.layers 0).bind fun _ => ?_
    exact normalizeHidden_at N
  unfold evaluateInner
  apply Command.Ends.read_bind
  apply Command.Ends.lift_bind
  · intro _ _
    rfl
  · intro _ _
    apply Command.Ends.bind (Q := fun _ state => state.1.position = session.position)
    · apply Command.Ends.zoom
      exact hlayers.ends rfl
    · intro _ state hposition
      unfold finishToken
      apply Command.Ends.read_bind
      apply Command.Ends.lift_bind
      · intro _ _
        exact hposition
      · intro output _
        apply Command.Ends.bind (Q := fun _ next => next.1.position = session.position)
        · apply Command.Ends.zoom
          exact .of_forall (fun _ _ => hposition) (fun _ _ => hposition) _
        · intro _ next hnext
          exact .answered () _ (congrArg (· + 1) hnext)

theorem rollbackTo_position (position : Nat) (session : Hy3ScalarSession) :
    Command.Ends (fun _ last => last.position = position)
      (fun _ last => last.position = session.position)
      (Hy3ScalarSession.rollbackTo (ε := ε) position session) := by
  unfold Hy3ScalarSession.rollbackTo
  apply Command.Ends.bind (Q := fun _ _ => True)
  · apply Command.Ends.zoom
    exact .of_forall (fun _ _ => trivial) (fun _ _ => rfl) _
  · intro _ next _
    exact .answered () _ rfl

theorem evaluate_position (N : Numerics) (env : Environment ε) (tokenId : Nat)
    (session : Hy3ScalarSession) (logits : List F32) :
    Command.Ends (fun _ state => state.1.position = session.position + 1)
      (fun _ state => state.1.position = session.position)
      (evaluate N env model tokenId (session, logits)) := by
  have hinner : Command.Ends (fun _ state => state.1.position = session.position + 1)
      (fun _ state => state.1.position = session.position)
        (evaluateInner N env model tokenId (session, logits)) :=
    evaluateInner_position N env tokenId session logits
  unfold evaluate
  rcases hrun : evaluateInner N env model tokenId (session, logits) with ⟨r, failed, buffer⟩
  rw [hrun] at hinner
  cases hinner with
  | answered _ _ hposition => exact .answered () _ hposition
  | failed e _ hposition =>
      have hrollback := rollbackTo_position (ε := ε) session.position failed
      dsimp only
      rcases hrolled : Hy3ScalarSession.rollbackTo (ε := ε) session.position failed with ⟨r, last⟩
      rw [hrolled] at hrollback
      cases hrollback with
      | answered _ _ hlast => exact .failed e _ hlast
      | failed rollback _ hlast => exact .failed _ _ (hlast.trans hposition)

end Position
end LightBridge.Hy3

import LightBridge.Foundation.Faltering
import LightBridge.Kernels.Layer

/-! Memory that is granted. A call that answers where the allocator may refuse it something answers
alike where everything is granted. -/
namespace LightBridge
open Foundation

theorem wrap_answersAs {ε ε' α : Type} {wrapper : ε → ε'} {r r' : Except ε α}
    (h : AnswersAs r r') : AnswersAs (wrap wrapper r) (wrap wrapper r') :=
  fun a ha => wrap_eq_ok.mpr (h a (wrap_eq_ok.mp ha))

theorem tryReserve_mono {granted : Bool} {size elements : Nat}
    (h : tryReserve granted size elements = true) : tryReserve true size elements = true :=
  tryReserve_eq_true.mpr ⟨rfl, (tryReserve_eq_true.mp h).2⟩

namespace Kv

theorem zeroedVec_answersAs {α : Type} (granted : Bool) (size : Nat) (zero : α) (elements : Nat)
    (field : String) :
    AnswersAs (zeroedVec granted size zero elements field)
      (zeroedVec true size zero elements field) := by
  intro values h
  unfold zeroedVec at h ⊢
  split at h
  · rename_i hreserved
    rw [if_pos (tryReserve_mono hreserved)]
    exact h
  · cases h

theorem KvPage.new_answersAs (keysGranted valuesGranted : Bool) (config : KvConfig) :
    AnswersAs (KvPage.new keysGranted valuesGranted config) (KvPage.new true true config) := by
  unfold KvPage.new
  refine .bind (.refl _) fun keyElements _ => .bind (.refl _) fun valueElements _ => ?_
  refine .bind (zeroedVec_answersAs _ _ _ _ _) fun keys _ => ?_
  exact .bind (zeroedVec_answersAs _ _ _ _ _) fun values _ => .refl _

namespace PagedKvCache

theorem newLayerPages_answersAs (alloc : Allocator) (config : KvConfig) (pageCount : Nat)
    (eager : Bool) (layer : Nat) :
    AnswersAs (newLayerPages alloc config pageCount eager layer)
      (newLayerPages (fun _ => true) config pageCount eager layer) := by
  intro pages h
  unfold newLayerPages at h ⊢
  split at h
  · rename_i hreserved
    rw [if_pos (tryReserve_mono hreserved)]
    cases eager with
    | false => exact h
    | true =>
        have hpages : AnswersAs
            ((List.range pageCount).mapM fun page => some <$> KvPage.new
              (alloc (.eagerKeys layer page)) (alloc (.eagerValues layer page)) config)
            ((List.range pageCount).mapM fun _ => some <$> KvPage.new true true config) :=
          .mapM fun page _ => (KvPage.new_answersAs _ _ _).map _
        exact hpages pages h
  · cases h

theorem newWithAllocation_answersAs (alloc : Allocator) (config : KvConfig) (eager : Bool) :
    AnswersAs (newWithAllocation alloc config eager)
      (newWithAllocation (fun _ => true) config eager) := by
  unfold newWithAllocation
  cases config.parameters.find? fun parameter => parameter.2 == 0 with
  | some parameter => exact .refl _
  | none =>
      refine .bind (.refl _) fun rounded _ => ?_
      intro cache h
      dsimp only at h ⊢
      split at h
      · rename_i hreserved
        rw [if_pos (tryReserve_mono hreserved)]
        refine AnswersAs.bind (.mapM fun layer _ => ?_) (fun pages _ => ?_) cache h
        · exact newLayerPages_answersAs alloc config _ eager layer
        · exact .bind (zeroedVec_answersAs _ _ _ _ _) fun lengths _ => .refl _
      · cases h

theorem ensurePages_answersAs (alloc : Allocator) (layer start stop : Nat) :
    (ensurePages alloc layer start stop).AnswersAs (ensurePages (fun _ => true) layer start stop) :=
      by
  intro cache u last h
  unfold ensurePages at h ⊢
  dsimp only at h ⊢
  split at h
  · rename_i hnone
    rw [if_pos hnone]
    exact h
  · rename_i hmissing
    rw [if_neg hmissing]
    split at h
    · rename_i hreserved
      rw [if_pos (tryReserve_mono hreserved)]
      cases hbuilt : (cache.missingPages layer (start / cache.pageTokens)
        ((stop - 1) / cache.pageTokens)).mapM fun index =>
          Prod.mk index <$> KvPage.new (alloc (.pageKeys index)) (alloc (.pageValues index))
            cache.toKvConfig with
      | error e =>
          rw [hbuilt] at h
          cases h
      | ok allocated =>
          have hgranted : AnswersAs
              ((cache.missingPages layer (start / cache.pageTokens)
                ((stop - 1) / cache.pageTokens)).mapM fun index =>
                Prod.mk index <$> KvPage.new (alloc (.pageKeys index)) (alloc (.pageValues index))
                  cache.toKvConfig)
              ((cache.missingPages layer (start / cache.pageTokens)
                ((stop - 1) / cache.pageTokens)).mapM fun index =>
                Prod.mk index <$> KvPage.new true true cache.toKvConfig) :=
            .mapM fun index _ => (KvPage.new_answersAs _ _ _).map _
          rw [hbuilt] at h
          rw [hgranted allocated hbuilt]
          exact h
    · cases h

theorem appendTokens_answersAs (alloc : Allocator) (layer tokenCount : Nat)
    (keys values : List F32) :
    (appendTokens alloc layer tokenCount keys values).AnswersAs
      (appendTokens (fun _ => true) layer tokenCount keys values) := by
  unfold appendTokens
  refine .bind (.refl _) fun cache => .bind (.refl _) fun newLength => ?_
  exact .bind (ensurePages_answersAs alloc _ _ _) fun _ => .refl _

end PagedKvCache
end Kv

namespace Kernels
open Kv

theorem attendToken_answersAs (N : Numerics) (alloc : Allocator) (execution : Hy3BlockExecution)
    (attention : Hy3AttentionWeights) (ffnNorm : List F32) :
    (attendToken N alloc execution attention ffnNorm).AnswersAs
      (attendToken N (fun _ => true) execution attention ffnNorm) := by
  unfold attendToken causalGqaAttention
  refine .bind (.refl _) fun state => .bind (.refl _) fun input => ?_
  refine .bind (.zoom ?_) fun context => .refl _
  refine .bind (.refl _) fun cache => .bind (.refl _) fun baseToken => ?_
  refine .bind (.refl _) fun output => .bind (.mapError ?_ _) fun _ => .refl _
  exact PagedKvCache.appendTokens_answersAs alloc _ _ _ _

theorem hy3BlockForwardToken_answersAs (N : Numerics) (alloc : Allocator)
    (execution : Hy3BlockExecution) (block : Hy3BlockWeights) :
    (hy3BlockForwardToken N alloc execution block).AnswersAs
      (hy3BlockForwardToken N (fun _ => true) execution block) := by
  unfold hy3BlockForwardToken
  refine .bind (.refl _) fun state => .bind (.refl _) fun _ => .bind (.refl _) fun _ => ?_
  exact .bind (attendToken_answersAs N alloc _ _ _) fun normalized => .refl _

theorem hy3MoeRouteToken_answersAs (N : Numerics) (alloc : Allocator)
    (execution : Hy3BlockExecution) (block : Hy3StreamingMoeWeights) :
    (hy3MoeRouteToken N alloc execution block).AnswersAs
      (hy3MoeRouteToken N (fun _ => true) execution block) := by
  unfold hy3MoeRouteToken
  refine .bind (.refl _) fun state => .bind (.refl _) fun _ => .bind (.refl _) fun _ => ?_
  refine .bind (.refl _) fun _ => ?_
  exact .bind (attendToken_answersAs N alloc _ _ _) fun normalized => .refl _

namespace Hy3BlockScratch

theorem zeroed_answersAs (granted : String → Bool) (size length : Nat) (context : String) :
    AnswersAs (zeroed granted size length context) (zeroed (fun _ => true) size length context) :=
  .bind (fun _ h => ensure_eq_ok.mpr (tryReserve_mono (ensure_eq_ok.mp h))) fun _ _ => .refl _

theorem allocate_answersAs (granted : String → Bool) (attention : Hy3AttentionWeights)
    (ffnHidden expertCount expertUsedCount routerInput contextCapacity : Nat) :
    AnswersAs
      (allocate granted attention ffnHidden expertCount expertUsedCount routerInput contextCapacity)
      (allocate (fun _ => true) attention ffnHidden expertCount expertUsedCount routerInput
        contextCapacity) := by
  unfold allocate
  iterate 6 refine .bind (.refl _) fun _ _ => ?_
  dsimp only
  split
  all_goals
    refine .bind (.refl _) fun _ _ => ?_
    iterate 18 refine .bind (zeroed_answersAs _ _ _ _) fun _ _ => ?_
    exact .refl _

theorem new_answersAs (granted : String → Bool) (block : Hy3BlockWeights) (contextCapacity : Nat) :
    AnswersAs (new granted block contextCapacity) (new (fun _ => true) block contextCapacity) := by
  unfold new
  refine .bind (.refl _) fun _ _ => ?_
  cases block.feedForward with
  | dense expert => exact allocate_answersAs granted _ _ _ _ _ _
  | moe moe => exact allocate_answersAs granted _ _ _ _ _ _

theorem newStreamingMoe_answersAs (granted : String → Bool) (block : Hy3StreamingMoeWeights)
    (contextCapacity : Nat) :
    AnswersAs (newStreamingMoe granted block contextCapacity)
      (newStreamingMoe (fun _ => true) block contextCapacity) :=
  .bind (.refl _) fun _ _ => allocate_answersAs granted _ _ _ _ _ _

end Hy3BlockScratch
end Kernels
end LightBridge

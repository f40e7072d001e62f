import LightBridge.Foundation.Command

/-! `while` loops that can fail, and the rule for the invariant and the variant that carry them. -/
namespace Foundation
variable {σ ε : Type}

/-- `while guard(s) { s = body(s)?; }`, which looks at its guard `fuel` times at most. It has no
result where it would still go on. -/
def whileLoop (guard : σ → Bool) (body : σ → Except ε σ) : Nat → σ → Option (Except ε σ)
  | 0, _ => none
  | fuel + 1, s =>
      if guard s then
        match body s with
        | .ok next => whileLoop guard body fuel next
        | .error error => some (.error error)
      else some (.ok s)

/-- Every round keeps the invariant and takes something from the variant. -/
structure LoopInvariant (guard : σ → Bool) (body : σ → Except ε σ) (invariant : σ → Prop)
    (variant : σ → Nat) : Prop where
  keeps : ∀ {s next}, invariant s → guard s = true → body s = .ok next → invariant next
  decreases : ∀ {s next}, invariant s → guard s = true → body s = .ok next →
    variant next < variant s

namespace LoopInvariant
variable {guard : σ → Bool} {body : σ → Except ε σ} {invariant : σ → Prop} {variant : σ → Nat}

/-- Enough fuel gives a result. -/
theorem terminates (h : LoopInvariant guard body invariant variant) {s : σ}
    (hs : invariant s) {fuel : Nat}
    (hfuel : variant s < fuel) : ∃ result, whileLoop guard body fuel s = some result := by
  induction fuel generalizing s with
  | zero => exact absurd hfuel (Nat.not_lt_zero _)
  | succ fuel ih =>
      rw [whileLoop]
      by_cases hguard : guard s = true
      · rw [if_pos hguard]
        cases hbody : body s with
        | error error => exact ⟨.error error, rfl⟩
        | ok next =>
            have hless := h.decreases hs hguard hbody
            exact ih (h.keeps hs hguard hbody) (by omega)
      · rw [if_neg hguard]
        exact ⟨.ok s, rfl⟩

/-- A loop whose body does not fail. -/
theorem answers (h : LoopInvariant guard body invariant variant)
    (progress : ∀ {s}, invariant s → guard s = true → ∃ next, body s = .ok next) {s : σ}
    (hs : invariant s) {fuel : Nat}
    (hfuel : variant s < fuel) : ∃ last, whileLoop guard body fuel s = some (.ok last) := by
  induction fuel generalizing s with
  | zero => exact absurd hfuel (Nat.not_lt_zero _)
  | succ fuel ih =>
      rw [whileLoop]
      by_cases hguard : guard s = true
      · obtain ⟨next, hbody⟩ := progress hs hguard
        have hless := h.decreases hs hguard hbody
        rw [if_pos hguard, hbody]
        exact ih (h.keeps hs hguard hbody) (by omega)
      · rw [if_neg hguard]
        exact ⟨s, rfl⟩

/-- Where a loop ends without an error the invariant holds and the guard does not. -/
theorem sound (h : LoopInvariant guard body invariant variant) {s last : σ}
    (hs : invariant s) {fuel : Nat}
    (hrun : whileLoop guard body fuel s = some (.ok last)) :
    invariant last ∧ guard last = false := by
  induction fuel generalizing s with
  | zero => cases hrun
  | succ fuel ih =>
      rw [whileLoop] at hrun
      by_cases hguard : guard s = true
      · rw [if_pos hguard] at hrun
        cases hbody : body s with
        | error error =>
            rw [hbody] at hrun
            cases hrun
        | ok next =>
            rw [hbody] at hrun
            exact ih (h.keeps hs hguard hbody) hrun
      · rw [if_neg hguard] at hrun
        cases hrun
        exact ⟨hs, eq_false_of_ne_true hguard⟩

end LoopInvariant
end Foundation

import LightBridge.Foundation.Ends

/-! Two runs that go together until one of them is left behind. -/
namespace Foundation.Command
variable {σ τ ε α β : Type}

/-- Two runs end alike in states that `Q` relates, or one of them was left behind and `G` relates
their states. -/
inductive Parted (Q G : σ → τ → Prop) : Except ε α × σ → Except ε α × τ → Prop where
  | together (r : Except ε α) (s : σ) (t : τ) (h : Q s t) : Parted Q G (r, s) (r, t)
  | behind (r r' : Except ε α) (s : σ) (t : τ) (h : G s t) : Parted Q G (r, s) (r', t)

namespace Parted
variable {Q G : σ → τ → Prop} {s : σ} {t : τ}

theorem mono {Q' G' : σ → τ → Prop} {x : Except ε α × σ} {y : Except ε α × τ} (h : Parted Q G x y)
    (hQ : ∀ s t, Q s t → Q' s t) (hG : ∀ s t, G s t → G' s t) : Parted Q' G' x y := by
  cases h with
  | together r s t h => exact .together r s t (hQ s t h)
  | behind r r' s t h => exact .behind r r' s t (hG s t h)

/-- Runs that are paired go together. -/
theorem of_paired {x : Except ε α × σ} {y : Except ε α × τ} (h : Paired (fun _ => Q) Q x y) :
    Parted Q G x y := by
  cases h with
  | answered a s t h => exact .together (.ok a) s t h
  | failed e s t h => exact .together (.error e) s t h

/-- Runs that go together go on together. -/
theorem paired_bind {c : Command σ ε α} {d : Command τ ε α} {k : α → Command σ ε β}
    {l : α → Command τ ε β} (h : Paired (fun _ => Q) Q (c s) (d t))
    (hk : ∀ a s' t', Q s' t' → Parted Q G (k a s') (l a t')) :
    Parted Q G ((c >>= k) s) ((d >>= l) t) := by
  rcases hc : c s with ⟨r, s'⟩
  rcases hd : d t with ⟨r', t'⟩
  rw [hc, hd] at h
  cases h with
  | answered a _ _ h =>
      rw [bind_of_ok hc, bind_of_ok hd]
      exact hk a s' t' h
  | failed e _ _ h =>
      rw [bind_of_error hc, bind_of_error hd]
      exact .together (.error e) s' t' h

/-- What is behind stays behind, if neither run changes that. -/
theorem bind {c : Command σ ε α} {d : Command τ ε α} {k : α → Command σ ε β}
    {l : α → Command τ ε β} (h : Parted Q G (c s) (d t))
    (hk : ∀ a s' t', Q s' t' → Parted Q G (k a s') (l a t'))
    (left : ∀ a t', (k a).Keeps fun s' => G s' t') (right : ∀ a s', (l a).Keeps fun t' => G s' t') :
    Parted Q G ((c >>= k) s) ((d >>= l) t) := by
  rcases hc : c s with ⟨r, s'⟩
  rcases hd : d t with ⟨r', t'⟩
  rw [hc, hd] at h
  cases h with
  | together r _ _ h =>
      cases r with
      | ok a =>
          rw [bind_of_ok hc, bind_of_ok hd]
          exact hk a s' t' h
      | error e =>
          rw [bind_of_error hc, bind_of_error hd]
          exact .together (.error e) s' t' h
  | behind r r' _ _ h =>
      have hleft : G ((c >>= k) s).2 t' := by
        cases r with
        | ok a =>
            rw [bind_of_ok hc]
            exact left a t' s' h
        | error e =>
            rw [bind_of_error hc]
            exact h
      have hright : G ((c >>= k) s).2 ((d >>= l) t).2 := by
        cases r' with
        | ok a =>
            rw [bind_of_ok hd]
            exact right a _ t' hleft
        | error e =>
            rw [bind_of_error hd]
            exact hleft
      exact .behind _ _ _ _ hright

theorem read_bind {k : σ → Command σ ε β} {l : τ → Command τ ε β} (h : Parted Q G (k s s) (l t t)) :
    Parted Q G ((Command.read >>= k) s) ((Command.read >>= l) t) := h

theorem lift_bind {r : Except ε α} {k : α → Command σ ε β} {l : α → Command τ ε β} (hQ : Q s t)
    (hk : ∀ a, r = .ok a → Parted Q G (k a s) (l a t)) :
    Parted Q G ((Command.lift r >>= k) s) ((Command.lift r >>= l) t) := by
  cases r with
  | ok a => exact hk a rfl
  | error e => exact .together (.error e) s t hQ

theorem zoom {σ' τ' : Type} {get : σ → σ'} {set : σ' → σ → σ} {get' : τ → τ'} {set' : τ' → τ → τ}
    {c : Command σ' ε α} {d : Command τ' ε α}
    (h : Parted (fun s' t' => Q (set s' s) (set' t' t)) (fun s' t' => G (set s' s) (set' t' t))
      (c (get s)) (d (get' t))) : Parted Q G (c.zoom get set s) (d.zoom get' set' t) := by
  rcases hc : c (get s) with ⟨r, s'⟩
  rcases hd : d (get' t) with ⟨r', t'⟩
  rw [hc, hd] at h
  unfold Command.zoom
  rw [hc, hd]
  cases h with
  | together r _ _ h => exact .together r _ _ h
  | behind r r' _ _ h => exact .behind r r' _ _ h

end Parted
end Foundation.Command

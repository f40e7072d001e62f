import LightBridge.Foundation.Ends

/-! Runs that may be refused something, beside runs that are not: where the first answer, the second
answer alike. -/
namespace Foundation
variable {σ τ ε α β : Type}

/-- The second result answers where the first one does, with the same answer. -/
def AnswersAs (r r' : Except ε α) : Prop := ∀ a, r = .ok a → r' = .ok a

namespace AnswersAs

theorem refl (r : Except ε α) : AnswersAs r r := fun _ h => h

theorem bind {r r' : Except ε α} {k k' : α → Except ε β} (h : AnswersAs r r')
    (hk : ∀ a, r = .ok a → AnswersAs (k a) (k' a)) : AnswersAs (r >>= k) (r' >>= k') := by
  intro b hb
  obtain ⟨a, ha, hb⟩ := except_bind_ok_iff.mp hb
  exact except_bind_ok_iff.mpr ⟨a, h a ha, hk a ha b hb⟩

theorem map {r r' : Except ε α} (h : AnswersAs r r') (f : α → β) :
    AnswersAs (f <$> r) (f <$> r') := by
  intro b hb
  obtain ⟨a, ha, rfl⟩ := except_map_ok_iff.mp hb
  exact except_map_ok_iff.mpr ⟨a, h a ha, rfl⟩

theorem mapM {f f' : α → Except ε β} {xs : List α} (h : ∀ x ∈ xs, AnswersAs (f x) (f' x)) :
    AnswersAs (xs.mapM f) (xs.mapM f') := by
  induction xs with
  | nil => exact .refl _
  | cons x xs ih =>
      rw [List.mapM_cons, List.mapM_cons]
      refine .bind (h x List.mem_cons_self) fun y _ => ?_
      exact .bind (ih fun x' hx' => h x' (List.mem_cons_of_mem x hx')) fun _ _ => .refl _

end AnswersAs

namespace Command

/-- The second command answers where the first one does, and leaves the same state. -/
def AnswersAs (c d : Command σ ε α) : Prop := ∀ s a t, c s = (.ok a, t) → d s = (.ok a, t)

namespace AnswersAs

theorem refl (c : Command σ ε α) : c.AnswersAs c := fun _ _ _ h => h

theorem bind {c d : Command σ ε α} {k l : α → Command σ ε β} (h : c.AnswersAs d)
    (hk : ∀ a, (k a).AnswersAs (l a)) : (c >>= k).AnswersAs (d >>= l) := by
  intro s b t hrun
  obtain ⟨a, s', hc, hrest⟩ := bind_ok_iff.mp hrun
  exact bind_ok_iff.mpr ⟨a, s', h s a s' hc, hk a s' b t hrest⟩

theorem mapError {ε' : Type} {c d : Command σ ε α} (h : c.AnswersAs d) (wrapper : ε → ε') :
    (c.mapError wrapper).AnswersAs (d.mapError wrapper) := by
  intro s a t hrun
  rcases hc : c s with ⟨r, s'⟩
  cases r with
  | ok b =>
      rw [mapError_of_ok hc] at hrun
      rw [mapError_of_ok (h s b s' hc)]
      exact hrun
  | error e =>
      rw [mapError_of_error hc] at hrun
      cases hrun

theorem zoom {get : σ → τ} {set : τ → σ → σ} {c d : Command τ ε α} (h : c.AnswersAs d) :
    (c.zoom get set).AnswersAs (d.zoom get set) := by
  intro s a t hrun
  obtain ⟨ha, hset⟩ := Prod.mk.inj hrun
  have hd := h (get s) a (c (get s)).2 (Prod.ext ha rfl)
  unfold Command.zoom
  rw [hd, hset]

end AnswersAs

/-- The first run answers as the second does, in states that `Q` relates, or it fails, in states
that `G` relates. -/
inductive Falters (Q : α → σ → τ → Prop) (G : σ → τ → Prop) :
    Except ε α × σ → Except ε α × τ → Prop where
  | answered (a : α) (s : σ) (t : τ) (h : Q a s t) : Falters Q G (.ok a, s) (.ok a, t)
  | failed (e : ε) (r : Except ε α) (s : σ) (t : τ) (h : G s t) : Falters Q G (.error e, s) (r, t)

namespace Falters
variable {Q Q' : α → σ → τ → Prop} {R : β → σ → τ → Prop} {G G' : σ → τ → Prop} {s : σ} {t : τ}

theorem mono {x : Except ε α × σ} {y : Except ε α × τ} (h : Falters Q G x y)
    (hQ : ∀ a s t, Q a s t → Q' a s t) (hG : ∀ s t, G s t → G' s t) : Falters Q' G' x y := by
  cases h with
  | answered a s t h => exact .answered a s t (hQ a s t h)
  | failed e r s t h => exact .failed e r s t (hG s t h)

theorem of_paired {E : σ → τ → Prop} {x : Except ε α × σ} {y : Except ε α × τ}
    (h : Paired Q E x y) (hG : ∀ s t, E s t → G s t) : Falters Q G x y := by
  cases h with
  | answered a s t h => exact .answered a s t h
  | failed e s t h => exact .failed e (.error e) s t (hG s t h)

/-- A run that is refused something, beside a pair of runs that are not. -/
theorem of_answersAs {E : σ → τ → Prop} {c d : Command σ ε α} {d' : Command τ ε α}
    (h : c.AnswersAs d) (hd : Paired Q E (d s) (d' t)) (hG : ∀ s t, G s t) :
    Falters Q G (c s) (d' t) := by
  rcases hc : c s with ⟨r, s'⟩
  cases r with
  | error e => exact .failed e _ s' _ (hG _ _)
  | ok a =>
      rw [h s a s' hc] at hd
      generalize d' t = y at hd ⊢
      cases hd with
      | answered _ _ t' hQ => exact .answered a s' t' hQ

/-- What the second run goes on to do after the first one failed must keep `G`. -/
theorem bind {c : Command σ ε α} {d : Command τ ε α} {k : α → Command σ ε β}
    {l : α → Command τ ε β} (h : Falters Q G (c s) (d t))
    (hk : ∀ a s' t', Q a s' t' → Falters R G (k a s') (l a t'))
    (keeps : ∀ a s', (l a).Keeps (G s')) : Falters R G ((c >>= k) s) ((d >>= l) t) := by
  rcases hc : c s with ⟨r, s'⟩
  rcases hd : d t with ⟨r', t'⟩
  rw [hc, hd] at h
  cases h with
  | answered a _ _ h =>
      rw [bind_of_ok hc, bind_of_ok hd]
      exact hk a s' t' h
  | failed e _ _ _ h =>
      rw [bind_of_error hc]
      cases r' with
      | ok a =>
          rw [bind_of_ok hd]
          exact .failed e _ s' _ (keeps a s' t' h)
      | error e' =>
          rw [bind_of_error hd]
          exact .failed e _ s' t' h

theorem read_bind {k : σ → Command σ ε β} {l : τ → Command τ ε β}
    (h : Falters R G (k s s) (l t t)) :
    Falters R G ((Command.read >>= k) s) ((Command.read >>= l) t) := h

/-- A check that the second run passes where the first one does. -/
theorem lift_bind {r r' : Except ε α} {k : α → Command σ ε β} {l : α → Command τ ε β}
    (h : Foundation.AnswersAs r r') (hG : G s t)
    (hk : ∀ a, r = .ok a → Falters R G (k a s) (l a t)) (keeps : ∀ a, (l a).Keeps (G s)) :
    Falters R G ((Command.lift r >>= k) s) ((Command.lift r' >>= l) t) := by
  cases r with
  | ok a =>
      rw [h a rfl]
      exact hk a rfl
  | error e =>
      cases r' with
      | ok a => exact .failed e _ s _ (keeps a t hG)
      | error e' => exact .failed e _ s t hG

/-- The same check in both runs. -/
theorem check_bind {r : Except ε α} {k : α → Command σ ε β} {l : α → Command τ ε β} (hG : G s t)
    (hk : ∀ a, r = .ok a → Falters R G (k a s) (l a t)) :
    Falters R G ((Command.lift r >>= k) s) ((Command.lift r >>= l) t) := by
  cases r with
  | ok a => exact hk a rfl
  | error e => exact .failed e (.error e) s t hG

theorem mapError {ε' : Type} {wrapper : ε → ε'} {c : Command σ ε α} {d : Command τ ε α}
    (h : Falters Q G (c s) (d t)) : Falters Q G (c.mapError wrapper s) (d.mapError wrapper t) := by
  rcases hc : c s with ⟨r, s'⟩
  rcases hd : d t with ⟨r', t'⟩
  rw [hc, hd] at h
  unfold Command.mapError
  rw [hc, hd]
  cases h with
  | answered a _ _ h => exact .answered a s' t' h
  | failed e _ _ _ h =>
      cases r' with
      | ok a => exact .failed (wrapper e) (.ok a) s' t' h
      | error e' => exact .failed (wrapper e) (.error (wrapper e')) s' t' h

theorem zoom {σ' τ' : Type} {get : σ → σ'} {set : σ' → σ → σ} {get' : τ → τ'} {set' : τ' → τ → τ}
    {c : Command σ' ε α} {d : Command τ' ε α}
    (h : Falters (fun a s' t' => Q a (set s' s) (set' t' t))
      (fun s' t' => G (set s' s) (set' t' t)) (c (get s)) (d (get' t))) :
    Falters Q G (c.zoom get set s) (d.zoom get' set' t) := by
  rcases hc : c (get s) with ⟨r, s'⟩
  rcases hd : d (get' t) with ⟨r', t'⟩
  rw [hc, hd] at h
  unfold Command.zoom
  rw [hc, hd]
  cases h with
  | answered a _ _ h => exact .answered a _ _ h
  | failed e _ _ _ h => exact .failed e _ _ _ h

end Falters
end Command
end Foundation

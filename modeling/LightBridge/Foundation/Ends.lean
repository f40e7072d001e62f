import LightBridge.Foundation.Command

/-! How runs of commands end: one run against its conditions, and two runs side by side. -/
namespace Foundation
namespace Command
variable {σ τ ε α β : Type}

/-- A run ends in `Q` with its answer or in `E` with its error. -/
inductive Ends (Q : α → σ → Prop) (E : ε → σ → Prop) : Except ε α × σ → Prop where
  | answered (a : α) (s : σ) (h : Q a s) : Ends Q E (.ok a, s)
  | failed (e : ε) (s : σ) (h : E e s) : Ends Q E (.error e, s)

namespace Ends
variable {Q Q' : α → σ → Prop} {R : β → σ → Prop} {E E' : ε → σ → Prop} {s : σ}

theorem mono {x : Except ε α × σ} (h : Ends Q E x) (hQ : ∀ a s, Q a s → Q' a s)
    (hE : ∀ e s, E e s → E' e s) :
    Ends Q' E' x := by
  cases h with
  | answered a s h => exact .answered a s (hQ a s h)
  | failed e s h => exact .failed e s (hE e s h)

theorem and {x : Except ε α × σ} (h : Ends Q E x) (h' : Ends Q' E' x) :
    Ends (fun a s => Q a s ∧ Q' a s) (fun e s => E e s ∧ E' e s) x := by
  cases h with
  | answered a s h =>
      cases h' with
      | answered _ _ h' => exact .answered a s ⟨h, h'⟩
  | failed e s h =>
      cases h' with
      | failed _ _ h' => exact .failed e s ⟨h, h'⟩

theorem bind {c : Command σ ε α} {k : α → Command σ ε β} (h : Ends Q E (c s))
    (hk : ∀ a s', Q a s' → Ends R E (k a s')) : Ends R E ((c >>= k) s) := by
  rcases hrun : c s with ⟨r, s'⟩
  rw [hrun] at h
  cases h with
  | answered a _ h =>
      rw [bind_of_ok hrun]
      exact hk a s' h
  | failed e _ h =>
      rw [bind_of_error hrun]
      exact .failed e s' h

theorem lift {r : Except ε α} (hQ : ∀ a, r = .ok a → Q a s) (hE : ∀ e, r = .error e → E e s) :
    Ends Q E ((Command.lift r : Command σ ε α) s) := by
  cases r with
  | ok a => exact .answered a s (hQ a rfl)
  | error e => exact .failed e s (hE e rfl)

theorem read_bind {k : σ → Command σ ε β} (h : Ends R E (k s s)) :
    Ends R E ((Command.read >>= k) s) := h

/-- A check in front of a command. -/
theorem lift_bind {r : Except ε α} {k : α → Command σ ε β} (hE : ∀ e, r = .error e → E e s)
    (hk : ∀ a, r = .ok a → Ends R E (k a s)) : Ends R E ((Command.lift r >>= k) s) := by
  cases r with
  | ok a => exact hk a rfl
  | error e => exact .failed e s (hE e rfl)

theorem mapError {ε' : Type} {wrapper : ε → ε'} {F : ε' → σ → Prop} {c : Command σ ε α}
    (h : Ends Q (fun e s => F (wrapper e) s) (c s)) : Ends Q F (c.mapError wrapper s) := by
  rcases hrun : c s with ⟨r, s'⟩
  rw [hrun] at h
  unfold Command.mapError
  rw [hrun]
  cases h with
  | answered a _ h => exact .answered a s' h
  | failed e _ h => exact .failed (wrapper e) s' h

theorem zoom {get : σ → τ} {set : τ → σ → σ} {c : Command τ ε α}
    (h : Ends (fun a t => Q a (set t s)) (fun e t => E e (set t s)) (c (get s))) :
    Ends Q E (c.zoom get set s) := by
  rcases hrun : c (get s) with ⟨r, t⟩
  rw [hrun] at h
  unfold Command.zoom
  rw [hrun]
  cases h with
  | answered a _ h => exact .answered a _ h
  | failed e _ h => exact .failed e _ h

theorem of_ok {a : α} {s' : σ} {x : Except ε α × σ} (h : Ends Q E x)
    (hx : x = (.ok a, s')) : Q a s' := by
  cases h with
  | answered b t h =>
      cases hx
      exact h
  | failed e t h => cases hx

theorem of_error {e : ε} {s' : σ} {x : Except ε α × σ} (h : Ends Q E x)
    (hx : x = (.error e, s')) : E e s' := by
  cases h with
  | answered b t h => cases hx
  | failed f t h =>
      cases hx
      exact h

theorem of_forall (hQ : ∀ a s, Q a s) (hE : ∀ e s, E e s) (x : Except ε α × σ) : Ends Q E x := by
  rcases x with ⟨r, s⟩
  cases r with
  | ok a => exact .answered a s (hQ a s)
  | error e => exact .failed e s (hE e s)

/-- What holds however the run ends. -/
theorem last {I : σ → Prop} {x : Except ε α × σ} (h : Ends (fun _ => I) (fun _ => I) x) :
    I x.2 := by
  cases h with
  | answered a s h => exact h
  | failed e s h => exact h

/-- A counted loop that computes `f` and keeps what it has computed in its state: it ends as the
traversal does. -/
theorem loop {body : Nat → Command σ ε Unit} {f : Nat → Except ε β} {I : List β → σ → Prop}
    {F : σ → Prop} {n : Nat}
    (step : ∀ done s, I done s → done.length < n →
      Ends (fun _ s' => ∃ b, f done.length = .ok b ∧ I (done ++ [b]) s')
        (fun e s' => f done.length = .error e ∧ F s') (body done.length s))
    (h : I [] s) :
    Ends (fun _ s' => ∃ made, (List.range n).mapM f = .ok made ∧ I made s')
      (fun e s' => (List.range n).mapM f = .error e ∧ F s') (Command.loop body 0 n s) := by
  have hfrom : ∀ count (done : List β) s, I done s → done.length + count = n →
      Ends (fun _ s' => ∃ made, (List.range' done.length count).mapM f = .ok made ∧
        I (done ++ made) s')
        (fun e s' => (List.range' done.length count).mapM f = .error e ∧ F s')
        (Command.loop body done.length count s) := by
    intro count
    induction count with
    | zero => exact fun done s h _ => .answered () s ⟨[], rfl, by rwa [List.append_nil]⟩
    | succ count ih =>
        intro done s h hcount
        rw [Command.loop, List.range'_succ, List.mapM_cons]
        refine ((step done s h (by omega)).mono (fun _ _ h => h) ?_).bind ?_
        · rintro e s' ⟨he, hE⟩
          exact ⟨by rw [he]; rfl, hE⟩
        · rintro _ s' ⟨b, hb, hI⟩
          have hlength : (done ++ [b]).length = done.length + 1 := List.length_append
          have hrest := ih (done ++ [b]) s' hI (by omega)
          rw [hlength] at hrest
          rw [hb]
          refine hrest.mono ?_ ?_
          · rintro _ t ⟨made, hmade, hI⟩
            exact ⟨b :: made, by rw [except_ok_bind, hmade]; rfl, by rwa [List.append_assoc] at hI⟩
          · rintro e t ⟨he, hE⟩
            exact ⟨by rw [except_ok_bind, he]; rfl, hE⟩
  rw [List.range_eq_range']
  exact hfrom n [] s h (Nat.zero_add n)

end Ends

theorem Keeps.ends {c : Command σ ε α} {I : σ → Prop} (h : c.Keeps I) {s : σ} (hs : I s) :
    Ends (fun _ => I) (fun _ => I) (c s) := by
  have hI := h s hs
  rcases hrun : c s with ⟨r, s'⟩
  rw [hrun] at hI
  cases r with
  | ok a => exact .answered a s' hI
  | error e => exact .failed e s' hI

/-- Two runs end with one answer or one error, and their states are related. -/
inductive Paired {τ : Type} (Q : α → σ → τ → Prop) (E : σ → τ → Prop) :
    Except ε α × σ → Except ε α × τ → Prop where
  | answered (a : α) (s : σ) (t : τ) (h : Q a s t) : Paired Q E (.ok a, s) (.ok a, t)
  | failed (e : ε) (s : σ) (t : τ) (h : E s t) : Paired Q E (.error e, s) (.error e, t)

namespace Paired
variable {Q Q' : α → σ → τ → Prop} {R : β → σ → τ → Prop} {E E' : σ → τ → Prop} {s : σ} {t : τ}

theorem bind {c : Command σ ε α} {d : Command τ ε α} {k : α → Command σ ε β} {l : α → Command τ ε β}
    (h : Paired Q E (c s) (d t)) (hk : ∀ a s' t', Q a s' t' → Paired R E (k a s') (l a t')) :
    Paired R E ((c >>= k) s) ((d >>= l) t) := by
  rcases hc : c s with ⟨r, s'⟩
  rcases hd : d t with ⟨r', t'⟩
  rw [hc, hd] at h
  cases h with
  | answered a _ _ h =>
      rw [bind_of_ok hc, bind_of_ok hd]
      exact hk a s' t' h
  | failed e _ _ h =>
      rw [bind_of_error hc, bind_of_error hd]
      exact .failed e s' t' h

theorem read_bind {k : σ → Command σ ε β} {l : τ → Command τ ε β} (h : Paired R E (k s s) (l t t)) :
    Paired R E ((Command.read >>= k) s) ((Command.read >>= l) t) := h

theorem lift_bind {r r' : Except ε α} {k : α → Command σ ε β} {l : α → Command τ ε β}
    (same : r = r') (hE : E s t) (hk : ∀ a, r = .ok a → Paired R E (k a s) (l a t)) :
    Paired R E ((Command.lift r >>= k) s) ((Command.lift r' >>= l) t) := by
  subst same
  cases r with
  | ok a => exact hk a rfl
  | error e => exact .failed e s t hE

theorem lift {r r' : Except ε α} (same : r = r') (hE : E s t) (hQ : ∀ a, r = .ok a → Q a s t) :
    Paired Q E ((Command.lift r : Command σ ε α) s) ((Command.lift r' : Command τ ε α) t) := by
  subst same
  cases r with
  | ok a => exact .answered a s t (hQ a rfl)
  | error e => exact .failed e s t hE

theorem mono {x : Except ε α × σ} {y : Except ε α × τ} (h : Paired Q E x y)
    (hQ : ∀ a s t, Q a s t → Q' a s t)
    (hE : ∀ s t, E s t → E' s t) : Paired Q' E' x y := by
  cases h with
  | answered a s t h => exact .answered a s t (hQ a s t h)
  | failed e s t h => exact .failed e s t (hE s t h)

/-- What is known of the first run alone. -/
theorem and_left {Q₁ : α → σ → Prop} {E₁ : ε → σ → Prop} {x : Except ε α × σ} {y : Except ε α × τ}
    (h : Paired Q E x y) (hx : Ends Q₁ E₁ x) : Paired (fun a s t => Q a s t ∧ Q₁ a s) E x y := by
  cases h with
  | answered a s t h => exact .answered a s t ⟨h, hx.of_ok rfl⟩
  | failed e s t h => exact .failed e s t h

theorem mapError {ε' : Type} {wrapper : ε → ε'} {c : Command σ ε α} {d : Command τ ε α}
    (h : Paired Q E (c s) (d t)) : Paired Q E (c.mapError wrapper s) (d.mapError wrapper t) := by
  rcases hc : c s with ⟨r, s'⟩
  rcases hd : d t with ⟨r', t'⟩
  rw [hc, hd] at h
  unfold Command.mapError
  rw [hc, hd]
  cases h with
  | answered a _ _ h => exact .answered a s' t' h
  | failed e _ _ h => exact .failed (wrapper e) s' t' h

theorem zoom {σ' τ' : Type} {get : σ → σ'} {set : σ' → σ → σ} {get' : τ → τ'} {set' : τ' → τ → τ}
    {c : Command σ' ε α} {d : Command τ' ε α}
    (h : Paired (fun a s' t' => Q a (set s' s) (set' t' t)) (fun s' t' => E (set s' s) (set' t' t))
      (c (get s)) (d (get' t))) : Paired Q E (c.zoom get set s) (d.zoom get' set' t) := by
  rcases hc : c (get s) with ⟨r, s'⟩
  rcases hd : d (get' t) with ⟨r', t'⟩
  rw [hc, hd] at h
  unfold Command.zoom
  rw [hc, hd]
  cases h with
  | answered a _ _ h => exact .answered a _ _ h
  | failed e _ _ h => exact .failed e _ _ h

end Paired

/-- A run computes `r`: it ends in the state that `r` answers, or with the error of `r`. -/
def Computes (r : Except ε σ) (x : Except ε Unit × σ) : Prop :=
  Ends (fun _ s' => r = .ok s') (fun e _ => r = .error e) x

namespace Computes
variable {r : Except ε σ} {f : σ → Except ε σ} {s : σ}

theorem of_ok {s' : σ} {x : Except ε Unit × σ} (h : Computes r x) (hx : x = (.ok (), s')) :
    r = .ok s' := by
  cases h with
  | answered _ _ h =>
      cases hx
      exact h
  | failed _ _ h => cases hx

theorem of_error {e : ε} {s' : σ} {x : Except ε Unit × σ} (h : Computes r x)
    (hx : x = (.error e, s')) : r = .error e := by
  cases h with
  | answered _ _ h => cases hx
  | failed _ _ h =>
      cases hx
      exact h

theorem read_bind {k : σ → Command σ ε Unit} (h : Computes r (k s s)) :
    Computes r ((Command.read >>= k) s) := h

theorem lift_bind {check : Except ε α} {g : α → Except ε σ} {k : α → Command σ ε Unit}
    (h : ∀ a, check = .ok a → Computes (g a) (k a s)) :
    Computes (check >>= g) ((Command.lift check >>= k) s) := by
  cases check with
  | ok a => exact h a rfl
  | error e => exact .failed e s rfl

theorem bind {c : Command σ ε Unit} {k : Unit → Command σ ε Unit} (h : Computes r (c s))
    (hk : ∀ s', r = .ok s' → Computes (f s') (k () s')) : Computes (r >>= f) ((c >>= k) s) := by
  rcases hrun : c s with ⟨ended, s'⟩
  cases ended with
  | ok u =>
      have hr : r = .ok s' := h.of_ok hrun
      rw [bind_of_ok hrun, hr]
      exact hk s' hr
  | error e =>
      have hr : r = .error e := h.of_error hrun
      rw [bind_of_error hrun, hr]
      exact .failed e s' rfl

end Computes
end Command
end Foundation

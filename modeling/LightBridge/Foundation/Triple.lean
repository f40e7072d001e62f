import LightBridge.Foundation.Command

/-! Pre- and postconditions of commands, and commands that differ in how early they fail. -/
namespace Foundation.Command
variable {σ ε α β : Type}

/-- From a state in `P` the command ends in `Q` where it answers, and in `E` where it fails. -/
structure Triple (P : σ → Prop) (c : Command σ ε α) (Q : α → σ → Prop)
    (E : ε → σ → Prop) : Prop where
  answers : ∀ {s a t}, P s → c s = (.ok a, t) → Q a t
  fails : ∀ {s e t}, P s → c s = (.error e, t) → E e t

/-- The command leaves the state as it is. -/
def Looks (c : Command σ ε α) : Prop := ∀ s, (c s).2 = s

theorem Looks.run {c : Command σ ε α} (h : c.Looks) {s t : σ} {r : Except ε α}
    (hrun : c s = (r, t)) : t = s := by
  rw [← h s, hrun]

theorem Looks.lift (r : Except ε α) : (lift r : Command σ ε α).Looks := fun _ => rfl

theorem Looks.read_bind {k : σ → Command σ ε α} (h : ∀ s, (k s).Looks) :
    (Command.read >>= k).Looks := fun s => h s s

theorem Looks.bind {c : Command σ ε α} {k : α → Command σ ε β} (hc : c.Looks)
    (hk : ∀ a, (k a).Looks) : (c >>= k).Looks := by
  intro s
  rcases hrun : c s with ⟨r, t⟩
  obtain rfl := hc.run hrun
  cases r with
  | ok a =>
      rw [bind_of_ok hrun]
      exact hk a t
  | error e => rw [bind_of_error hrun]

namespace Triple
variable {P : σ → Prop} {Q : α → σ → Prop} {R : β → σ → Prop} {E : ε → σ → Prop}

theorem weaken {P' : σ → Prop} {Q' : α → σ → Prop} {E' : ε → σ → Prop} {c : Command σ ε α}
    (h : Triple P c Q E) (hP : ∀ s, P' s → P s) (hQ : ∀ a s, Q a s → Q' a s)
    (hE : ∀ e s, E e s → E' e s) : Triple P' c Q' E' where
  answers hs hrun := hQ _ _ (h.answers (hP _ hs) hrun)
  fails hs hrun := hE _ _ (h.fails (hP _ hs) hrun)

theorem bind {c : Command σ ε α} {k : α → Command σ ε β} (hc : Triple P c Q E)
    (hk : ∀ a, Triple (Q a) (k a) R E) :
    Triple P (c >>= k) R E where
  answers hs hrun := by
    obtain ⟨a, m, hfirst, hrest⟩ := bind_ok_iff.mp hrun
    exact (hk a).answers (hc.answers hs hfirst) hrest
  fails hs hrun := by
    rcases bind_error_iff.mp hrun with hfirst | ⟨a, m, hfirst, hrest⟩
    · exact hc.fails hs hfirst
    · exact (hk a).fails (hc.answers hs hfirst) hrest

/-- A command that leaves the state as it is. -/
theorem looks {c : Command σ ε α} (h : c.Looks) (hE : ∀ e s, P s → E e s) :
    Triple P c (fun _ => P) E where
  answers hs hrun := by
    rw [h.run hrun]
    exact hs
  fails hs hrun := by
    rw [h.run hrun]
    exact hE _ _ hs

/-- A check that looks at no state. -/
theorem lift {r : Except ε α} (hQ : ∀ a s, P s → r = .ok a → Q a s)
    (hE : ∀ e s, P s → r = .error e → E e s) :
    Triple P (lift r) Q E where
  answers hs hrun := by
    obtain ⟨hr, rfl⟩ := Prod.mk.inj hrun
    exact hQ _ _ hs hr
  fails hs hrun := by
    obtain ⟨hr, rfl⟩ := Prod.mk.inj hrun
    exact hE _ _ hs hr

theorem pure {a : α} (h : ∀ s, P s → Q a s) : Triple P (pure a : Command σ ε α) Q E where
  answers hs hrun := by
    cases hrun
    exact h _ hs
  fails _ hrun := by cases hrun

theorem update {Q : Unit → σ → Prop} {f : σ → σ} (h : ∀ s, P s → Q () (f s)) :
    Triple P (update f : Command σ ε Unit) Q E where
  answers hs hrun := by
    cases hrun
    exact h _ hs
  fails _ hrun := by cases hrun

/-- A command that looks at the state that it starts in. -/
theorem read_bind {k : σ → Command σ ε α} (h : ∀ s, P s → Triple (· = s) (k s) Q E) :
    Triple P (Command.read >>= k) Q E where
  answers hs hrun := (h _ hs).answers rfl hrun
  fails hs hrun := (h _ hs).fails rfl hrun

theorem both {P' : σ → Prop} {Q' : α → σ → Prop} {E' : ε → σ → Prop} {c : Command σ ε α}
    (h : Triple P c Q E) (h' : Triple P' c Q' E') :
    Triple (fun s => P s ∧ P' s) c (fun a s => Q a s ∧ Q' a s) fun e s => E e s ∧ E' e s where
  answers hs hrun := ⟨h.answers hs.1 hrun, h'.answers hs.2 hrun⟩
  fails hs hrun := ⟨h.fails hs.1 hrun, h'.fails hs.2 hrun⟩

/-- Values that are collected one by one, each of which keeps the precondition. -/
theorem collect {I : σ → Prop} {body : Nat → Command σ ε α}
    (h : ∀ i, Triple I (body i) (fun _ => I) E) (i n : Nat) :
    Triple I (collect body i n) (fun _ => I) E := by
  induction n generalizing i with
  | zero => exact pure fun _ hs => hs
  | succ n ih => exact (h i).bind fun a => (ih (i + 1)).bind fun as => pure fun _ hs => hs

end Triple

/-- From states in `P` the commands do the same, or both fail and the first one has not come
further. -/
def StopsEarlier (le : σ → σ → Prop) (P : σ → Prop) (c d : Command σ ε α) : Prop :=
  ∀ s, P s → c s = d s ∨ ∃ e e' t t', c s = (.error e, t) ∧ d s = (.error e', t') ∧ le t t'

namespace StopsEarlier
variable {le : σ → σ → Prop} {P : σ → Prop}

theorem refl (c : Command σ ε α) : StopsEarlier le P c c := fun _ _ => .inl rfl

theorem bind {c d : Command σ ε α} {k l : α → Command σ ε β} {Q : α → σ → Prop} {E : ε → σ → Prop}
    (h : StopsEarlier le P c d) (hc : Triple P c Q E)
    (hk : ∀ a, StopsEarlier le (Q a) (k a) (l a)) :
    StopsEarlier le P (c >>= k) (d >>= l) := by
  intro s hs
  rcases h s hs with hsame | ⟨e, e', t, t', hfirst, hsecond, hle⟩
  · rcases hrun : c s with ⟨r, m⟩
    have hother : d s = (r, m) := hsame ▸ hrun
    cases r with
    | ok a =>
        rw [bind_of_ok hrun, bind_of_ok hother]
        exact hk a m (hc.answers hs hrun)
    | error e =>
        rw [bind_of_error hrun, bind_of_error hother]
        exact .inl rfl
  · exact .inr ⟨e, e', t, t', bind_of_error hfirst, bind_of_error hsecond, hle⟩

/-- They answer alike. -/
theorem answers_iff {c d : Command σ ε α} (h : StopsEarlier le P c d) {s t : σ} {a : α} (hs : P s) :
    c s = (.ok a, t) ↔ d s = (.ok a, t) := by
  rcases h s hs with hsame | ⟨e, e', m, m', hfirst, hsecond, -⟩
  · rw [hsame]
  · rw [hfirst, hsecond]
    exact ⟨nofun, nofun⟩

end StopsEarlier
end Foundation.Command

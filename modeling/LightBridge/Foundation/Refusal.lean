import LightBridge.Foundation.Command

/-! Two runs of one computation that differ in what the allocator grants: where the first
answers, the second answers the same or is refused. -/
namespace Foundation
variable {σ ε ε' α β : Type}

def Regranted (Refused : ε → Prop) (r r' : Except ε α) : Prop :=
  ∀ a, r = .ok a → r' = .ok a ∨ ∃ e, r' = .error e ∧ Refused e

namespace Regranted
variable {Refused : ε → Prop} {Refused' : ε' → Prop}

theorem refl (r : Except ε α) : Regranted Refused r r := fun _ h => Or.inl h

/-- A check that only a refusal fails differently. -/
theorem of_failsIn {r : Except ε Unit} (r' : Except ε Unit) (h : FailsIn r' Refused) :
    Regranted Refused r r' := by
  intro _ _
  cases hr : r' with
  | ok _ => exact Or.inl rfl
  | error e => exact Or.inr ⟨e, rfl, h e hr⟩

theorem bind {r r' : Except ε α} {k k' : α → Except ε β} (h : Regranted Refused r r')
    (hk : ∀ a, r = .ok a → Regranted Refused (k a) (k' a)) :
    Regranted Refused (r >>= k) (r' >>= k') := by
  intro b hb
  obtain ⟨a, ha, hb⟩ := except_bind_ok_iff.mp hb
  rcases h a ha with hr' | ⟨e, hr', he⟩
  · rw [hr', except_ok_bind]
    exact hk a ha b hb
  · rw [hr', except_error_bind]
    exact Or.inr ⟨e, rfl, he⟩

theorem map {r r' : Except ε α} (f : α → β) (h : Regranted Refused r r') :
    Regranted Refused (f <$> r) (f <$> r') := by
  intro b hb
  obtain ⟨a, ha, rfl⟩ := except_map_ok_iff.mp hb
  rcases h a ha with hr' | ⟨e, hr', he⟩
  · rw [hr']
    exact Or.inl rfl
  · rw [hr']
    exact Or.inr ⟨e, rfl, he⟩

theorem mapM {f f' : α → Except ε β} (h : ∀ x, Regranted Refused (f x) (f' x)) (xs : List α) :
    Regranted Refused (xs.mapM f) (xs.mapM f') := by
  induction xs with
  | nil => exact refl _
  | cons x xs ih =>
      rw [List.mapM_cons, List.mapM_cons]
      apply (h x).bind
      intro _ _
      apply ih.bind
      intro _ _
      exact refl _

end Regranted

namespace Command

/-- The same of commands, which also leave the same state where both answer. -/
def Regranted (Refused : ε → Prop) (c c' : Command σ ε α) : Prop :=
  ∀ s a t, c s = (.ok a, t) → c' s = (.ok a, t) ∨ ∃ e t', c' s = (.error e, t') ∧ Refused e

namespace Regranted
variable {Refused : ε → Prop}

theorem refl (c : Command σ ε α) : Regranted Refused c c := fun _ _ _ h => Or.inl h

theorem lift {r r' : Except ε α} (h : Foundation.Regranted Refused r r') :
    Regranted Refused (Command.lift r : Command σ ε α) (Command.lift r') := by
  intro s a t hrun
  obtain ⟨hr, rfl⟩ := Prod.mk.inj hrun
  rcases h a hr with hr' | ⟨e, hr', he⟩
  · exact Or.inl (Prod.ext hr' rfl)
  · exact Or.inr ⟨e, s, Prod.ext hr' rfl, he⟩

theorem bind {c c' : Command σ ε α} {k k' : α → Command σ ε β} (h : Regranted Refused c c')
    (hk : ∀ a, Regranted Refused (k a) (k' a)) : Regranted Refused (c >>= k) (c' >>= k') := by
  intro s b t hrun
  obtain ⟨a, s', hc, hrest⟩ := Command.bind_ok_iff.mp hrun
  rcases h s a s' hc with hc' | ⟨e, t', hc', he⟩
  · rw [Command.bind_of_ok hc']
    exact hk a s' b t hrest
  · rw [Command.bind_of_error hc']
    exact Or.inr ⟨e, t', rfl, he⟩

/-- What a run answers, less its last state. -/
theorem answer {c c' : Command σ ε α} (h : Regranted Refused c c') (s : σ) :
    Foundation.Regranted Refused (c s).1 (c' s).1 := by
  intro a ha
  rcases h s a (c s).2 (Prod.ext ha rfl) with hc' | ⟨e, t', hc', he⟩
  · rw [hc']
    exact Or.inl rfl
  · rw [hc']
    exact Or.inr ⟨e, rfl, he⟩

end Regranted
end Command
end Foundation

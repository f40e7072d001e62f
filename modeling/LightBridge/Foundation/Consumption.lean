import LightBridge.Foundation.Triple

/-! Readers of a state that is used up. What a reader takes is a label; the labels of a run are
joined in its order. -/
namespace Foundation

/-- How a state goes on when a label is taken from it. -/
structure Consumption (σ μ : Type) where
  Fits : σ → Prop
  Can : σ → μ → Prop
  Takes : σ → μ → σ → Prop
  empty : μ
  append : μ → μ → μ
  takes_empty : ∀ {s}, Fits s → Takes s empty s
  takes_append : ∀ {s m t x y}, Takes s x m → Takes m y t → Takes s (append x y) t
  can_left : ∀ {s x y}, Fits s → Can s (append x y) → Can s x
  can_right : ∀ {s m x y}, Can s (append x y) → Takes s x m → Can m y
  fits : ∀ {s t x}, Fits s → Takes s x t → Fits t
  empty_append : ∀ x, append empty x = x
  append_empty : ∀ x, append x empty = x

/-- The values a command answers are those `R` relates to what it takes. Where the machine refuses
nothing (`willing`), it answers all of them. -/
structure Reads {σ μ ε α : Type} (T : Consumption σ μ) (willing : Prop) (p : Command σ ε α)
    (R : α → μ → Prop) : Prop where
  sound : ∀ {s t a}, T.Fits s → p s = (.ok a, t) → ∃ x, R a x ∧ T.Takes s x t
  complete : ∀ {s a x}, willing → T.Fits s → R a x → T.Can s x → ∃ t, p s = (.ok a, t) ∧
    T.Takes s x t

namespace Reads
variable {σ μ ε α β : Type} {T : Consumption σ μ} {willing : Prop}

theorem congr {p : Command σ ε α} {R R' : α → μ → Prop} (h : Reads T willing p R)
    (hR : ∀ a x, R a x ↔ R' a x) :
    Reads T willing p R' where
  sound hfits hrun := by
    obtain ⟨x, hx, htakes⟩ := h.sound hfits hrun
    exact ⟨x, (hR _ _).mp hx, htakes⟩
  complete hwilling hfits hx hcan := h.complete hwilling hfits ((hR _ _).mpr hx) hcan

/-- A check: it takes nothing and leaves the state as it is. -/
theorem looks {c : Command σ ε α} {Q : α → Prop} (hlooks : c.Looks)
    (hsound : ∀ {s a t}, T.Fits s → c s = (.ok a, t) → Q a)
    (hcomplete : ∀ {s a}, willing → T.Fits s → Q a → (c s).1 = .ok a) :
    Reads T willing c fun a x => Q a ∧ x = T.empty where
  sound hfits hrun := by
    refine ⟨T.empty, ⟨hsound hfits hrun, rfl⟩, ?_⟩
    rw [hlooks.run hrun]
    exact T.takes_empty hfits
  complete {s a x} hwilling hfits hx _ := by
    obtain ⟨hQ, rfl⟩ := hx
    exact ⟨s, Prod.ext (hcomplete hwilling hfits hQ) (hlooks s), T.takes_empty hfits⟩

theorem lift (r : Except ε α) : Reads T willing (Command.lift r) fun a x => r = .ok a ∧
      x = T.empty :=
  looks (.lift r) (fun _ hrun => (Prod.mk.inj hrun).1) fun _ _ h => h

theorem pure (a : α) : Reads T willing (pure a : Command σ ε α) fun b x => b = a ∧ x = T.empty :=
  (lift (.ok a)).congr fun b x => by rw [Except.ok.injEq, eq_comm (a := a)]

/-- A reader that looks at the state it starts in. -/
theorem read_bind {k : σ → Command σ ε α} {R : α → μ → Prop}
    (h : ∀ s, T.Fits s → Reads T willing (k s) R) :
    Reads T willing (Command.read >>= k) R where
  sound hfits hrun := (h _ hfits).sound hfits hrun
  complete hwilling hfits hR hcan := (h _ hfits).complete hwilling hfits hR hcan

theorem bind {p : Command σ ε α} {k : α → Command σ ε β} {R : α → μ → Prop} {S : α → β → μ → Prop}
    (hp : Reads T willing p R) (hk : ∀ a, Reads T willing (k a) (S a)) :
    Reads T willing (p >>= k) fun b z => ∃ a x y, R a x ∧ S a b y ∧ z = T.append x y where
  sound hfits hrun := by
    obtain ⟨a, m, hfirst, hrest⟩ := Command.bind_ok_iff.mp hrun
    obtain ⟨x, hx, htakes⟩ := hp.sound hfits hfirst
    obtain ⟨y, hy, htakes'⟩ := (hk a).sound (T.fits hfits htakes) hrest
    exact ⟨T.append x y, ⟨a, x, y, hx, hy, rfl⟩, T.takes_append htakes htakes'⟩
  complete hwilling hfits hR hcan := by
    obtain ⟨a, x, y, hx, hy, rfl⟩ := hR
    obtain ⟨m, hfirst, htakes⟩ := hp.complete hwilling hfits hx (T.can_left hfits hcan)
    obtain ⟨t, hrest, htakes'⟩ :=
      (hk a).complete hwilling (T.fits hfits htakes) hy (T.can_right hcan htakes)
    exact ⟨t, by rw [Command.bind_of_ok hfirst, hrest], T.takes_append htakes htakes'⟩

/-- A check in front of a reader takes nothing. -/
theorem after {p : Command σ ε α} {k : α → Command σ ε β} {Q : α → Prop} {S : α → β → μ → Prop}
    (hp : Reads T willing p fun a x => Q a ∧ x = T.empty) (hk : ∀ a, Reads T willing (k a) (S a)) :
    Reads T willing (p >>= k) fun b y => ∃ a, Q a ∧ S a b y :=
  (hp.bind hk).congr fun b z => by
    constructor
    · rintro ⟨a, _, y, ⟨hQ, rfl⟩, hy, rfl⟩
      rw [T.empty_append]
      exact ⟨a, hQ, hy⟩
    · rintro ⟨a, hQ, hy⟩
      exact ⟨a, T.empty, z, ⟨hQ, rfl⟩, hy, (T.empty_append z).symm⟩

theorem lift_bind {r : Except ε α} {k : α → Command σ ε β} {S : α → β → μ → Prop}
    (hk : ∀ a, Reads T willing (k a) (S a)) :
    Reads T willing (Command.lift r >>= k) fun b y => ∃ a, r = .ok a ∧ S a b y := (lift r).after hk

/-- A check behind a reader takes nothing. -/
theorem before {p : Command σ ε α} {k : α → Command σ ε β} {R : α → μ → Prop} {Q : α → β → Prop}
    (hp : Reads T willing p R) (hk : ∀ a, Reads T willing (k a) fun b y => Q a b ∧ y = T.empty) :
    Reads T willing (p >>= k) fun b x => ∃ a, R a x ∧ Q a b :=
  (hp.bind hk).congr fun b z => by
    constructor
    · rintro ⟨a, x, _, hx, ⟨hQ, rfl⟩, rfl⟩
      rw [T.append_empty]
      exact ⟨a, hx, hQ⟩
    · rintro ⟨a, hx, hQ⟩
      exact ⟨a, z, T.empty, hx, ⟨hQ, rfl⟩, (T.append_empty z).symm⟩

theorem map {p : Command σ ε α} {R : α → μ → Prop} (hp : Reads T willing p R) (f : α → β) :
    Reads T willing (p >>= fun a => Pure.pure (f a)) fun b x => ∃ a, R a x ∧ b = f a :=
  hp.before fun a => pure (f a)

/-- Values that are read one by one. -/
theorem collect {body : Nat → Command σ ε α} {P : α → Prop} {label : α → μ}
    (h : ∀ i, Reads T willing (body i) fun a x => P a ∧ x = label a) (i n : Nat) :
    Reads T willing (Command.collect body i n) fun as z =>
      (as.length = n ∧ ∀ a ∈ as, P a) ∧ z = (as.map label).foldr T.append T.empty := by
  induction n generalizing i with
  | zero =>
      refine (pure []).congr fun as z => ?_
      constructor
      · rintro ⟨rfl, rfl⟩
        exact ⟨⟨rfl, nofun⟩, rfl⟩
      · rintro ⟨⟨hlength, -⟩, rfl⟩
        obtain rfl := List.length_eq_zero_iff.mp hlength
        exact ⟨rfl, rfl⟩
  | succ n ih =>
      refine ((h i).bind fun a => (ih (i + 1)).map (a :: ·)).congr fun as z => ?_
      constructor
      · rintro ⟨a, _, _, ⟨ha, rfl⟩, ⟨as, ⟨⟨rfl, hall⟩, rfl⟩, rfl⟩, rfl⟩
        exact ⟨⟨rfl, List.forall_mem_cons.mpr ⟨ha, hall⟩⟩, rfl⟩
      · rintro ⟨⟨hlength, hall⟩, rfl⟩
        cases as with
        | nil => cases hlength
        | cons a as =>
            obtain ⟨ha, hall⟩ := List.forall_mem_cons.mp hall
            exact ⟨a, _, _, ⟨ha, rfl⟩, ⟨as, ⟨⟨Nat.succ.inj hlength, hall⟩, rfl⟩, rfl⟩, rfl⟩

end Reads
end Foundation

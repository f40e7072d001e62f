import Mathlib.Data.List.Forall2

/-! Fallible commands over a state that outlives a failure, with inversion and
loop rules. A command that answers an error keeps every update it made before. -/
namespace Foundation

@[simp] theorem except_ok_bind {ε α β : Type} (a : α) (k : α → Except ε β) :
    ((Except.ok a : Except ε α) >>= k) = k a := rfl

@[simp] theorem except_error_bind {ε α β : Type} (e : ε) (k : α → Except ε β) :
    ((Except.error e : Except ε α) >>= k) = .error e := rfl

theorem except_bind_ok_iff {ε α β : Type} {r : Except ε α} {k : α → Except ε β} {b : β} :
    (r >>= k) = .ok b ↔ ∃ a, r = .ok a ∧ k a = .ok b := by
  cases r with
  | ok a => exact ⟨fun h => ⟨a, rfl, h⟩, fun ⟨_, hr, hk⟩ => by cases hr; exact hk⟩
  | error e => exact ⟨fun h => (nomatch h), fun ⟨_, hr, _⟩ => (nomatch hr)⟩

theorem except_bind_error_iff {ε α β : Type} {r : Except ε α} {k : α → Except ε β} {e : ε} :
    (r >>= k) = .error e ↔ r = .error e ∨ ∃ a, r = .ok a ∧ k a = .error e := by
  cases r with
  | ok a =>
      constructor
      · exact fun h => Or.inr ⟨a, rfl, h⟩
      · rintro (h | ⟨_, hr, hk⟩)
        · cases h
        · cases hr; exact hk
  | error e' =>
      constructor
      · intro h; cases h; exact Or.inl rfl
      · rintro (h | ⟨_, hr, _⟩)
        · cases h; rfl
        · cases hr

theorem except_map_ok_iff {ε α β : Type} {r : Except ε α} {f : α → β} {b : β} :
    (f <$> r) = .ok b ↔ ∃ a, r = .ok a ∧ f a = b := by
  cases r with
  | ok a =>
      exact ⟨fun h => ⟨a, rfl, by cases h; rfl⟩, fun ⟨_, hr, hf⟩ => by cases hr; cases hf; rfl⟩
  | error e => exact ⟨fun h => (nomatch h), fun ⟨_, hr, _⟩ => (nomatch hr)⟩

/-- A traversal answers when every element does, in order. -/
theorem except_mapM_ok_iff {ε α β : Type} {f : α → Except ε β} {xs : List α} {ys : List β} :
    xs.mapM f = .ok ys ↔ List.Forall₂ (fun x y => f x = .ok y) xs ys := by
  induction xs generalizing ys with
  | nil =>
      rw [List.mapM_nil, List.forall₂_nil_left_iff]
      exact ⟨fun h => by cases h; rfl, fun h => by cases h; rfl⟩
  | cons x xs ih =>
      rw [List.mapM_cons, List.forall₂_cons_left_iff, except_bind_ok_iff]
      constructor
      · rintro ⟨y, hy, h⟩
        obtain ⟨zs, hz, hp⟩ := except_bind_ok_iff.mp h
        cases hp
        exact ⟨y, zs, hy, ih.mp hz, rfl⟩
      · rintro ⟨y, zs, hy, hz, rfl⟩
        exact ⟨y, hy, except_bind_ok_iff.mpr ⟨zs, ih.mpr hz, rfl⟩⟩

theorem except_mapM_getElem {ε α β : Type} {f : α → Except ε β} {xs : List α} {ys : List β}
    (h : xs.mapM f = .ok ys)
    {i : Nat} (hx : i < xs.length) (hy : i < ys.length) : f xs[i] = .ok ys[i] :=
  (except_mapM_ok_iff.mp h).get hx hy

theorem except_mapM_forall {ε α β : Type} {f : α → Except ε β} {xs : List α} {ys : List β}
    {P : β → Prop}
    (h : xs.mapM f = .ok ys) (hP : ∀ x ∈ xs, ∀ y, f x = .ok y → P y) : ∀ y ∈ ys, P y := by
  intro y hy
  obtain ⟨i, hi, rfl⟩ := List.mem_iff_getElem.mp hy
  have hx : i < xs.length := by rwa [(except_mapM_ok_iff.mp h).length_eq]
  exact hP xs[i] (List.getElem_mem hx) ys[i] (except_mapM_getElem h hx hi)

/-- What one computation answers, a second one answers alike. -/
theorem except_mapM_related {ε ε' α β γ : Type} {f : α → Except ε β} {g : α → Except ε' γ}
    {R : β → γ → Prop} {xs : List α} {ys : List β} (h : xs.mapM f = .ok ys)
    (related : ∀ x ∈ xs, ∀ y, f x = .ok y → ∃ z, g x = .ok z ∧ R y z) :
    ∃ zs, xs.mapM g = .ok zs ∧ List.Forall₂ R ys zs := by
  have hys := except_mapM_ok_iff.mp h
  clear h
  induction hys with
  | nil => exact ⟨[], rfl, .nil⟩
  | @cons x y xs ys hxy _ ih =>
      obtain ⟨z, hz, hyz⟩ := related x List.mem_cons_self y hxy
      obtain ⟨zs, hzs, hrest⟩ := ih fun x hx => related x (List.mem_cons_of_mem _ hx)
      refine ⟨z :: zs, ?_, .cons hyz hrest⟩
      rw [List.mapM_cons, hz, hzs]
      rfl

theorem except_mapM_congr {ε α β : Type} {f g : α → Except ε β} {xs : List α}
    (h : ∀ x ∈ xs, f x = g x) : xs.mapM f = xs.mapM g := by
  induction xs with
  | nil => rfl
  | cons x xs ih =>
      rw [List.mapM_cons, List.mapM_cons, h x List.mem_cons_self, ih fun y hy =>
        h y (List.mem_cons_of_mem x hy)]

/-- A traversal by a function that answers `g x` exactly where `Q x` holds. -/
theorem except_mapM_eq_ok_iff {ε α β : Type} {f : α → Except ε β} {g : α → β} {Q : α → Prop}
    (h : ∀ x y, f x = .ok y ↔ Q x ∧ y = g x) (xs : List α) (ys : List β) :
    xs.mapM f = .ok ys ↔ (∀ x ∈ xs, Q x) ∧ ys = xs.map g := by
  induction xs generalizing ys with
  | nil =>
      rw [List.mapM_nil]
      exact ⟨fun he => by cases he; exact ⟨by simp, rfl⟩, fun he => by rw [he.2]; rfl⟩
  | cons x xs ih =>
      rw [List.mapM_cons, except_bind_ok_iff]
      constructor
      · rintro ⟨y, hy, he⟩
        obtain ⟨zs, hz, hp⟩ := except_bind_ok_iff.mp he
        obtain ⟨hQ, rfl⟩ := (h x y).mp hy
        obtain ⟨hall, rfl⟩ := (ih zs).mp hz
        cases hp
        exact ⟨List.forall_mem_cons.mpr ⟨hQ, hall⟩, rfl⟩
      · rintro ⟨hall, rfl⟩
        obtain ⟨hQ, hall⟩ := List.forall_mem_cons.mp hall
        exact ⟨g x, (h x _).mpr ⟨hQ, rfl⟩, except_bind_ok_iff.mpr ⟨_, (ih _).mpr ⟨hall, rfl⟩, rfl⟩⟩

theorem except_mapM_of_ok {ε α β : Type} {f : α → Except ε β} {g : α → β} {xs : List α}
    (h : ∀ x ∈ xs, f x = .ok (g x)) : xs.mapM f = .ok (xs.map g) := by
  induction xs with
  | nil => rfl
  | cons x xs ih =>
      rw [List.mapM_cons, h x List.mem_cons_self, ih fun y hy => h y (List.mem_cons_of_mem x hy)]
      rfl

theorem toOption_bind {ε α β : Type} (r : Except ε α) (f : α → Except ε β) :
    (r >>= f).toOption = r.toOption.bind fun a => (f a).toOption := by
  cases r with
  | error e => rfl
  | ok a => rfl

theorem toOption_eq_some {ε α : Type} {r : Except ε α} {a : α} :
    r.toOption = some a ↔ r = .ok a := by
  cases r with
  | ok b =>
      exact ⟨fun h => congrArg Except.ok (Option.some.inj h), fun h =>
        congrArg some (Except.ok.inj h)⟩
  | error e => exact ⟨nofun, nofun⟩

/-- Every error of the computation is in `P`. -/
def FailsIn {ε α : Type} (r : Except ε α) (P : ε → Prop) : Prop := ∀ e, r = .error e → P e

theorem FailsIn.pure {ε α : Type} (a : α) (P : ε → Prop) : FailsIn (pure a) P :=
  fun _ h => (nomatch h)

theorem FailsIn.mono {ε α : Type} {r : Except ε α} {P Q : ε → Prop} (h : FailsIn r P)
    (hPQ : ∀ e, P e → Q e) : FailsIn r Q := fun e he => hPQ e (h e he)

theorem FailsIn.bind {ε α β : Type} {r : Except ε α} {k : α → Except ε β} {P : ε → Prop}
    (hr : FailsIn r P) (hk : ∀ a, r = .ok a → FailsIn (k a) P) : FailsIn (r >>= k) P := by
  intro e h
  rcases except_bind_error_iff.mp h with h | ⟨a, ha, h⟩
  · exact hr e h
  · exact hk a ha e h

theorem FailsIn.mapM {ε α β : Type} {f : α → Except ε β} {xs : List α} {P : ε → Prop}
    (h : ∀ x ∈ xs, FailsIn (f x) P) : FailsIn (xs.mapM f) P := by
  induction xs with
  | nil => exact FailsIn.pure _ P
  | cons x xs ih =>
      rw [List.mapM_cons]
      refine (h x List.mem_cons_self).bind fun y _ => ?_
      exact (ih fun z hz => h z (List.mem_cons_of_mem x hz)).bind fun _ _ => FailsIn.pure _ P

theorem FailsIn.foldlM {ε α β : Type} {f : β → α → Except ε β} {P : ε → Prop} {xs : List α}
    (h : ∀ x ∈ xs, ∀ b, FailsIn (f b x) P) (b : β) : FailsIn (xs.foldlM f b) P := by
  induction xs generalizing b with
  | nil => exact .pure _ _
  | cons x xs ih =>
      rw [List.foldlM_cons]
      exact (h x List.mem_cons_self b).bind fun b' _ =>
        ih (fun y hy => h y (List.mem_cons_of_mem x hy)) b'

/-- A loop that answers: what holds before it and is kept by every iteration holds after it of all
it has done. -/
theorem except_foldlM_run {ε α β : Type} {f : β → α → Except ε β} {xs : List α} {b b' : β}
    {P : List α → β → Prop} (h : xs.foldlM f b = .ok b') (init : P [] b)
    (step : ∀ done x now after, x ∈ xs → P done now → f now x = .ok after → P (done ++ [x]) after) :
    P xs b' := by
  have hrun : ∀ (rest done : List α) (now : β), (∀ x ∈ rest, x ∈ xs) → P done now →
      rest.foldlM f now = .ok b' →
      P (done ++ rest) b' := by
    intro rest
    induction rest with
    | nil =>
        intro done now _ hnow hrest
        cases hrest
        rwa [List.append_nil]
    | cons x rest ih =>
        intro done now hmem hnow hrest
        rw [List.foldlM_cons] at hrest
        obtain ⟨after, hstep, hrest⟩ := except_bind_ok_iff.mp hrest
        have hafter := step done x now after (hmem x List.mem_cons_self) hnow hstep
        rw [List.append_cons]
        exact ih (done ++ [x]) after (fun y hy => hmem y (List.mem_cons_of_mem x hy)) hafter hrest
  exact hrun xs [] b (fun _ hmem => hmem) init h

/-- A command answers a value or an error and always leaves a state. -/
def Command (σ ε α : Type) : Type := σ → Except ε α × σ

namespace Command
variable {σ ε α β : Type}

instance : Monad (Command σ ε) where
  pure a := fun s => (.ok a, s)
  bind c k := fun s =>
    match c s with
    | (.ok a, s') => k a s'
    | (.error e, s') => (.error e, s')

def read : Command σ ε σ := fun s => (.ok s, s)

def update (f : σ → σ) : Command σ ε Unit := fun s => (.ok (), f s)

/-- A check that looks at no state. -/
def lift (r : Except ε α) : Command σ ε α := fun s => (r, s)

def raise (e : ε) : Command σ ε α := fun s => (.error e, s)

/-- Runs a command on a local value that is dropped when the command fails. -/
def exec (c : Command σ ε α) (s : σ) : Except ε σ :=
  match c s with
  | (.ok _, s') => .ok s'
  | (.error e, _) => .error e

/-- The errors of a callee as errors of its caller. -/
def mapError {ε' : Type} (wrapper : ε → ε') (c : Command σ ε α) : Command σ ε' α := fun s =>
  match c s with
  | (.ok a, s') => (.ok a, s')
  | (.error e, s') => (.error (wrapper e), s')

/-- Runs a command on a part of the state. -/
def zoom {τ : Type} (get : σ → τ) (set : τ → σ → σ) (c : Command τ ε α) : Command σ ε α := fun s =>
  ((c (get s)).1, set (c (get s)).2 s)

/-- The counted loop `for i in start..start + count`. -/
def loop (body : Nat → Command σ ε Unit) : Nat → Nat → Command σ ε Unit
  | _, 0 => pure ()
  | i, n + 1 => do
    body i
    loop body (i + 1) n

/-- The values of `body` for `i in start..start + count`. -/
def collect (body : Nat → Command σ ε α) : Nat → Nat → Command σ ε (List α)
  | _, 0 => pure []
  | i, n + 1 => do
    let x ← body i
    let xs ← collect body (i + 1) n
    pure (x :: xs)

@[simp] theorem pure_run (a : α) (s : σ) : (pure a : Command σ ε α) s = (.ok a, s) := rfl
@[simp] theorem read_run (s : σ) : (read : Command σ ε σ) s = (.ok s, s) := rfl
@[simp] theorem update_run (f : σ → σ) (s : σ) :
    (update f : Command σ ε Unit) s = (.ok (), f s) := rfl
@[simp] theorem lift_run (r : Except ε α) (s : σ) : (lift r : Command σ ε α) s = (r, s) := rfl
@[simp] theorem raise_run (e : ε) (s : σ) : (raise e : Command σ ε α) s = (.error e, s) := rfl

theorem exec_eq_ok {c : Command σ ε α} {s s' : σ} : exec c s = .ok s' ↔ ∃ a, c s = (.ok a, s') := by
  unfold exec
  rcases c s with ⟨r, t⟩
  cases r <;> simp

theorem exec_eq_error {c : Command σ ε α} {s : σ} {e : ε} :
    exec c s = .error e ↔ ∃ s', c s = (.error e, s') := by
  unfold exec
  rcases c s with ⟨r, t⟩
  cases r <;> simp

theorem bind_run (c : Command σ ε α) (k : α → Command σ ε β) (s : σ) :
    (c >>= k) s =
      match c s with
      | (.ok a, s') => k a s'
      | (.error e, s') => (.error e, s') := rfl

theorem bind_of_ok {c : Command σ ε α} {k : α → Command σ ε β} {s s' : σ} {a : α}
    (h : c s = (.ok a, s')) : (c >>= k) s = k a s' := by
  simp only [bind_run, h]

theorem bind_of_error {c : Command σ ε α} {k : α → Command σ ε β} {s s' : σ} {e : ε}
    (h : c s = (.error e, s')) : (c >>= k) s = (.error e, s') := by
  simp only [bind_run, h]

theorem mapError_of_ok {ε' : Type} {c : Command σ ε α} {wrapper : ε → ε'} {s s' : σ} {a : α}
    (h : c s = (.ok a, s')) : c.mapError wrapper s = (.ok a, s') := by
  simp only [mapError, h]

theorem mapError_of_error {ε' : Type} {c : Command σ ε α} {wrapper : ε → ε'} {s s' : σ} {e : ε}
    (h : c s = (.error e, s')) : c.mapError wrapper s = (.error (wrapper e), s') := by
  simp only [mapError, h]

theorem zoom_run {τ : Type} {get : σ → τ} {set : τ → σ → σ} {c : Command τ ε α} {s : σ}
    {r : Except ε α} {t : τ}
    (h : c (get s) = (r, t)) : c.zoom get set s = (r, set t s) := by
  simp only [zoom, h]

theorem zoom_eq_iff {τ : Type} {get : σ → τ} {set : τ → σ → σ} {c : Command τ ε α} {s s' : σ}
    {r : Except ε α} :
    c.zoom get set s = (r, s') ↔ ∃ t, c (get s) = (r, t) ∧ set t s = s' := by
  constructor
  · intro h
    obtain ⟨hr, hs⟩ := Prod.mk.inj h
    exact ⟨(c (get s)).2, Prod.ext hr rfl, hs⟩
  · rintro ⟨t, hrun, rfl⟩
    exact zoom_run hrun

theorem bind_ok_iff {c : Command σ ε α} {k : α → Command σ ε β} {s t : σ} {b : β} :
    (c >>= k) s = (.ok b, t) ↔ ∃ a s', c s = (.ok a, s') ∧ k a s' = (.ok b, t) := by
  rcases h : c s with ⟨r, s'⟩
  cases r with
  | ok a => simp [bind_of_ok h]
  | error e => simp [bind_of_error h]

theorem bind_error_iff {c : Command σ ε α} {k : α → Command σ ε β} {s t : σ} {e : ε} :
    (c >>= k) s = (.error e, t) ↔
      c s = (.error e, t) ∨ ∃ a s', c s = (.ok a, s') ∧ k a s' = (.error e, t) := by
  rcases h : c s with ⟨r, s'⟩
  cases r with
  | ok a => simp [bind_of_ok h]
  | error e => simp [bind_of_error h]

theorem lift_bind_ok_iff {r : Except ε α} {k : α → Command σ ε β} {s t : σ} {b : β} :
    (lift r >>= k) s = (.ok b, t) ↔ ∃ a, r = .ok a ∧ k a s = (.ok b, t) := by
  cases r with
  | ok a => simp [bind_of_ok (lift_run (.ok a) s)]
  | error e => simp [bind_of_error (lift_run (.error e) s)]

theorem lift_bind_lift (r : Except ε α) (f : α → Except ε β) :
    ((lift r >>= fun a => lift (f a)) : Command σ ε β) = lift (r >>= f) := by
  funext s
  cases r with
  | ok a => rfl
  | error e => rfl

/-- Commands that begin alike and end in an answer and its image. -/
theorem bind_mapped {γ : Type} (f : β → γ) {c : Command σ ε α} {k : α → Command σ ε β}
    {l : α → Command σ ε γ} (h : ∀ a s, l a s = ((k a s).1.map f, (k a s).2)) (s : σ) :
    (c >>= l) s = (((c >>= k) s).1.map f, ((c >>= k) s).2) := by
  rcases hrun : c s with ⟨r, s'⟩
  cases r with
  | ok a => rw [bind_of_ok hrun, bind_of_ok hrun, h]
  | error e => rw [bind_of_error hrun, bind_of_error hrun, Except.map]

/-- The command keeps `I`, whether it answers or fails. -/
def Keeps (c : Command σ ε α) (I : σ → Prop) : Prop := ∀ s, I s → I (c s).2

/-- From states in `I`, the command neither sees the change `f` nor undoes it. -/
def Commutes (c : Command σ ε α) (I : σ → Prop) (f : σ → σ) : Prop :=
  ∀ s, I s → c (f s) = ((c s).1, f (c s).2)

/-- From a state in `P` the command answers, and its answer and last state are in `Q`. -/
def Answers (P : σ → Prop) (c : Command σ ε α) (Q : α → σ → Prop) : Prop :=
  ∀ s, P s → ∃ a s', c s = (.ok a, s') ∧ Q a s'

theorem Keeps.bind {c : Command σ ε α} {k : α → Command σ ε β} {I : σ → Prop}
    (hc : c.Keeps I) (hk : ∀ a, (k a).Keeps I) : (c >>= k).Keeps I := by
  intro s hs
  have hI := hc s hs
  rcases h : c s with ⟨r, s'⟩
  rw [h] at hI
  cases r with
  | ok a => rw [bind_of_ok h]; exact hk a s' hI
  | error e => rw [bind_of_error h]; exact hI

theorem Keeps.lift (r : Except ε α) (I : σ → Prop) : (lift r : Command σ ε α).Keeps I :=
  fun _ hs => hs

theorem Keeps.read (I : σ → Prop) : (read : Command σ ε σ).Keeps I := fun _ hs => hs

/-- A part of the state that the invariant does not look at. -/
theorem Keeps.zoom {τ : Type} {get : σ → τ} {set : τ → σ → σ} {I : σ → Prop}
    (h : ∀ t s, I s → I (set t s))
    (c : Command τ ε α) : (c.zoom get set).Keeps I := fun s hs => h (c (get s)).2 s hs

theorem Keeps.loop {body : Nat → Command σ ε Unit} {I : σ → Prop} (h : ∀ i, (body i).Keeps I)
    (i n : Nat) : (loop body i n).Keeps I := by
  induction n generalizing i with
  | zero => exact fun _ hs => hs
  | succ n ih => exact (h i).bind fun _ => ih (i + 1)

theorem Commutes.bind {c : Command σ ε α} {k : α → Command σ ε β} {I : σ → Prop} {f : σ → σ}
    (hc : c.Commutes I f) (hkeeps : c.Keeps I) (hk : ∀ a, (k a).Commutes I f) :
    (c >>= k).Commutes I f := by
  intro s hs
  have hfirst := hc s hs
  have hI := hkeeps s hs
  rcases hrun : c s with ⟨r, s'⟩
  rw [hrun] at hfirst hI
  cases r with
  | ok a =>
      rw [bind_of_ok hfirst, bind_of_ok hrun]
      exact hk a s' hI
  | error e => rw [bind_of_error hfirst, bind_of_error hrun]

theorem Commutes.loop {body : Nat → Command σ ε Unit} {I : σ → Prop} {f : σ → σ} (i n : Nat)
    (h : ∀ j, i ≤ j → j < i + n → (body j).Commutes I f) (hkeeps : ∀ j, (body j).Keeps I) :
    (loop body i n).Commutes I f := by
  induction n generalizing i with
  | zero =>
      intro s _
      rfl
  | succ n ih =>
      apply Commutes.bind (h i (Nat.le_refl i) (by omega)) (hkeeps i)
      intro _
      apply ih
      intro j hij hjn
      exact h j (by omega) (by omega)

theorem Answers.bind {P : σ → Prop} {c : Command σ ε α} {k : α → Command σ ε β}
    {Q : α → σ → Prop} {R : β → σ → Prop} (hc : Answers P c Q)
    (hk : ∀ a, Answers (Q a) (k a) R) : Answers P (c >>= k) R := by
  intro s hs
  obtain ⟨a, s', hrun, hQ⟩ := hc s hs
  obtain ⟨b, t, hrun', hR⟩ := hk a s' hQ
  exact ⟨b, t, by rw [bind_of_ok hrun, hrun'], hR⟩

/-- A loop whose body always answers and moves the invariant on by one step answers. -/
theorem Answers.loop (body : Nat → Command σ ε Unit) {I : Nat → σ → Prop} (i n : Nat)
    (h : ∀ j, i ≤ j → j < i + n → Answers (I j) (body j) (fun _ => I (j + 1))) :
    Answers (I i) (loop body i n) (fun _ => I (i + n)) := by
  induction n generalizing i with
  | zero => exact fun s hs => ⟨(), s, rfl, hs⟩
  | succ n ih =>
      have hnext := ih (i + 1) fun j hij hjn => h j (by omega) (by omega)
      have hlast : i + 1 + n = i + (n + 1) := by omega
      rw [hlast] at hnext
      exact (h i (Nat.le_refl i) (by omega)).bind fun _ => hnext

end Command
end Foundation

import Mathlib.Algebra.Ring.Nat
import LightBridge.Foundation.Command

/-! The host the engine is compiled for: 64-bit `usize`, fallible reservation and
`f32` bit patterns. -/
namespace LightBridge
open Foundation

def usizeMax : Nat := 2 ^ 64 - 1
def isizeMax : Nat := 2 ^ 63 - 1

def checkedAdd (a b : Nat) : Option Nat := if a + b ≤ usizeMax then some (a + b) else none
def checkedSub (a b : Nat) : Option Nat := if b ≤ a then some (a - b) else none
def checkedMul (a b : Nat) : Option Nat := if a * b ≤ usizeMax then some (a * b) else none

/-- `saturating_add` of `usize` and `u64`. -/
def saturatingAdd (a b : Nat) : Nat := min (a + b) usizeMax

/-- `saturating_sub`. -/
def saturatingSub (a b : Nat) : Nat := a - b

def okOr {ε α : Type} (value : Option α) (error : ε) : Except ε α :=
  match value with
  | some a => .ok a
  | none => .error error

/-- `error?` with `#[from]`. -/
def wrap {ε ε' α : Type} (wrapper : ε → ε') (r : Except ε α) : Except ε' α :=
  match r with
  | .ok a => .ok a
  | .error e => .error (wrapper e)

/-- `if !condition { return Err(error); }`. -/
def ensure {ε : Type} (condition : Prop) [Decidable condition] (error : ε) : Except ε Unit :=
  if condition then .ok () else .error error

/-- `Vec::try_reserve_exact` for `elements` of `size` bytes. No allocation is larger
than `isize::MAX` bytes; `granted` is the allocator's answer below that. -/
def tryReserve (granted : Bool) (size elements : Nat) : Bool :=
  granted && decide (size * elements ≤ isizeMax)

theorem checkedAdd_eq_some {a b c : Nat} : checkedAdd a b = some c ↔ a + b ≤ usizeMax ∧
      c = a + b := by
  by_cases h : a + b ≤ usizeMax <;> simp [checkedAdd, h, eq_comm]

theorem checkedSub_eq_some {a b c : Nat} : checkedSub a b = some c ↔ b ≤ a ∧ c = a - b := by
  by_cases h : b ≤ a <;> simp [checkedSub, h, eq_comm]

theorem checkedMul_eq_some {a b c : Nat} : checkedMul a b = some c ↔ a * b ≤ usizeMax ∧
      c = a * b := by
  by_cases h : a * b ≤ usizeMax <;> simp [checkedMul, h, eq_comm]

theorem checkedAdd_of_le {a b : Nat} (h : a + b ≤ usizeMax) :
    checkedAdd a b = some (a + b) := if_pos h
theorem checkedSub_of_le {a b : Nat} (h : b ≤ a) : checkedSub a b = some (a - b) := if_pos h
theorem checkedMul_of_le {a b : Nat} (h : a * b ≤ usizeMax) :
    checkedMul a b = some (a * b) := if_pos h

@[simp] theorem okOr_eq_ok {ε α : Type} {value : Option α} {error : ε} {a : α} :
    okOr value error = .ok a ↔ value = some a := by
  cases value <;> simp [okOr]

theorem okOr_eq_error {ε α : Type} {value : Option α} {error e : ε} :
    okOr value error = .error e ↔ value = none ∧ e = error := by
  cases value <;> simp [okOr, eq_comm]

theorem wrap_eq_ok {ε ε' α : Type} {wrapper : ε → ε'} {r : Except ε α} {a : α} :
    wrap wrapper r = .ok a ↔ r = .ok a := by
  cases r <;> simp [wrap]

theorem wrap_eq_error {ε ε' α : Type} {wrapper : ε → ε'} {r : Except ε α} {e : ε'} :
    wrap wrapper r = .error e ↔ ∃ error, r = .error error ∧ e = wrapper error := by
  cases r <;> simp [wrap, eq_comm]

@[simp] theorem ensure_eq_ok {ε : Type} {condition : Prop} [Decidable condition]
    {error : ε} {u : Unit} :
    ensure condition error = .ok u ↔ condition := by
  by_cases h : condition <;> simp [ensure, h]

theorem ensure_eq_error {ε : Type} {condition : Prop} [Decidable condition] {error e : ε} :
    ensure condition error = .error e ↔ ¬ condition ∧ e = error := by
  by_cases h : condition <;> simp [ensure, h, eq_comm]

theorem ensure_pure_eq_ok {ε α : Type} {condition : Prop} [Decidable condition]
    {error : ε} {a b : α} :
    (do ensure condition error; pure a : Except ε α) = .ok b ↔ condition ∧ b = a := by
  by_cases h : condition
  · rw [ensure, if_pos h]
    exact ⟨fun he => by cases he; exact ⟨h, rfl⟩, fun he => by rw [he.2]; rfl⟩
  · rw [ensure, if_neg h]
    exact ⟨fun he => (by cases he), fun he => absurd he.1 h⟩

theorem failsIn_okOr {ε α : Type} {value : Option α} {error : ε} {P : ε → Prop} (h : P error) :
    FailsIn (okOr value error) P := fun _ he => (okOr_eq_error.mp he).2 ▸ h

theorem failsIn_ensure {ε : Type} {condition : Prop} [Decidable condition] {error : ε}
    {P : ε → Prop}
    (h : P error) : FailsIn (ensure condition error) P := fun _ he => (ensure_eq_error.mp he).2 ▸ h

theorem failsIn_wrap {ε₁ ε₂ α : Type} {wrapper : ε₁ → ε₂} {P : ε₂ → Prop} (h : ∀ e, P (wrapper e))
    (r : Except ε₁ α) : FailsIn (wrap wrapper r) P := by
  intro e he
  obtain ⟨error, -, rfl⟩ := wrap_eq_error.mp he
  exact h error

theorem tryReserve_eq_true {granted : Bool} {size elements : Nat} :
    tryReserve granted size elements = true ↔ granted = true ∧ size * elements ≤ isizeMax := by
  simp only [tryReserve, Bool.and_eq_true, decide_eq_true_eq]

/-- An `f32` is its bit pattern. -/
structure F32 where
  ofBits ::
  toBits : BitVec 32
  deriving DecidableEq, Repr, Inhabited

namespace F32

def zero : F32 := ⟨0⟩

/-- `f32::from_bits` of a `u32`. -/
def fromBits (bits : Nat) : F32 := ⟨BitVec.ofNat 32 bits⟩

/-- `f32::is_finite`: the exponent is not all ones. -/
def isFinite (x : F32) : Bool := x.toBits.extractLsb' 23 8 != 255#8

end F32

/-- An `f64` is its bit pattern. -/
structure F64 where
  ofBits ::
  toBits : BitVec 64
  deriving DecidableEq, Repr, Inhabited

/-- `f64::from_bits` of a `u64`. -/
def F64.fromBits (bits : Nat) : F64 := ⟨BitVec.ofNat 64 bits⟩

end LightBridge

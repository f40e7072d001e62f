import LightBridge.Foundation.Pairing
import Mathlib.Data.Int.Order.Lemmas

/-! Registers of lanes of machine integers. Every operation wraps; it is exact where the exact
results fit into the lanes. -/
namespace Foundation
open Finset

/-- A register of `n` lanes of `w` bits. -/
def Lanes (n w : Nat) : Type := Fin n → BitVec w

namespace Lanes
variable {m n w : Nat}

/-- The lanes that lie at an offset in a memory. -/
def load (memory : Nat → BitVec w) (offset : Nat) : Lanes n w := fun lane => memory (offset + lane)

def splat (value : BitVec w) : Lanes n w := fun _ => value

/-- Every lane in `width` bits, with its sign. -/
def widen (width : Nat) (v : Lanes n w) : Lanes n width := fun lane => (v lane).signExtend width

/-- The low bits of the products. -/
def mulLow (a b : Lanes n w) : Lanes n w := fun lane => a lane * b lane

def add (a b : Lanes n w) : Lanes n w := fun lane => a lane + b lane

def lower (v : Lanes (m + n) w) : Lanes m w := fun lane => v (lane.castAdd n)

def upper (v : Lanes (m + n) w) : Lanes n w := fun lane => v (lane.natAdd m)

/-- The sums of the products of two neighbours, in lanes of `width` bits. -/
def mulAdd (width : Nat) (a b : Lanes (n + n) w) : Lanes n width := fun lane =>
  (a ⟨2 * lane, by omega⟩).signExtend width * (b ⟨2 * lane, by omega⟩).signExtend width +
    (a ⟨2 * lane + 1, by omega⟩).signExtend width * (b ⟨2 * lane + 1, by omega⟩).signExtend width

def store (v : Lanes n w) : List Int := List.ofFn fun lane => (v lane).toInt

/-- The lanes hold these values, none of them larger than the bound. -/
structure Holds (v : Lanes n w) (value : Nat → Int) (bound : Nat) : Prop where
  toInt : ∀ lane : Fin n, (v lane).toInt = value lane
  le : ∀ lane : Fin n, (value lane).natAbs ≤ bound

end Lanes

/-- A wrapped result is exact where it fits. -/
theorem bmod_of_natAbs_lt {w : Nat} {x : Int} (h : x.natAbs < 2 ^ (w - 1)) (hw : 0 < w) :
    x.bmod (2 ^ w) = x := by
  obtain ⟨w, rfl⟩ : ∃ k, w = k + 1 := ⟨w - 1, by omega⟩
  rw [Nat.add_sub_cancel] at h
  apply Int.bmod_eq_of_le
  · rw [pow_succ]
    omega
  · rw [pow_succ]
    omega

namespace Lanes.Holds
variable {m n w : Nat} {a b : Lanes n w} {x y : Nat → Int} {k l : Nat}

theorem load {memory : Nat → BitVec w} {bound : Nat}
    (h : ∀ place, (memory place).toInt.natAbs ≤ bound) (offset : Nat) :
    (Lanes.load memory offset : Lanes n w).Holds (fun lane => (memory (offset + lane)).toInt)
      bound := ⟨fun _ => rfl, fun _ => h _⟩

theorem splat {value : BitVec w} {bound : Nat} (h : value.toInt.natAbs ≤ bound) :
    (Lanes.splat value : Lanes n w).Holds (fun _ => value.toInt) bound :=
  ⟨fun _ => rfl, fun _ => h⟩

theorem widen (h : a.Holds x k) {width : Nat} (hle : w ≤ width) : (a.widen width).Holds x k :=
  ⟨fun lane => (BitVec.toInt_signExtend_of_le hle).trans (h.toInt lane), h.le⟩

theorem mulLow (ha : a.Holds x k) (hb : b.Holds y l) (hfits : k * l < 2 ^ (w - 1)) (hw : 0 < w) :
    (a.mulLow b).Holds (fun lane => x lane * y lane) (k * l) := by
  have hle (lane : Fin n) : (x lane * y lane).natAbs ≤ k * l := by
    rw [Int.natAbs_mul]
    exact Nat.mul_le_mul (ha.le lane) (hb.le lane)
  refine ⟨fun lane => ?_, hle⟩
  rw [Lanes.mulLow, BitVec.toInt_mul, ha.toInt, hb.toInt,
    bmod_of_natAbs_lt (Nat.lt_of_le_of_lt (hle lane) hfits) hw]

theorem add (ha : a.Holds x k) (hb : b.Holds y l) (hfits : k + l < 2 ^ (w - 1)) (hw : 0 < w) :
    (a.add b).Holds (fun lane => x lane + y lane) (k + l) := by
  have hle (lane : Fin n) : (x lane + y lane).natAbs ≤ k + l :=
    (Int.natAbs_add_le _ _).trans (Nat.add_le_add (ha.le lane) (hb.le lane))
  refine ⟨fun lane => ?_, hle⟩
  rw [Lanes.add, BitVec.toInt_add, ha.toInt, hb.toInt,
    bmod_of_natAbs_lt (Nat.lt_of_le_of_lt (hle lane) hfits) hw]

theorem lower {v : Lanes (m + n) w} (h : v.Holds x k) : v.lower.Holds x k :=
  ⟨fun lane => h.toInt (lane.castAdd n), fun lane => h.le (lane.castAdd n)⟩

theorem upper {v : Lanes (m + n) w} (h : v.Holds x k) :
    v.upper.Holds (fun lane => x (m + lane)) k :=
  ⟨fun lane => h.toInt (lane.natAdd m), fun lane => h.le (lane.natAdd m)⟩

theorem mulAdd {a b : Lanes (n + n) w} (ha : a.Holds x k) (hb : b.Holds y l) {width : Nat}
    (hle : w ≤ width) (hfits : k * l + k * l < 2 ^ (width - 1)) (hw : 0 < width) :
    (Lanes.mulAdd width a b).Holds
      (fun lane => x (2 * lane) * y (2 * lane) + x (2 * lane + 1) * y (2 * lane + 1))
      (k * l + k * l) := by
  have hproduct (lane : Fin (n + n)) : (x lane * y lane).natAbs ≤ k * l := by
    rw [Int.natAbs_mul]
    exact Nat.mul_le_mul (ha.le lane) (hb.le lane)
  have hwide (lane : Fin (n + n)) :
      ((a lane).signExtend width * (b lane).signExtend width).toInt = x lane * y lane := by
    have hlt := Nat.lt_of_le_of_lt ((hproduct lane).trans (Nat.le_add_right _ _)) hfits
    rw [BitVec.toInt_mul, BitVec.toInt_signExtend_of_le hle, BitVec.toInt_signExtend_of_le hle,
      ha.toInt, hb.toInt, bmod_of_natAbs_lt hlt hw]
  have hsum (lane : Fin n) : (x (2 * lane) * y (2 * lane) +
      x (2 * lane + 1) * y (2 * lane + 1)).natAbs ≤ k * l + k * l :=
    (Int.natAbs_add_le _ _).trans (Nat.add_le_add (hproduct ⟨2 * lane, by omega⟩)
      (hproduct ⟨2 * lane + 1, by omega⟩))
  refine ⟨fun lane => ?_, hsum⟩
  rw [Lanes.mulAdd, BitVec.toInt_add, hwide, hwide,
    bmod_of_natAbs_lt (Nat.lt_of_le_of_lt (hsum lane) hfits) hw]

theorem congr (h : a.Holds x k) (hxy : ∀ lane < n, x lane = y lane) : a.Holds y k :=
  ⟨fun lane => (h.toInt lane).trans (hxy lane lane.isLt), fun lane =>
    hxy lane lane.isLt ▸ h.le lane⟩

theorem store_eq (h : a.Holds x k) : a.store = (List.range n).map x := by
  apply List.ext_getElem
  · simp [Lanes.store]
  · intro lane hlane hlane'
    simp [Lanes.store, h.toInt]

end Lanes.Holds
end Foundation

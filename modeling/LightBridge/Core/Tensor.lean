import LightBridge.Core.GgmlType
import Mathlib.Algebra.BigOperators.Group.List.Basic
import Mathlib.Tactic.Ring

/-! The tensor descriptors of `bridge-core`: a shape, its type and its byte strides. -/
namespace LightBridge
open Foundation

/-- No dimension from the place `i` on is zero. -/
def checkDimensions : Nat → List Nat → Except CoreError Unit
  | _, [] => .ok ()
  | i, dimension :: dimensions => do
      ensure (dimension ≠ 0) (.zeroTensorDimension i)
      checkDimensions (i + 1) dimensions

/-- The strides of the dimensions `ne`, the first of which has the stride `stride`. -/
def outerStrides (stride : Nat) : List Nat → Except CoreError (List Nat)
  | [] => .ok []
  | [_] => .ok [stride]
  | dimension :: ne => do
      let next ← okOr (checkedMul stride dimension) (.arithmeticOverflow "GGML tensor stride")
      let strides ← outerStrides next ne
      pure (stride :: strides)

/-- `compute_strides`: the leading block, the encoded row and what the outer dimensions step over.
-/
def computeStrides (ne : List Nat) (ty : GgmlType) : Except CoreError (List Nat) := do
  ensure (1 ≤ ne.length ∧ ne.length ≤ 4) (.invalidTensorRank ne.length)
  checkDimensions 0 ne
  let row ← ty.rowSize (ne.headD 1)
  let strides ← outerStrides row ne.tail
  pure (ty.typeSize :: strides)

theorem checkDimensions_eq_ok {i : Nat} {ne : List Nat} {u : Unit} :
    checkDimensions i ne = .ok u ↔ ∀ dimension ∈ ne, dimension ≠ 0 := by
  induction ne generalizing i with
  | nil => simp [checkDimensions]
  | cons dimension ne ih =>
      simp only [checkDimensions, except_bind_ok_iff, ensure_eq_ok, exists_const, ih,
        List.forall_mem_cons]

theorem outerStrides_length {stride : Nat} {ne strides : List Nat}
    (h : outerStrides stride ne = .ok strides) :
    strides.length = ne.length := by
  induction ne generalizing stride strides with
  | nil => cases h; rfl
  | cons dimension ne ih =>
      cases ne with
      | nil => cases h; rfl
      | cons outer ne =>
          simp only [outerStrides, except_bind_ok_iff] at h
          obtain ⟨next, -, rest, hrest, hlast⟩ := h
          cases hlast
          rw [List.length_cons, List.length_cons, ih hrest]

/-- What the last of the dimensions steps over, and how many bytes the dimensions are together. -/
theorem outerStrides_last {stride : Nat} {ne strides : List Nat}
    (h : outerStrides stride ne = .ok strides) (hne : ne ≠ []) :
    strides.getD (ne.length - 1) 0 * ne.getD (ne.length - 1) 1 = stride * ne.prod := by
  induction ne generalizing stride strides with
  | nil => exact absurd rfl hne
  | cons dimension ne ih =>
      cases ne with
      | nil => cases h; simp
      | cons outer ne =>
          simp only [outerStrides, except_bind_ok_iff, okOr_eq_ok, checkedMul_eq_some] at h
          obtain ⟨next, ⟨-, rfl⟩, rest, hrest, hlast⟩ := h
          cases hlast
          have htail := ih hrest (List.cons_ne_nil outer ne)
          simp only [List.length_cons, Nat.add_sub_cancel, List.getD_cons_succ] at htail ⊢
          rw [htail, List.prod_cons (a := dimension), Nat.mul_assoc]

theorem computeStrides_eq_ok {ne strides : List Nat} {ty : GgmlType}
    (h : computeStrides ne ty = .ok strides) :
    (1 ≤ ne.length ∧ ne.length ≤ 4) ∧ (∀ dimension ∈ ne, dimension ≠ 0) ∧
      ∃ row outer, ty.rowSize (ne.headD 1) = .ok row ∧ outerStrides row ne.tail = .ok outer ∧
      strides = ty.typeSize :: outer := by
  simp only [computeStrides, except_bind_ok_iff, ensure_eq_ok, exists_const,
    checkDimensions_eq_ok] at h
  obtain ⟨hrank, hdimensions, row, hrow, outer, houter, hlast⟩ := h
  cases hlast
  exact ⟨hrank, hdimensions, row, outer, hrow, houter, rfl⟩

/-- `TensorDesc`. Its strides are those of its shape. -/
structure TensorDesc where
  name : String
  shape : List Nat
  ty : GgmlType
  relativeOffset : Nat
  strides : List Nat
  computed : computeStrides shape ty = .ok strides
  deriving DecidableEq

namespace TensorDesc

def new (name : String) (shape : List Nat) (ty : GgmlType) (relativeOffset : Nat) :
    Except CoreError TensorDesc := do
  ensure (shape.length < 2 ^ 32) (.invalidTensorRank (2 ^ 32 - 1))
  ensure (1 ≤ shape.length ∧ shape.length ≤ 4) (.invalidTensorRank shape.length)
  checkDimensions 0 shape
  match computed : computeStrides shape ty with
  | .error error => .error error
  | .ok strides => .ok { name, shape, ty, relativeOffset, strides, computed }

def rowBytes (desc : TensorDesc) : Except CoreError Nat := desc.ty.rowSize (desc.shape.headD 1)

def encodedBytes (desc : TensorDesc) : Except CoreError Nat :=
  if desc.shape.length = 1 then desc.rowBytes
  else
    let last := desc.shape.length - 1
    okOr (checkedMul (desc.strides.getD last 0) (desc.shape.getD last 1))
      (.arithmeticOverflow "tensor encoded byte length")

/-- `checked_absolute_range`: where the payload starts and ends in a file. -/
def checkedAbsoluteRange (desc : TensorDesc) (dataOffset fileLen : Nat) :
    Except CoreError (Nat × Nat) := do
  let start ← okOr (checkedAdd dataOffset desc.relativeOffset)
    (.arithmeticOverflow "tensor absolute offset")
  let bytes ← desc.encodedBytes
  let stop ← okOr (checkedAdd start bytes) (.arithmeticOverflow "tensor absolute end offset")
  ensure (stop ≤ fileLen) (.tensorOutOfBounds start stop fileLen)
  pure (start, stop)

theorem new_eq_ok {name : String} {shape : List Nat} {ty : GgmlType} {offset : Nat}
    {desc : TensorDesc} :
    new name shape ty offset = .ok desc ↔
      desc.name = name ∧ desc.shape = shape ∧ desc.ty = ty ∧ desc.relativeOffset = offset := by
  constructor
  · intro h
    simp only [new, except_bind_ok_iff] at h
    obtain ⟨_, -, _, -, _, -, h⟩ := h
    split at h
    · cases h
    · cases h
      exact ⟨rfl, rfl, rfl, rfl⟩
  · rintro ⟨rfl, rfl, rfl, rfl⟩
    obtain ⟨hrank, hdimensions, -⟩ := computeStrides_eq_ok desc.computed
    simp only [new, except_bind_ok_iff, ensure_eq_ok, exists_const, checkDimensions_eq_ok]
    refine ⟨by omega, hrank, hdimensions, ?_⟩
    split
    · rename_i error herror
      rw [desc.computed] at herror
      cases herror
    · rename_i strides hstrides
      rw [desc.computed] at hstrides
      cases hstrides
      rfl

/-- The bytes of the payload, as one product. -/
def payloadBytes (desc : TensorDesc) : Nat := desc.shape.prod / desc.ty.blockSize * desc.ty.typeSize

variable (desc : TensorDesc)

theorem shape_eq : ∃ ne0 ne, desc.shape = ne0 :: ne ∧ desc.ty.blockSize ∣ ne0 := by
  obtain ⟨hrank, -, row, -, hrow, -⟩ := computeStrides_eq_ok desc.computed
  cases hshape : desc.shape with
  | nil => rw [hshape] at hrank; cases hrank.1
  | cons ne0 ne =>
      rw [hshape] at hrow
      exact ⟨ne0, ne, rfl, (GgmlType.rowSize_eq_ok.mp hrow).1⟩

theorem dvd_prod_shape : desc.ty.blockSize ∣ desc.shape.prod := by
  obtain ⟨ne0, ne, hshape, hblock⟩ := desc.shape_eq
  rw [hshape, List.prod_cons]
  exact hblock.mul_right _

/-- The payload is as long as its dimensions say, and is computed without a wrap. -/
theorem encodedBytes_eq_ok {bytes : Nat} :
    desc.encodedBytes = .ok bytes ↔ desc.payloadBytes ≤ usizeMax ∧ bytes = desc.payloadBytes := by
  obtain ⟨-, -, row, outer, hrow, houter, hstrides⟩ := computeStrides_eq_ok desc.computed
  obtain ⟨ne0, ne, hshape, hblock⟩ := desc.shape_eq
  rw [hshape] at hrow houter
  obtain ⟨-, -, rfl⟩ := GgmlType.rowSize_eq_ok.mp hrow
  have hpayload : desc.payloadBytes = ne0 / desc.ty.blockSize * desc.ty.typeSize * ne.prod := by
    rw [payloadBytes, hshape, List.prod_cons, Nat.mul_comm ne0, Nat.mul_div_assoc _ hblock]
    ring
  cases ne with
  | nil =>
      rw [List.prod_nil, Nat.mul_one] at hpayload
      rw [encodedBytes, hshape, if_pos List.length_singleton, rowBytes, hshape,
        GgmlType.rowSize_eq_ok, hpayload]
      exact ⟨fun h => h.2, fun h => ⟨hblock, h⟩⟩
  | cons ne1 ne =>
      have hlast := outerStrides_last houter (List.cons_ne_nil ne1 ne)
      simp only [List.headD_cons, List.tail_cons, List.length_cons, Nat.add_sub_cancel] at hlast
      rw [encodedBytes, hshape, hstrides, if_neg (by simp), okOr_eq_ok, checkedMul_eq_some]
      simp only [List.length_cons, Nat.add_sub_cancel, List.getD_cons_succ]
      rw [hlast, hpayload]

theorem checkedAbsoluteRange_eq_ok {dataOffset fileLen : Nat} {range : Nat × Nat}
    (hfile : fileLen ≤ usizeMax) :
    desc.checkedAbsoluteRange dataOffset fileLen = .ok range ↔
      dataOffset + desc.relativeOffset + desc.payloadBytes ≤ fileLen ∧
        range = (dataOffset + desc.relativeOffset,
          dataOffset + desc.relativeOffset + desc.payloadBytes) := by
  simp only [checkedAbsoluteRange, except_bind_ok_iff, okOr_eq_ok, checkedAdd_eq_some,
    encodedBytes_eq_ok, ensure_eq_ok]
  constructor
  · rintro ⟨_, ⟨-, rfl⟩, _, ⟨-, rfl⟩, _, ⟨-, rfl⟩, _, hstop, h⟩
    cases h
    exact ⟨hstop, rfl⟩
  · rintro ⟨hstop, rfl⟩
    exact ⟨_, ⟨by omega, rfl⟩, _, ⟨by omega, rfl⟩, _, ⟨by omega, rfl⟩, (), hstop, rfl⟩

end TensorDesc
end LightBridge

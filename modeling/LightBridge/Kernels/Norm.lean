import LightBridge.Foundation.Slices
import LightBridge.Kernels.Numeric

/-! Norms, residuals and rotary positions. Each answers the values its source writes; the
source checks all of them before it writes the first. -/
namespace LightBridge.Kernels
open Foundation

def validateNormLengths (input weight : List F32) : Except KernelError Unit := do
  ensure (input ≠ []) (.invalidParameter "RMSNorm input" "must not be empty")
  ensure (weight.length = input.length)
    (.dimensionMismatch "RMSNorm weight" input.length weight.length)

def validateEpsilon (N : Numerics) (epsilon : F32) : Except KernelError Unit := do
  validateFiniteValue "RMSNorm epsilon" 0 epsilon
  ensure (N.le epsilon .zero = false)
    (.invalidParameter "RMSNorm epsilon" "must be greater than zero")

def validateNormCall (N : Numerics) (input weight : List F32) (epsilon : F32) (outputLength : Nat) :
    Except KernelError Unit := do
  validateNormLengths input weight
  ensure (outputLength = input.length)
    (.dimensionMismatch "RMSNorm output" input.length outputLength)
  validateEpsilon N epsilon
  validateFiniteSlice "RMSNorm input" input
  validateFiniteSlice "RMSNorm weight" weight

def rmsScale (N : Numerics) (values : List F32) (epsilon : F32) : Except KernelError F32 := do
  let sum := values.foldl (fun sum value => N.add sum (N.mul value value)) .zero
  let mean := N.div sum (N.ofNat values.length)
  let scale := N.div one (N.sqrt (N.add mean epsilon))
  validateFiniteValue "RMSNorm scale" 0 scale
  pure scale

/-- `value * scale * weight` for every pair. -/
def scaled (N : Numerics) (scale : F32) (values weight : List F32) : List F32 :=
  List.zipWith (fun value weight => N.mul (N.mul value scale) weight) values weight

def weightedRmsNorm (N : Numerics) (input weight : List F32) (epsilon : F32) (outputLength : Nat) :
    Except KernelError (List F32) := do
  validateNormCall N input weight epsilon outputLength
  let scale ← rmsScale N input epsilon
  validateFiniteSlice "RMSNorm output" (scaled N scale input weight)
  pure (scaled N scale input weight)

theorem weightedRmsNorm_length {N : Numerics} {input weight values : List F32} {epsilon : F32}
    {outputLength : Nat}
    (h : weightedRmsNorm N input weight epsilon outputLength = .ok values) :
    values.length = outputLength := by
  unfold weightedRmsNorm validateNormCall validateNormLengths at h
  simp only [except_bind_ok_iff, ensure_eq_ok] at h
  obtain ⟨_, hcall, _, -, _, -, h⟩ := h
  cases h
  simp only [scaled, List.length_zipWith]
  omega

/-- `values.chunks(width)`. -/
def chunks (width : Nat) (values : List F32) : List (List F32) :=
  (List.range (values.length / width)).map fun index => slice values (index * width) width

def weightedHeadRmsNorm (N : Numerics) (values weight : List F32) (headDimension : Nat)
    (epsilon : F32) :
    Except KernelError (List F32) := do
  ensure (headDimension ≠ 0) (.invalidParameter "head_dimension" "must be greater than zero")
  ensure (weight.length = headDimension)
    (.dimensionMismatch "per-head RMSNorm weight" headDimension weight.length)
  ensure (values.length % headDimension = 0)
    (.dimensionMismatch "per-head RMSNorm values" headDimension values.length)
  validateEpsilon N epsilon
  validateFiniteSlice "per-head RMSNorm input" values
  validateFiniteSlice "per-head RMSNorm weight" weight
  let heads ← (chunks headDimension values).mapM fun head => do
    let scale ← rmsScale N head epsilon
    validateFiniteSlice "per-head RMSNorm output" (scaled N scale head weight)
    pure (scaled N scale head weight)
  pure heads.flatten

def residualAdd (N : Numerics) (destination residual : List F32) :
    Except KernelError (List F32) := do
  ensure (destination.length = residual.length)
    (.dimensionMismatch "residual" destination.length residual.length)
  validateFiniteSlice "residual destination" destination
  validateFiniteSlice "residual source" residual
  let sums := List.zipWith N.add destination residual
  validateFiniteSlice "residual output" sums
  pure sums

theorem residualAdd_length {N : Numerics} {destination residual sums : List F32}
    (h : residualAdd N destination residual = .ok sums) : sums.length = destination.length := by
  simp only [residualAdd, except_bind_ok_iff, ensure_eq_ok] at h
  obtain ⟨_, hlength, _, -, _, -, _, -, h⟩ := h
  cases h
  rw [List.length_zipWith, ← hlength, Nat.min_self]

/-! ### Rotary positions -/

structure Hy3RopeParams where
  headDimension : Nat
  contextLength : Nat
  originalContextLength : Nat
  frequencyBase : F32
  frequencyScale : F32
  extensionFactor : F32
  attentionFactor : F32
  betaFast : F32
  betaSlow : F32
  deriving DecidableEq, Repr

namespace Hy3RopeParams

/-- The fields that `validate` requires to be finite, in its order. -/
def fields (params : Hy3RopeParams) : List (String × F32) :=
  [("RoPE frequency base", params.frequencyBase), ("RoPE frequency scale", params.frequencyScale),
    ("RoPE extension factor", params.extensionFactor),
    ("RoPE attention factor", params.attentionFactor), ("RoPE beta fast", params.betaFast),
    ("RoPE beta slow", params.betaSlow)]

/-- `for (field, value) in fields { validate_finite_value(field, 0, value)?; }`. -/
def validateFields : List (String × F32) → Except KernelError Unit
  | [] => .ok ()
  | (field, value) :: fields => do
      validateFiniteValue field 0 value
      validateFields fields

def validate (N : Numerics) (params : Hy3RopeParams) : Except KernelError Unit := do
  ensure (params.headDimension ≠ 0 ∧ params.headDimension % 2 = 0)
    (.invalidParameter "RoPE head dimension" "must be positive and even")
  ensure (params.contextLength ≠ 0 ∧ params.originalContextLength ≠ 0)
    (.invalidParameter "RoPE context" "must be positive")
  validateFields params.fields
  ensure (¬ (N.le params.frequencyBase .zero || N.le params.frequencyScale .zero || N.lt
    params.extensionFactor .zero ||
      N.le params.attentionFactor .zero || N.le params.betaFast .zero || N.le
      params.betaSlow .zero))
    (.invalidParameter "RoPE parameters"
      "base, scale, attention, and betas must be positive; extension must be non-negative")

end Hy3RopeParams

/-- `2.0_f32`, `-2.0_f32`, `0.1_f32`, `0.001_f32` and `std::f32::consts::PI`. -/
def two : F32 := .fromBits 0x40000000
def minusTwo : F32 := .fromBits 0xc0000000
def tenth : F32 := .fromBits 0x3dcccccd
def thousandth : F32 := .fromBits 0x3a83126f
def pi : F32 := .fromBits 0x40490fdb

/-- The closure `correction`. -/
def correction (N : Numerics) (params : Hy3RopeParams) (rotations : F32) : F32 :=
  N.div (N.mul (N.ofNat params.headDimension)
    (N.ln (N.div (N.ofNat params.originalContextLength) (N.mul (N.mul rotations two) pi))))
    (N.mul two (N.ln params.frequencyBase))

def correctionDimensions (N : Numerics) (params : Hy3RopeParams) : F32 × F32 :=
  (N.max (N.floor (correction N params params.betaFast)) .zero,
    N.min (N.ceil (correction N params params.betaSlow)) (N.sub (N.ofNat params.headDimension) one))

/-- `value.clamp(0.0, 1.0)`. -/
def clampUnit (N : Numerics) (value : F32) : F32 :=
  if N.lt value .zero then .zero else if N.lt one value then one else value

def yarnRamp (N : Numerics) (low high : F32) (i0 : Nat) : F32 :=
  N.sub one (clampUnit N (N.div (N.sub (N.ofNat (i0 / 2)) low) (N.max (N.sub high low) thousandth)))

/-- The cosine and sine of every pair of one head, with `theta_extrapolated` carried along. -/
def ropeAngles (N : Numerics) (params : Hy3RopeParams) (thetaScale magnitudeScale : F32) :
    F32 → Nat → Nat → List (F32 × F32)
  | _, _, 0 => []
  | thetaExtrapolated, pair, remaining + 1 =>
      let bounds := correctionDimensions N params
      let thetaInterpolated := N.mul params.frequencyScale thetaExtrapolated
      let mix := N.mul (yarnRamp N bounds.1 bounds.2 (pair * 2)) params.extensionFactor
      let theta := N.add (N.mul thetaInterpolated (N.sub one mix)) (N.mul thetaExtrapolated mix)
      (N.mul (N.cos theta) magnitudeScale, N.mul (N.sin theta) magnitudeScale) ::
        ropeAngles N params thetaScale magnitudeScale (N.mul thetaExtrapolated thetaScale)
          (pair + 1) remaining

/-- One pair of a head, turned and checked. -/
def rotatePair (N : Numerics) (half : Nat) (head : List F32) (pair : Nat) (angle : F32 × F32) :
    Except KernelError (F32 × F32) := do
  let first := head.getD pair .zero
  let second := head.getD (pair + half) .zero
  let low := N.sub (N.mul first angle.1) (N.mul second angle.2)
  let high := N.add (N.mul first angle.2) (N.mul second angle.1)
  validateFiniteValue "RoPE output" pair low
  validateFiniteValue "RoPE output" (pair + half) high
  pure (low, high)

def rotateHead (N : Numerics) (half : Nat) (angles : List (F32 × F32)) (head : List F32) :
    Except KernelError (List F32) := do
  let pairs ← angles.zipIdx.mapM fun (angle, pair) => rotatePair N half head pair angle
  pure (pairs.map Prod.fst ++ pairs.map Prod.snd)

def applyNeoxYarnRope (N : Numerics) (values : List F32) (headCount position : Nat)
    (params : Hy3RopeParams) :
    Except KernelError (List F32) := do
  params.validate N
  ensure (position < params.contextLength) (.positionOutOfRange position params.contextLength)
  let expected ← checkedProduct headCount params.headDimension "RoPE head value count"
  ensure (values.length = expected) (.dimensionMismatch "RoPE values" expected values.length)
  validateFiniteSlice "RoPE input" values
  let thetaScale := N.powf params.frequencyBase (N.div minusTwo (N.ofNat params.headDimension))
  let magnitudeScale :=
    if N.eq params.extensionFactor .zero then params.attentionFactor
    else N.mul params.attentionFactor
      (N.add one (N.mul tenth (N.ln (N.div one params.frequencyScale))))
  let half := params.headDimension / 2
  let angles := ropeAngles N params thetaScale magnitudeScale (N.ofNat position) 0 half
  let heads ← (chunks params.headDimension values).mapM (rotateHead N half angles)
  pure heads.flatten

end LightBridge.Kernels

import LightBridge.Foundation.Lanes
import LightBridge.Quant.Range
import Mathlib.Tactic.Ring

/-! The AVX2 path of the products of packed rows. Its registers wrap and hold eight sums at a time,
and it answers what the scalar path does. -/
namespace LightBridge.Quant
open Foundation Kernels
open Finset (mem_range mul_sum range sum_comm sum_congr sum_range_succ)

/-! ### Registers -/

/-- The bytes behind an offset. -/
def bytesFrom (bytes : List UInt8) (offset place : Nat) : BitVec 8 :=
  (byteAt bytes (offset + place)).toBitVec

/-- `product_i16`: the products of sixteen bytes. -/
def productI16 (weights activations : Nat → BitVec 8) (offset : Nat) : Lanes (8 + 8) 16 :=
  ((Lanes.load weights offset : Lanes 16 8).widen 16).mulLow
    ((Lanes.load activations offset).widen 16)

/-- `lane_sums_i8_32`, its register. -/
def laneSumsRegister (weights activations : Nat → BitVec 8) : Lanes 8 32 :=
  [0, 16].foldl (fun accumulated offset =>
    (accumulated.add ((productI16 weights activations offset).lower.widen 32)).add
      ((productI16 weights activations offset).upper.widen 32)) (Lanes.splat 0)

/-- `lane_sums_i8_32`. -/
def laneSumsI8X32 (weights activations : Nat → BitVec 8) : List Int :=
  (laneSumsRegister weights activations).store

/-- `lanes.into_iter().sum()`. -/
def sumLanes (lanes : List Int) : Option Int := lanes.foldlM addI32 0

/-- `dot_i8_32`. -/
def dotI8X32 (weights activations : Nat → BitVec 8) : Option Int :=
  sumLanes (laneSumsI8X32 weights activations)

/-- `dot_i8_16`. -/
def dotI8X16 (weights activations : Nat → BitVec 8) : Option Int :=
  sumLanes (Lanes.mulAdd (n := 8) 32 (productI16 weights activations 0) (Lanes.splat 1)).store

/-! ### Products -/

/-- One of the lane sums of `dot_q4_or_q5_k_avx2`. -/
def laneSumAvx2 (quants weight activation : List UInt8) (lane : Nat) : Option Int :=
  (List.range 8).foldlM (fun sum index => accumulate sum
    (mulI32 (scaleMin (slice weight 4 12) index).1.toNat
      ((laneSumsI8X32 (bytesFrom quants (index * 32))
        (bytesFrom activation (4 + index * 32))).getD lane 0))) 0

/-- One block of `dot_q4_or_q5_k_avx2`, on the lane sums and the sum. -/
def dotScaledBlockAvx2 (A : Floats) (quants : List UInt8 → List UInt8) (blockBytes : Nat)
    (weights q8 : List UInt8) (total : List F32 × F32) (block : Nat) : Option (List F32 × F32) := do
  let weight := slice weights (block * blockBytes) blockBytes
  let activation := slice q8 (block * q8KBlockBytes) q8KBlockBytes
  let minimum ← minimumSum weight activation
  let lanes ← (List.range 8).mapM (laneSumAvx2 (quants weight) weight activation)
  let activationScale := readF32 activation 0
  let scale := A.mul (readF16 A weight 0) activationScale
  let minimumScale := A.mul (readF16 A weight 2) activationScale
  pure ((total.1.zip lanes).map fun lane => A.add lane.1 (A.mul scale (A.ofInt lane.2)),
    A.sub total.2 (A.mul minimumScale (A.ofInt minimum)))

def dotQ4OrQ5KAvx2 (A : Floats) (quants : List UInt8 → List UInt8) (blockBytes : Nat)
    (weights q8 : List UInt8) (blockCount : Nat) : Option F32 := do
  let (sums, sum) ← (List.range blockCount).foldlM
    (dotScaledBlockAvx2 A quants blockBytes weights q8) (List.replicate 8 F32.zero, F32.zero)
  pure (sums.foldl A.add sum)

/-- `-magnitude` of an `i8`. -/
def negI8 (magnitude : BitVec 8) : Option (BitVec 8) :=
  (signed 8 (-magnitude.toInt)).map (BitVec.ofInt 8)

/-- A lane of `signed_grid`, of a codebook value that is taken for an `i8`. -/
def signedLane (grid : Nat) (negative : Bool) : Option (BitVec 8) :=
  if negative then negI8 (BitVec.ofNat 8 grid) else some (BitVec.ofNat 8 grid)

/-- `signed_grid` of a group of `dot_iq2_s_avx2`. -/
def iq2sSignedGrid (weight : List UInt8) (group : Nat) : Option (List (BitVec 8)) :=
  (List.range 32).mapM fun place =>
    signedLane (gridByte iq2sGrid (iq2sIndex weight group (place / 8)) (place % 8))
      (negated (iq2sSigns weight group (place / 8)) (place % 8))

/-- `signed_grid` of a group of `dot_iq3_s_avx2`. -/
def iq3sSignedGrid (weight : List UInt8) (group : Nat) : Option (List (BitVec 8)) :=
  (List.range 32).mapM fun place =>
    signedLane
      (gridByte iq3sGrid (iq3sIndex weight group (place / 8) (place % 8 / 4)) (place % 4))
      (negated (iq3sSigns weight group (place / 8)) (place % 8))

def gridFrom (grid : List (BitVec 8)) (offset place : Nat) : BitVec 8 :=
  grid.getD (offset + place) 0

def iq2sBlockSumAvx2 (weight activation : List UInt8) : Option Int :=
  (List.range 8).foldlM (fun sum group => do
    let packedScale := byteAt weight (74 + group)
    let signedGrid ← iq2sSignedGrid weight group
    let sum1 ← dotI8X16 (gridFrom signedGrid 0) (bytesFrom activation (4 + group * 32))
    let sum2 ← dotI8X16 (gridFrom signedGrid 16) (bytesFrom activation (4 + group * 32 + 16))
    accumulate sum do
      let first ← mulI32 (1 + 2 * nibble packedScale 0 : Nat) sum1
      let second ← mulI32 (1 + 2 * nibble packedScale 1 : Nat) sum2
      addI32 first second) 0

def iq3sBlockSumAvx2 (weight activation : List UInt8) : Option Int :=
  (List.range 8).foldlM (fun sum group => do
    let signedGrid ← iq3sSignedGrid weight group
    let groupSum ← dotI8X32 (gridFrom signedGrid 0) (bytesFrom activation (4 + group * 32))
    accumulate sum
      (mulI32 groupSum (2 * nibble (byteAt weight (106 + group / 2)) (group % 2) + 1 : Nat))) 0

/-- `dot_avx2`; its last branch is the `unreachable!` of the source. -/
def dotAvx2 (A : Floats) (weightType : GgmlType) (weights q8 : List UInt8) (blockCount : Nat) :
    Option F32 :=
  match weightType with
  | .q4K => dotQ4OrQ5KAvx2 A q4Quants 144 weights q8 blockCount
  | .q5K => dotQ4OrQ5KAvx2 A q5Quants 176 weights q8 blockCount
  | .iq2S => (dotGrid A iq2sBlockSumAvx2 82 weights q8 blockCount).map (A.mul eighth)
  | .iq3S => dotGrid A iq3sBlockSumAvx2 110 weights q8 blockCount
  | _ => none

/-- `vec_dot_q8_k_cpu`, on a processor with AVX2 or without. -/
def vecDotQ8KCpu (avx2 : Bool) (A : Floats) (weightType : GgmlType) (weights q8 : List UInt8)
    (logicalElements : Nat) : Except (Fault QuantError) F32 := do
  let blockCount ← wrap Fault.error (validateVecDotInner weightType weights q8 logicalElements)
  if avx2 then okOr (dotAvx2 A weightType weights q8 blockCount) .panicked
  else okOr (dotScalar A weightType weights q8 blockCount) .panicked

/-! ### What the registers hold -/

section Registers
variable (weights activations : Nat → BitVec 8)

/-- The product of two bytes at one place. -/
def productAt (place : Nat) : Int := (weights place).toInt * (activations place).toInt

theorem productI16_holds (offset : Nat) :
    (productI16 weights activations offset).Holds
      (fun lane => productAt weights activations (offset + lane)) (128 * 128) := by
  have hweights : (Lanes.load weights offset : Lanes 16 8).Holds _ 128 :=
    Lanes.Holds.load (fun place => natAbs_toInt_le (weights place)) offset
  have hactivations : (Lanes.load activations offset : Lanes 16 8).Holds _ 128 :=
    Lanes.Holds.load (fun place => natAbs_toInt_le (activations place)) offset
  exact (hweights.widen (by decide)).mulLow (hactivations.widen (by decide)) (by decide) (by decide)

/-- Every lane holds four products. -/
theorem laneSumsRegister_holds :
    (laneSumsRegister weights activations).Holds
      (fun lane => ∑ step ∈ range 4, productAt weights activations (step * 8 + lane)) 65536 := by
  have hzero : (Lanes.splat 0 : Lanes 8 32).Holds (fun _ => (0 : BitVec 32).toInt) 0 :=
    Lanes.Holds.splat (by decide)
  have hlower (offset : Nat) :=
    ((productI16_holds weights activations offset).lower).widen (by decide : 16 ≤ 32)
  have hupper (offset : Nat) :=
    ((productI16_holds weights activations offset).upper).widen (by decide : 16 ≤ 32)
  have hfirst := (hzero.add (hlower 0) (by decide) (by decide)).add (hupper 0) (by decide)
    (by decide)
  have hsecond := (hfirst.add (hlower 16) (by decide) (by decide)).add (hupper 16) (by decide)
    (by decide)
  refine hsecond.congr fun lane _ => ?_
  have hplace : 16 + (8 + lane) = 24 + lane := by omega
  simp [sum_range_succ, hplace]

/-- The eight sums of neighbours hold the sixteen products. -/
theorem mulAdd_holds :
    (Lanes.mulAdd (n := 8) 32 (productI16 weights activations 0) (Lanes.splat 1)).Holds
      (fun lane => ∑ side ∈ range 2, productAt weights activations (lane * 2 + side)) 32768 := by
  have hone : (Lanes.splat 1 : Lanes (8 + 8) 16).Holds (fun _ => (1 : BitVec 16).toInt) 1 :=
    Lanes.Holds.splat (by decide)
  refine ((productI16_holds weights activations 0).mulAdd hone (by decide) (by decide)
    (by decide)).congr fun lane _ => ?_
  simp [sum_range_succ, Nat.mul_comm lane 2]

end Registers

/-- The lanes of a register add up without an overflow. -/
theorem bounded_sumLanes {v : Lanes 8 32} {x : Nat → Int} (bound : Nat) (h : v.Holds x bound)
    (hroom : 8 * bound < 2 ^ 31) :
    Bounded (sumLanes v.store) (∑ lane ∈ range 8, x lane) (8 * bound) := by
  have hvalues : ∀ value ∈ (List.range 8).map x, value.natAbs ≤ bound := by
    intro value hvalue
    obtain ⟨lane, hlane, rfl⟩ := List.mem_map.mp hvalue
    exact h.le ⟨lane, List.mem_range.mp hlane⟩
  have hstep : ∀ value ∈ (List.range 8).map x, ∀ sum : Int, sum.natAbs + bound ≤ 8 * bound →
      Bounded (addI32 sum value) (sum + id value) (sum.natAbs + bound) := by
    intro value hvalue sum hsum
    exact Bounded.add (Nat.le_refl _) (hvalues value hvalue) (by omega)
  have hsum : Bounded (((List.range 8).map x).foldlM addI32 0) _ _ :=
    Bounded.foldlM bound (8 * bound) hstep (by simp)
  rw [sumLanes, h.store_eq, ← sum_map_range]
  simpa using hsum

/-- `dot_i8_32` answers the sum of the 32 products. -/
theorem bounded_dotI8X32 (weights activations : Nat → BitVec 8) :
    Bounded (dotI8X32 weights activations)
      (∑ place ∈ range 32, productAt weights activations place) 524288 := by
  have hsum := bounded_sumLanes 65536 (laneSumsRegister_holds weights activations) (by decide)
  rwa [sum_comm, ← sum_range_blocks 4 8 (productAt weights activations)] at hsum

/-- `dot_i8_16` answers the sum of the 16 products. -/
theorem bounded_dotI8X16 (weights activations : Nat → BitVec 8) :
    Bounded (dotI8X16 weights activations)
      (∑ place ∈ range 16, productAt weights activations place) 262144 := by
  have hsum := bounded_sumLanes 32768 (mulAdd_holds weights activations) (by decide)
  rwa [← sum_range_blocks 8 2 (productAt weights activations)] at hsum

/-! ### Scaled rows -/

theorem option_mapM_congr {α β : Type} {f g : α → Option β} {xs : List α}
    (h : ∀ x ∈ xs, f x = g x) : xs.mapM f = xs.mapM g := by
  induction xs with
  | nil => rfl
  | cons x xs ih =>
      obtain ⟨hfirst, hrest⟩ := List.forall_mem_cons.mp h
      rw [List.mapM_cons, List.mapM_cons, hfirst, ih hrest]

/-- A lane of `lane_sums` gets its scale after its four products are added up. -/
theorem laneSumAvx2_eq (quants weight activation : List UInt8) {lane : Nat} (hlane : lane < 8) :
    laneSumAvx2 quants weight activation lane = laneSum quants weight activation lane := by
  have hraw (index : Nat) : (laneSumsI8X32 (bytesFrom quants (index * 32))
      (bytesFrom activation (4 + index * 32))).getD lane 0 =
      ∑ step ∈ range 4, productAt (bytesFrom quants (index * 32))
        (bytesFrom activation (4 + index * 32)) (step * 8 + lane) := by
    rw [laneSumsI8X32, (laneSumsRegister_holds _ _).store_eq]
    simp [List.getD_eq_getElem?_getD, hlane]
  have hsum : Bounded (laneSumAvx2 quants weight activation lane)
      (0 + ((List.range 8).map fun index => ((scaleMin (slice weight 4 12) index).1.toNat : Int) *
        ∑ step ∈ range 4, productAt (bytesFrom quants (index * 32))
          (bytesFrom activation (4 + index * 32)) (step * 8 + lane)).sum) 33030144 := by
    refine Bounded.mono (Bounded.foldlM 4128768 33030144 (fun index _ sum hsum => ?_) (by decide))
      (by decide)
    rw [hraw index]
    refine bounded_accumulate (63 * 65536) (bounded_mulI32 63 65536 ?_ ?_ (by decide)) (by omega)
    · exact natAbs_sixBits_le (scaleMin_le _ _).1
    · exact (laneSumsRegister_holds _ _).le ⟨lane, hlane⟩
  rw [hsum.answers, (bounded_laneSum quants weight activation lane).answers]
  congr 2
  refine congrArg List.sum (List.map_congr_left fun index _ => ?_)
  rw [sum_map_range, mul_sum]
  refine sum_congr rfl fun step _ => ?_
  have hquant : index * 32 + (step * 8 + lane) = index * 32 + step * 8 + lane :=
    (Nat.add_assoc _ _ _).symm
  have hactivation : 4 + index * 32 + (step * 8 + lane) = 4 + (index * 32 + step * 8 + lane) := by
    omega
  rw [laneTerm, productAt, bytesFrom, bytesFrom, activationAt, asI8, asI8, hquant, hactivation]
  ring

theorem dotScaledBlockAvx2_eq (A : Floats) (quants : List UInt8 → List UInt8) (blockBytes : Nat)
    (weights q8 : List UInt8) :
    dotScaledBlockAvx2 A quants blockBytes weights q8 =
      dotScaledBlock A quants blockBytes weights q8 := by
  funext total block
  have hlanes (weight activation : List UInt8) :
      (List.range 8).mapM (laneSumAvx2 (quants weight) weight activation) =
        (List.range 8).mapM (laneSum (quants weight) weight activation) :=
    option_mapM_congr fun lane hlane => laneSumAvx2_eq _ _ _ (List.mem_range.mp hlane)
  rw [dotScaledBlockAvx2, dotScaledBlock]
  simp only [hlanes]

/-! ### Codebook rows -/

/-- A lane of a signed codebook. -/
def signedByte (grid : Nat) (negative : Bool) : BitVec 8 :=
  BitVec.ofInt 8 (if negative then -grid else grid)

theorem toInt_signedByte {grid : Nat} (h : grid < 128) (negative : Bool) :
    (signedByte grid negative).toInt = if negative then -(grid : Int) else grid := by
  rw [signedByte, BitVec.toInt_ofInt]
  exact bmod_of_natAbs_lt (by cases negative <;> simp <;> omega) (by decide)

/-- No codebook value is negated out of its byte. -/
theorem signedLane_eq {grid : Nat} (h : grid < 128) (negative : Bool) :
    signedLane grid negative = some (signedByte grid negative) := by
  cases negative with
  | false => exact congrArg some (BitVec.ofInt_natCast 8 grid).symm
  | true =>
      have hmagnitude : (BitVec.ofNat 8 grid).toInt = grid := by
        rw [← BitVec.ofInt_natCast]
        exact toInt_signedByte h false
      have hfits : signed 8 (-(grid : Int)) = some (-(grid : Int)) :=
        signed_of_natAbs_lt (by simpa using h)
      rw [signedLane, if_pos rfl, negI8, hmagnitude, hfits]
      rfl

/-- The magnitudes of a codebook are below 128. -/
theorem gridByte_small {grid : Array Nat} {lanes : Nat}
    (h : ∀ entry ∈ grid.toList, ∀ lane < lanes, entry / 256 ^ lane % 256 < 128) (index : Nat)
    {lane : Nat} (hlane : lane < lanes) : gridByte grid index lane < 128 := by
  rw [gridByte, Array.getD_eq_getD_getElem?]
  cases hentry : grid[index]? with
  | none => simp
  | some entry =>
      exact h entry (Array.mem_toList_iff.mpr (Array.mem_of_getElem? hentry)) lane hlane

theorem iq2sGrid_small (index : Nat) {lane : Nat} (hlane : lane < 8) :
    gridByte iq2sGrid index lane < 128 := gridByte_small (by decide +kernel) index hlane

theorem iq3sGrid_small (index : Nat) {lane : Nat} (hlane : lane < 4) :
    gridByte iq3sGrid index lane < 128 := gridByte_small (by decide +kernel) index hlane

/-- The 32 lanes of a group, none of which is refused. -/
theorem mapM_signedLane {grid : Nat → Nat} (h : ∀ place, grid place < 128)
    (negative : Nat → Bool) :
    (List.range 32).mapM (fun place => signedLane (grid place) (negative place)) =
      some ((List.range 32).map fun place => signedByte (grid place) (negative place)) := by
  simp only [signedLane_eq (h _)]
  exact List.mapM_pure

theorem toInt_gridFrom {grid : Nat → Nat} (h : ∀ place, grid place < 128) (negative : Nat → Bool)
    {offset place : Nat} (hplace : offset + place < 32) :
    (gridFrom ((List.range 32).map fun place => signedByte (grid place) (negative place)) offset
      place).toInt = if negative (offset + place) then -(grid (offset + place) : Int)
        else grid (offset + place) := by
  rw [gridFrom, List.getD_eq_getElem?_getD, List.getElem?_map, List.getElem?_range hplace]
  exact toInt_signedByte (h _) _

/-- A signed codebook value times an activation. -/
theorem signedValue_eq (activation : Int) (grid : Nat) (negative : Bool) :
    signedValue activation grid negative =
      (if negative then -(grid : Int) else grid) * activation := by
  cases negative <;> simp [signedValue, mul_comm]

theorem iq2sSignedGrid_eq (weight : List UInt8) (group : Nat) :
    iq2sSignedGrid weight group = some ((List.range 32).map fun place => signedByte
      (gridByte iq2sGrid (iq2sIndex weight group (place / 8)) (place % 8))
      (negated (iq2sSigns weight group (place / 8)) (place % 8))) :=
  mapM_signedLane (fun _ => iq2sGrid_small _ (Nat.mod_lt _ (by decide))) _

/-- Half a group of `IQ2_S`, by sixteen lanes at once. -/
theorem dotI8X16_iq2s (weight activation : List UInt8) (group : Nat) {half : Nat}
    (hhalf : half < 2) {grid : List (BitVec 8)} (hgrid : iq2sSignedGrid weight group = some grid) :
    dotI8X16 (gridFrom grid (half * 16)) (bytesFrom activation (4 + group * 32 + half * 16)) =
      iq2sHalfSum weight activation group half := by
  cases (iq2sSignedGrid_eq weight group).symm.trans hgrid
  rw [(bounded_dotI8X16 _ _).answers, (bounded_iq2sHalfSum weight activation group half).answers,
    iq2sHalf, sum_range_blocks 2 8, sum_map_range, zero_add]
  refine congrArg some (sum_congr rfl fun index hindex => ?_)
  rw [sum_map_range]
  refine sum_congr rfl fun lane hlane => ?_
  have hindex := mem_range.mp hindex
  have hlane := mem_range.mp hlane
  have hgroup : (half * 16 + (index * 8 + lane)) / 8 = half * 2 + index := by omega
  have hplace : (half * 16 + (index * 8 + lane)) % 8 = lane := by omega
  have hactivation : 4 + group * 32 + half * 16 + (index * 8 + lane) =
      4 + (group * 32 + (half * 2 + index) * 8 + lane) := by omega
  rw [productAt, toInt_gridFrom (fun _ => iq2sGrid_small _ (Nat.mod_lt _ (by decide))) _ (by omega),
    hgroup, hplace, bytesFrom, hactivation, iq2sTerm, signedValue_eq, activationAt, asI8]

theorem iq2sBlockSumAvx2_eq : iq2sBlockSumAvx2 = iq2sBlockSum := by
  funext weight activation
  unfold iq2sBlockSumAvx2 iq2sBlockSum
  congr 1
  funext sum group
  obtain ⟨grid, hgrid⟩ : ∃ grid, iq2sSignedGrid weight group = some grid :=
    ⟨_, iq2sSignedGrid_eq weight group⟩
  have hfirst := dotI8X16_iq2s weight activation group (by decide : 0 < 2) hgrid
  have hsecond := dotI8X16_iq2s weight activation group (by decide : 1 < 2) hgrid
  rw [Nat.zero_mul, Nat.add_zero] at hfirst
  rw [Nat.one_mul] at hsecond
  simp only [hgrid, Option.bind_eq_bind, Option.bind_some, hfirst, hsecond]

theorem iq3sSignedGrid_eq (weight : List UInt8) (group : Nat) :
    iq3sSignedGrid weight group = some ((List.range 32).map fun place => signedByte
      (gridByte iq3sGrid (iq3sIndex weight group (place / 8) (place % 8 / 4)) (place % 4))
      (negated (iq3sSigns weight group (place / 8)) (place % 8))) :=
  mapM_signedLane (fun _ => iq3sGrid_small _ (Nat.mod_lt _ (by decide))) _

/-- A group of `IQ3_S`, by 32 lanes at once. -/
theorem dotI8X32_iq3s (weight activation : List UInt8) (group : Nat) {grid : List (BitVec 8)}
    (hgrid : iq3sSignedGrid weight group = some grid) :
    dotI8X32 (gridFrom grid 0) (bytesFrom activation (4 + group * 32)) =
      iq3sGroupSum weight activation group := by
  cases (iq3sSignedGrid_eq weight group).symm.trans hgrid
  rw [(bounded_dotI8X32 _ _).answers, (bounded_iq3sGroupSum weight activation group).answers,
    iq3sGroup, sum_range_blocks 4 8, sum_map_range, zero_add]
  refine congrArg some (sum_congr rfl fun laneGroup hlaneGroup => ?_)
  rw [sum_map_range, sum_range_blocks 2 4, sum_comm]
  refine sum_congr rfl fun lane hlane => ?_
  rw [sum_map_range]
  refine sum_congr rfl fun side hside => ?_
  have hlaneGroup := mem_range.mp hlaneGroup
  have hside := mem_range.mp hside
  have hlane := mem_range.mp hlane
  have hgroup : (0 + (laneGroup * 8 + (side * 4 + lane))) / 8 = laneGroup := by omega
  have hsign : (0 + (laneGroup * 8 + (side * 4 + lane))) % 8 = side * 4 + lane := by omega
  have hlower : (side * 4 + lane) / 4 = side := by omega
  have hplace : (0 + (laneGroup * 8 + (side * 4 + lane))) % 4 = lane := by omega
  have hactivation : 4 + group * 32 + (laneGroup * 8 + (side * 4 + lane)) =
      4 + (group * 32 + laneGroup * 8 + (side * 4 + lane)) := by omega
  rw [productAt, toInt_gridFrom (fun _ => iq3sGrid_small _ (Nat.mod_lt _ (by decide))) _ (by omega),
    hgroup, hsign, hlower, hplace, bytesFrom, hactivation, iq3sTerm, signedValue_eq,
    activationAt, asI8]

theorem iq3sBlockSumAvx2_eq : iq3sBlockSumAvx2 = iq3sBlockSum := by
  funext weight activation
  unfold iq3sBlockSumAvx2 iq3sBlockSum
  congr 1
  funext sum group
  obtain ⟨grid, hgrid⟩ : ∃ grid, iq3sSignedGrid weight group = some grid :=
    ⟨_, iq3sSignedGrid_eq weight group⟩
  simp only [hgrid, Option.bind_eq_bind, Option.bind_some, dotI8X32_iq3s _ _ _ hgrid]

/-! ### The two paths -/

theorem dotAvx2_eq (A : Floats) : dotAvx2 A = dotScalar A := by
  funext weightType weights q8 blockCount
  have hscaled (quants : List UInt8 → List UInt8) (blockBytes : Nat) :
      dotQ4OrQ5KAvx2 A quants blockBytes weights q8 blockCount =
        dotQ4OrQ5K A quants blockBytes weights q8 blockCount := by
    rw [dotQ4OrQ5KAvx2, dotScaledBlockAvx2_eq, dotQ4OrQ5K]
  cases weightType with
  | q4K => exact hscaled q4Quants 144
  | q5K => exact hscaled q5Quants 176
  | iq2S => rw [dotAvx2, iq2sBlockSumAvx2_eq]; rfl
  | iq3S => rw [dotAvx2, iq3sBlockSumAvx2_eq]; rfl
  | _ => rfl

/-- A processor with AVX2 and one without answer every call with the same bits, and none of the
checked operations on the way overflows. -/
theorem vecDotQ8KCpu_agrees (A : Floats) (weightType : GgmlType) (weights q8 : List UInt8)
    (logicalElements : Nat) :
    vecDotQ8KCpu true A weightType weights q8 logicalElements =
        vecDotQ8KCpu false A weightType weights q8 logicalElements ∧
      vecDotQ8KCpu true A weightType weights q8 logicalElements =
        vecDotQ8K A weightType weights q8 logicalElements ∧
      vecDotQ8KCpu true A weightType weights q8 logicalElements ≠ .error .panicked := by
  have hsame (avx2 : Bool) : vecDotQ8KCpu avx2 A weightType weights q8 logicalElements =
      vecDotQ8K A weightType weights q8 logicalElements := by
    cases avx2 with
    | false => rfl
    | true => simp only [vecDotQ8KCpu, vecDotQ8K, dotAvx2_eq, if_true]
  refine ⟨(hsame true).trans (hsame false).symm, hsame true, ?_⟩
  rw [hsame true, vecDotQ8K]
  cases hvalid : validateVecDotInner weightType weights q8 logicalElements with
  | error e => simp [wrap]
  | ok blockCount =>
      obtain ⟨value, hvalue⟩ :=
        dotScalar_some A (validateVecDotInner_type hvalid) weights q8 blockCount
      rw [wrap, except_ok_bind, hvalue]
      simp [okOr]

end LightBridge.Quant

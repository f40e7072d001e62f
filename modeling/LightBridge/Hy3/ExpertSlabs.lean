import LightBridge.Foundation.Tiling
import LightBridge.Hy3.Loading

/-! The slabs of the experts in a tensor, and the matrices that the kernels see in them. -/
namespace LightBridge.Hy3
open Foundation Kernels ValidatedModel

/-- The types that a `PackedMatrix` has. -/
def supportedTypes : List GgmlType := [.f32, .q4K, .q5K, .iq2S, .iq3S]

/-- The bytes of a matrix. -/
def matrixBytes (ty : GgmlType) (inputWidth outputWidth : Nat) : Nat :=
  inputWidth / ty.blockSize * ty.typeSize * outputWidth

theorem matrixBytes_pos {ty : GgmlType} {inputWidth outputWidth : Nat} (hinput : inputWidth ≠ 0)
    (houtput : outputWidth ≠ 0)
    (block : ty.blockSize ∣ inputWidth) : 0 < matrixBytes ty inputWidth outputWidth := by
  have hblocks : 0 < inputWidth / ty.blockSize :=
    Nat.div_pos (Nat.le_of_dvd (Nat.pos_of_ne_zero hinput) block) ty.blockSize_pos
  have hsize : 0 < ty.typeSize := by
    cases ty <;> decide
  exact Nat.mul_pos (Nat.mul_pos hblocks hsize) (Nat.pos_of_ne_zero houtput)

/-- A matrix is made of exactly the bytes that its shape takes. -/
theorem fromParts_eq_ok {ty : GgmlType} (supported : ty ∈ supportedTypes)
    {inputWidth outputWidth : Nat} (hinput : inputWidth ≠ 0) (houtput : outputWidth ≠ 0)
    (block : ty.blockSize ∣ inputWidth) (fits : matrixBytes ty inputWidth outputWidth ≤ usizeMax)
    {bytes : List UInt8} {matrix : PackedMatrix} :
    PackedMatrix.fromParts ty .little inputWidth outputWidth bytes = .ok matrix ↔
      bytes.length = matrixBytes ty inputWidth outputWidth ∧
        matrix = ⟨ty, inputWidth, outputWidth, inputWidth / ty.blockSize * ty.typeSize, bytes⟩ := by
  have hpos : 0 < outputWidth := Nat.pos_of_ne_zero houtput
  have hrow : ty.rowSize inputWidth = .ok (inputWidth / ty.blockSize * ty.typeSize) :=
    GgmlType.rowSize_eq_ok.mpr ⟨block, (Nat.le_mul_of_pos_right _ hpos).trans fits, rfl⟩
  have hbytes : checkedMul (inputWidth / ty.blockSize * ty.typeSize) outputWidth =
      some (matrixBytes ty inputWidth outputWidth) :=
    checkedMul_eq_some.mpr ⟨fits, rfl⟩
  have hone : checkedMul 1 outputWidth = some outputWidth := by
    refine checkedMul_eq_some.mpr ⟨?_, (Nat.one_mul _).symm⟩
    rw [Nat.one_mul]
    have hrowPos : 0 < inputWidth / ty.blockSize * ty.typeSize := by
      refine Nat.mul_pos (Nat.div_pos (Nat.le_of_dvd (Nat.pos_of_ne_zero hinput) block) ?_) ?_
      · cases ty <;> decide
      · cases ty <;> decide
    exact (Nat.le_mul_of_pos_left _ hrowPos).trans fits
  have hzero : [inputWidth, outputWidth].findIdx? (· == 0) = none := by simp [hinput, houtput]
  have hview : EncodedTensorView.new ty .little [inputWidth, outputWidth] bytes =
      (ensure (bytes.length = matrixBytes ty inputWidth outputWidth)
        (.encodedLengthMismatch (matrixBytes ty inputWidth outputWidth) bytes.length) >>= fun _ =>
        .ok ⟨ty, .little, [inputWidth, outputWidth], bytes⟩) := by
    rw [EncodedTensorView.new,
      (ensure_eq_ok (u := ())).mpr ⟨List.cons_ne_nil _ _, by simp [maxTensorRank]⟩,
      except_ok_bind, hzero]
    simp only [List.headD_cons, hrow, except_ok_bind, List.tail_cons, List.foldlM_cons,
      List.foldlM_nil, hone, okOr, pure_bind, hbytes]
    rfl
  rw [PackedMatrix.fromParts, hview]
  constructor
  · intro h
    obtain ⟨view, hview, h⟩ := except_bind_ok_iff.mp h
    obtain ⟨_, hlength, hview⟩ := except_bind_ok_iff.mp hview
    cases hview
    simp only [PackedMatrix.new, except_bind_ok_iff, List.getD_cons_zero,
      List.getD_cons_succ, hrow] at h
    obtain ⟨_, -, _, -, _, -, row, hrowIs, hmatrix⟩ := h
    cases hrowIs
    cases hmatrix
    exact ⟨ensure_eq_ok.mp hlength, rfl⟩
  · rintro ⟨hlength, rfl⟩
    rw [(ensure_eq_ok (u := ())).mpr hlength, except_ok_bind, except_ok_bind, PackedMatrix.new]
    dsimp only
    have hendian : PayloadEndian.little = .little := rfl
    have hrank : [inputWidth, outputWidth].length = 2 := rfl
    have htype : ty ∈ [GgmlType.f32, .q4K, .q5K, .iq2S, .iq3S] := supported
    rw [(ensure_eq_ok (u := ())).mpr hendian, except_ok_bind, (ensure_eq_ok (u := ())).mpr hrank,
      except_ok_bind,
      (ensure_eq_ok (u := ())).mpr htype, except_ok_bind]
    simp only [List.getD_cons_zero, List.getD_cons_succ, hrow, except_ok_bind]
    rfl

/-! ### The slabs of a tensor -/

/-- What a descriptor of three dimensions says of its payload. -/
theorem payload_of_rank_three {desc : TensorDesc} {inputWidth outputWidth experts payload : Nat}
    (hshape : desc.shape = [inputWidth, outputWidth, experts])
    (hpayload : desc.encodedBytes = .ok payload) :
    inputWidth ≠ 0 ∧ outputWidth ≠ 0 ∧ experts ≠ 0 ∧ desc.ty.blockSize ∣ inputWidth ∧
      payload ≤ usizeMax ∧
      payload = experts * matrixBytes desc.ty inputWidth outputWidth := by
  obtain ⟨-, hdimensions, -⟩ := computeStrides_eq_ok desc.computed
  obtain ⟨hfits, rfl⟩ := desc.encodedBytes_eq_ok.mp hpayload
  obtain ⟨ne0, ne, hne, hblock⟩ := desc.shape_eq
  rw [hshape] at hdimensions hne
  cases hne
  refine ⟨hdimensions _ (by simp), hdimensions _ (by simp), hdimensions _ (by simp),
    hblock, hfits, ?_⟩
  rw [TensorDesc.payloadBytes, hshape, matrixBytes]
  simp only [List.prod_cons, List.prod_nil, Nat.mul_one]
  rw [Nat.mul_comm inputWidth, Nat.mul_div_assoc _ hblock, Nat.mul_comm outputWidth]
  ring

/-- The slab of an expert. -/
theorem checkedExpertSlab_eq {desc : TensorDesc} {inputWidth outputWidth experts payload : Nat}
    (hshape : desc.shape = [inputWidth, outputWidth, experts])
    (hpayload : desc.encodedBytes = .ok payload) {expert : Nat} (hexpert : expert < experts) :
    checkedExpertSlab desc.name desc.shape payload experts expert =
      .ok (expert * matrixBytes desc.ty inputWidth outputWidth,
        expert * matrixBytes desc.ty inputWidth outputWidth +
        matrixBytes desc.ty inputWidth outputWidth) := by
  obtain ⟨-, -, hexperts, -, hfits, rfl⟩ := payload_of_rank_three hshape hpayload
  have hslab : experts * matrixBytes desc.ty inputWidth outputWidth / experts =
      matrixBytes desc.ty inputWidth outputWidth :=
    Nat.mul_div_cancel_left _ (Nat.pos_of_ne_zero hexperts)
  have hstop : expert * matrixBytes desc.ty inputWidth outputWidth +
      matrixBytes desc.ty inputWidth outputWidth ≤
      experts * matrixBytes desc.ty inputWidth outputWidth := by
    rw [← Nat.succ_mul]
    exact Nat.mul_le_mul_right _ hexpert
  have hmul : checkedMul expert (matrixBytes desc.ty inputWidth outputWidth) =
      some (expert * matrixBytes desc.ty inputWidth outputWidth) :=
        checkedMul_eq_some.mpr ⟨by omega, rfl⟩
  have hadd : checkedAdd (expert * matrixBytes desc.ty inputWidth outputWidth)
      (matrixBytes desc.ty inputWidth outputWidth) =
      some (expert * matrixBytes desc.ty inputWidth outputWidth +
        matrixBytes desc.ty inputWidth outputWidth) :=
    checkedAdd_eq_some.mpr ⟨by omega, rfl⟩
  have hrank : [inputWidth, outputWidth, experts].length = 3 := rfl
  have hcount : [inputWidth, outputWidth, experts].getD 2 0 = experts := rfl
  rw [checkedExpertSlab, hshape, (ensure_eq_ok (u := ())).mpr hrank, except_ok_bind,
    (ensure_eq_ok (u := ())).mpr hcount, except_ok_bind,
    (ensure_eq_ok (u := ())).mpr hexpert, except_ok_bind,
    (ensure_eq_ok (u := ())).mpr ⟨hexperts, Nat.mul_mod_right _ _⟩, except_ok_bind]
  dsimp only
  rw [hslab, hmul, okOr, except_ok_bind, hadd, okOr, except_ok_bind,
    (ensure_eq_ok (u := ())).mpr hstop, except_ok_bind]
  rfl

/-- A descriptor of three dimensions by its dimensions. -/
theorem shape_of_rank_three {shape : List Nat} {experts : Nat} (hrank : shape.length = 3)
    (hexperts : shape.getD 2 0 = experts) :
    shape = [shape.getD 0 0, shape.getD 1 0, experts] := by
  match shape, hrank with
  | [_, _, _], _ => rw [← hexperts]; rfl

/-- A slab is that of an expert there is, in a tensor of three dimensions. -/
theorem checkedExpertSlab_eq_ok {desc : TensorDesc} {payload experts expert : Nat}
    {span : Nat × Nat} (hpayload : desc.encodedBytes = .ok payload)
    (h : checkedExpertSlab desc.name desc.shape payload experts expert = .ok span) :
    expert < experts ∧ desc.shape = [desc.shape.getD 0 0, desc.shape.getD 1 0, experts] ∧
      span = (expert * matrixBytes desc.ty (desc.shape.getD 0 0) (desc.shape.getD 1 0),
        expert * matrixBytes desc.ty (desc.shape.getD 0 0) (desc.shape.getD 1 0) +
          matrixBytes desc.ty (desc.shape.getD 0 0) (desc.shape.getD 1 0)) := by
  have hchecks := h
  obtain ⟨_, hrank, hchecks⟩ := except_bind_ok_iff.mp hchecks
  obtain ⟨_, hcount, hchecks⟩ := except_bind_ok_iff.mp hchecks
  obtain ⟨_, hexpert, -⟩ := except_bind_ok_iff.mp hchecks
  have hshape := shape_of_rank_three (ensure_eq_ok.mp hrank) (ensure_eq_ok.mp hcount)
  rw [checkedExpertSlab_eq hshape hpayload (ensure_eq_ok.mp hexpert)] at h
  exact ⟨ensure_eq_ok.mp hexpert, hshape, (Except.ok.inj h).symm⟩

/-- The slabs of the experts lie one behind the other, are the whole payload, and are each as long
as the kernels want a matrix of the type to be. -/
theorem slabs_tile {desc : TensorDesc} {inputWidth outputWidth experts payload : Nat}
    (hshape : desc.shape = [inputWidth, outputWidth, experts])
    (supported : desc.ty ∈ supportedTypes) (hpayload : desc.encodedBytes = .ok payload) :
    ∃ spans, (List.range experts).mapM (checkedExpertSlab desc.name desc.shape payload experts) =
      .ok spans ∧
      Tiled 0 spans payload ∧ ∀ span ∈ spans, ∀ bytes : List UInt8,
        (∃ matrix, PackedMatrix.fromParts desc.ty .little inputWidth outputWidth bytes =
          .ok matrix) ↔
          bytes.length = span.2 - span.1 := by
  obtain ⟨hinput, houtput, hexperts, hblock, hfits, hwhole⟩ := payload_of_rank_three hshape hpayload
  refine ⟨_, except_mapM_of_ok fun expert hexpert =>
    checkedExpertSlab_eq hshape hpayload (List.mem_range.mp hexpert), ?_, ?_⟩
  · have htiled := tiled_range (matrixBytes desc.ty inputWidth outputWidth) 0 experts
    rwa [Nat.zero_mul, Nat.zero_add, ← List.range_eq_range', ← hwhole] at htiled
  · intro span hspan bytes
    obtain ⟨expert, -, rfl⟩ := List.mem_map.mp hspan
    have hslab : matrixBytes desc.ty inputWidth outputWidth ≤ usizeMax :=
      (Nat.le_mul_of_pos_left _ (Nat.pos_of_ne_zero hexperts)).trans (hwhole ▸ hfits)
    simp only [fromParts_eq_ok supported hinput houtput hblock hslab, exists_and_left,
      exists_eq, and_true, Nat.add_sub_cancel_left]

end LightBridge.Hy3

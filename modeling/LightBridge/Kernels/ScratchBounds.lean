import LightBridge.Kernels.Buffers
import LightBridge.Kernels.Layer

/-! Which scratch is large enough. The error of a short buffer is told apart from every other,
and each kernel is shown to avoid it on buffers of the stated lengths. -/
namespace LightBridge.Kernels
open Foundation Kv

/-- Any error but that of a short buffer. -/
def KernelError.Ample (e : KernelError) : Prop :=
  ∀ field required actual, e ≠ .scratchTooSmall field required actual

/-- A row of `width` values can be quantized into `q8Length` bytes, if it can be quantized at all.
-/
def Q8Fits (q8Length width : Nat) : Prop :=
  ∀ required, requiredQ8KBytes width = .ok required → required ≤ q8Length

theorem requiredQ8KBytes_eq_ok {width required : Nat} (h : requiredQ8KBytes width = .ok required) :
    256 ≤ width ∧ required = width / q8KBlockElements * q8KBlockBytes := by
  obtain ⟨_, haligned, h⟩ := except_bind_ok_iff.mp h
  obtain ⟨hpos, hmod⟩ := ensure_eq_ok.mp haligned
  obtain ⟨-, rfl⟩ := checkedMul_eq_some.mp (okOr_eq_ok.mp h)
  unfold q8KBlockElements at hmod
  exact ⟨by omega, rfl⟩

/-- A row for the widest input serves the narrower ones. -/
theorem Q8Fits.mono {q8Length width maximum : Nat} (h : requiredQ8KBytes maximum = .ok q8Length)
    (hle : width ≤ maximum) :
    Q8Fits q8Length width := by
  intro required hrequired
  obtain ⟨-, rfl⟩ := requiredQ8KBytes_eq_ok hrequired
  obtain ⟨-, rfl⟩ := requiredQ8KBytes_eq_ok h
  exact Nat.mul_le_mul_right _ (Nat.div_le_div_right hle)

theorem q8Fits_narrow {q8Length width : Nat} (h : width < 256) : Q8Fits q8Length width := by
  intro required hrequired
  have hwide := (requiredQ8KBytes_eq_ok hrequired).1
  omega

section
variable {N : Numerics} {mode : ReferenceExecutionMode}

/-! ### Checks without scratch -/

theorem ample_wrap {ε α : Type} {wrapper : ε → KernelError} (h : ∀ e, (wrapper e).Ample)
    (r : Except ε α) :
    FailsIn (wrap wrapper r) KernelError.Ample := by
  intro e he
  obtain ⟨error, -, rfl⟩ := wrap_eq_error.mp he
  exact h error

theorem ample_quantized {α : Type} (r : Except QuantError α) :
    FailsIn (quantized r) KernelError.Ample := by
  apply ample_wrap
  intro e
  nofun

theorem ample_kv {α : Type} (r : Except KvError α) :
    FailsIn (wrap KernelError.kv r) KernelError.Ample := by
  apply ample_wrap
  intro e
  nofun

theorem ample_routing {α : Type} (r : Except RoutingError α) :
    FailsIn (wrap (fun error => KernelError.routing error.message) r) KernelError.Ample := by
  apply ample_wrap
  intro e
  nofun

theorem ample_requireEqual (field : String) (expected actual : Nat) :
    FailsIn (requireEqual field expected actual) KernelError.Ample := failsIn_ensure nofun

theorem ample_checkedProduct (left right : Nat) (operation : String) :
    FailsIn (checkedProduct left right operation) KernelError.Ample := failsIn_okOr nofun

theorem ample_validateFiniteFrom (field : String) (index : Nat) (values : List F32) :
    FailsIn (validateFiniteFrom field index values) KernelError.Ample := by
  induction values generalizing index with
  | nil => exact .pure _ _
  | cons value values ih => exact (failsIn_ensure nofun).bind fun _ _ => ih (index + 1)

theorem ample_validateFiniteSlice (field : String) (values : List F32) :
    FailsIn (validateFiniteSlice field values) KernelError.Ample :=
  ample_validateFiniteFrom field 0 values

theorem ample_forEach {check : Nat → Except KernelError Unit}
    (h : ∀ index, FailsIn (check index) KernelError.Ample)
    (indices : List Nat) : FailsIn (forEach check indices) KernelError.Ample := by
  induction indices with
  | nil => exact .pure _ _
  | cons index indices ih => exact (h index).bind fun _ _ => ih

theorem ample_validateEpsilon (epsilon : F32) :
    FailsIn (validateEpsilon N epsilon) KernelError.Ample :=
  (failsIn_ensure nofun).bind fun _ _ => failsIn_ensure nofun

theorem ample_rmsScale (values : List F32) (epsilon : F32) :
    FailsIn (rmsScale N values epsilon) KernelError.Ample :=
  (failsIn_ensure nofun).bind fun _ _ => .pure _ _

theorem ample_weightedRmsNorm (input weight : List F32) (epsilon : F32) (outputLength : Nat) :
    FailsIn (weightedRmsNorm N input weight epsilon outputLength) KernelError.Ample := by
  have hcall : FailsIn (validateNormCall N input weight epsilon outputLength) KernelError.Ample :=
    ((failsIn_ensure nofun).bind fun _ _ => failsIn_ensure nofun).bind fun _ _ =>
      (failsIn_ensure nofun).bind fun _ _ =>
      (ample_validateEpsilon epsilon).bind fun _ _ =>
        (ample_validateFiniteSlice _ _).bind fun _ _ =>
        ample_validateFiniteSlice _ _
  exact hcall.bind fun _ _ => (ample_rmsScale _ _).bind fun _ _ =>
    (ample_validateFiniteSlice _ _).bind fun _ _ => .pure _ _

theorem ample_weightedHeadRmsNorm (values weight : List F32) (headDimension : Nat) (epsilon : F32) :
    FailsIn (weightedHeadRmsNorm N values weight headDimension epsilon) KernelError.Ample := by
  refine FailsIn.bind (failsIn_ensure nofun) fun _ _ => (failsIn_ensure nofun).bind fun _ _ =>
    (failsIn_ensure nofun).bind fun _ _ => ?_
  refine (ample_validateEpsilon epsilon).bind fun _ _ =>
    (ample_validateFiniteSlice _ _).bind fun _ _ =>
    (ample_validateFiniteSlice _ _).bind fun _ _ => FailsIn.bind (FailsIn.mapM fun head _ => ?_)
      fun _ _ => .pure _ _
  exact (ample_rmsScale _ _).bind fun _ _ => (ample_validateFiniteSlice _ _).bind fun _ _ =>
    .pure _ _

theorem ample_residualAdd (destination residual : List F32) :
    FailsIn (residualAdd N destination residual) KernelError.Ample :=
  FailsIn.bind (failsIn_ensure nofun) fun _ _ => (ample_validateFiniteSlice _ _).bind fun _ _ =>
    (ample_validateFiniteSlice _ _).bind fun _ _ => (ample_validateFiniteSlice _ _).bind fun _ _ =>
      .pure _ _

theorem ample_validateFields (fields : List (String × F32)) :
    FailsIn (Hy3RopeParams.validateFields fields) KernelError.Ample := by
  induction fields with
  | nil => exact .pure _ _
  | cons field fields ih => exact (failsIn_ensure nofun).bind fun _ _ => ih

theorem ample_applyNeoxYarnRope (values : List F32) (headCount position : Nat)
    (params : Hy3RopeParams) :
    FailsIn (applyNeoxYarnRope N values headCount position params) KernelError.Ample := by
  have hvalid : FailsIn (params.validate N) KernelError.Ample :=
    FailsIn.bind (failsIn_ensure nofun) fun _ _ => (failsIn_ensure nofun).bind fun _ _ =>
      (ample_validateFields _).bind fun _ _ => failsIn_ensure nofun
  refine hvalid.bind fun _ _ => (failsIn_ensure nofun).bind fun _ _ =>
    (ample_checkedProduct _ _ _).bind fun _ _ => ?_
  refine (failsIn_ensure nofun).bind fun _ _ => (ample_validateFiniteSlice _ _).bind fun _ _ => ?_
  refine FailsIn.bind (FailsIn.mapM fun head _ => ?_) fun _ _ => .pure _ _
  refine FailsIn.bind (FailsIn.mapM fun pair _ => ?_) fun _ _ => .pure _ _
  exact (failsIn_ensure nofun).bind fun _ _ => (failsIn_ensure nofun).bind fun _ _ => .pure _ _

theorem ample_encodedTensorView (ty : GgmlType) (endian : PayloadEndian) (shape : List Nat)
    (bytes : List UInt8) :
    FailsIn (EncodedTensorView.new ty endian shape bytes) KernelError.Ample := by
  unfold EncodedTensorView.new
  refine FailsIn.bind (failsIn_ensure nofun) fun _ _ => ?_
  have hrows : ∀ (dimensions : List Nat) (total : Nat), FailsIn (dimensions.foldlM
      (fun total dimension =>
      okOr (checkedMul total dimension) (KernelError.arithmeticOverflow "tensor row count")) total)
      KernelError.Ample := by
    intro dimensions
    induction dimensions with
    | nil => exact fun total => .pure _ _
    | cons dimension dimensions ih =>
        intro total
        rw [List.foldlM_cons]
        exact (failsIn_okOr nofun).bind fun next _ => ih next
  cases shape.findIdx? (· == 0) with
  | some dimension =>
      intro e he
      cases he
      nofun
  | none =>
      cases ty.rowSize (shape.headD 0) with
      | ok rowBytes =>
          exact (FailsIn.pure rowBytes _).bind fun _ _ => (hrows _ _).bind fun _ _ =>
            (failsIn_okOr nofun).bind fun _ _ =>
            (failsIn_ensure nofun).bind fun _ _ => .pure _ _
      | error e =>
          intro e he
          cases he
          nofun

theorem ample_fromParts (ty : GgmlType) (endian : PayloadEndian) (inputWidth outputWidth : Nat)
    (bytes : List UInt8) :
    FailsIn (PackedMatrix.fromParts ty endian inputWidth outputWidth bytes) KernelError.Ample := by
  refine (ample_encodedTensorView _ _ _ _).bind fun view _ => ?_
  unfold PackedMatrix.new
  refine FailsIn.bind (failsIn_ensure nofun) fun _ _ => (failsIn_ensure nofun).bind fun _ _ =>
    (failsIn_ensure nofun).bind fun _ _ => ?_
  dsimp only
  cases view.ty.rowSize (view.shape.getD 0 0) with
  | ok rowBytes => exact (FailsIn.pure rowBytes _).bind fun _ _ => .pure _ _
  | error e =>
      intro e he
      cases he
      nofun

theorem encodedTensorView_shape {ty : GgmlType} {endian : PayloadEndian} {shape : List Nat}
    {bytes : List UInt8}
    {view : EncodedTensorView} (h : EncodedTensorView.new ty endian shape bytes = .ok view) :
    view.shape = shape := by
  unfold EncodedTensorView.new at h
  obtain ⟨_, -, h⟩ := except_bind_ok_iff.mp h
  cases hzero : shape.findIdx? (· == 0) with
  | some dimension =>
      rw [hzero] at h
      cases h
  | none =>
      rw [hzero] at h
      dsimp only at h
      cases hrow : ty.rowSize (shape.headD 0) with
      | error e =>
          rw [hrow] at h
          cases h
      | ok rowBytes =>
          rw [hrow] at h
          obtain ⟨_, -, h⟩ := except_bind_ok_iff.mp h
          obtain ⟨_, -, h⟩ := except_bind_ok_iff.mp h
          obtain ⟨_, -, h⟩ := except_bind_ok_iff.mp h
          obtain ⟨_, -, h⟩ := except_bind_ok_iff.mp h
          cases h
          rfl

theorem fromParts_widths {ty : GgmlType} {endian : PayloadEndian} {inputWidth outputWidth : Nat}
    {bytes : List UInt8} {matrix : PackedMatrix}
    (h : PackedMatrix.fromParts ty endian inputWidth outputWidth bytes = .ok matrix) :
    matrix.inputWidth = inputWidth ∧ matrix.outputWidth = outputWidth := by
  obtain ⟨view, hview, h⟩ := except_bind_ok_iff.mp h
  have hshape := encodedTensorView_shape hview
  unfold PackedMatrix.new at h
  obtain ⟨_, -, h⟩ := except_bind_ok_iff.mp h
  obtain ⟨_, -, h⟩ := except_bind_ok_iff.mp h
  obtain ⟨_, -, h⟩ := except_bind_ok_iff.mp h
  dsimp only at h
  cases hrow : view.ty.rowSize (view.shape.getD 0 0) with
  | error e =>
      rw [hrow] at h
      cases h
  | ok rowBytes =>
      rw [hrow] at h
      cases h
      rw [hshape]
      exact ⟨rfl, rfl⟩

/-! ### Products -/

theorem layout_blockSize {ty : GgmlType} {sizes : Nat × Nat}
    (h : quantized (layout ty) = .ok sizes) : sizes.1 ≤ 256 := by
  obtain ⟨_, -, h⟩ := except_bind_ok_iff.mp (wrap_eq_ok.mp h)
  cases h
  cases ty <;> decide

theorem ample_validateDimensions (matrix : PackedMatrix) (input : List F32) (outputLength : Nat) :
    FailsIn (validateDimensions matrix input outputLength) KernelError.Ample :=
  FailsIn.bind (failsIn_ensure nofun) fun _ _ => (failsIn_ensure nofun).bind fun _ _ =>
    ample_validateFiniteSlice _ _

theorem ample_prepareDequant {decodedLength : Nat} (hdecoded : 256 ≤ decodedLength)
    (matrix : PackedMatrix) (input : List F32)
    (outputLength : Nat) :
    FailsIn (prepareDequant N matrix input outputLength decodedLength) KernelError.Ample := by
  refine (ample_validateDimensions _ _ _).bind fun _ _ =>
    (ample_quantized _).bind fun sizes hsizes => ?_
  have hblock := layout_blockSize hsizes
  refine FailsIn.bind (fun e he => absurd ?_ (ensure_eq_error.mp he).1) fun _ _ => ?_
  · exact hblock.trans hdecoded
  · exact ample_forEach (fun row => ample_forEach (fun block => (ample_quantized _).bind fun _ _ =>
      ample_validateFiniteSlice _ _) _) _

theorem ample_prepareLlamaQ8K {q8Length : Nat} {matrix : PackedMatrix} {input : List F32}
    (hq8 : input.length = matrix.inputWidth → Q8Fits q8Length matrix.inputWidth)
    (outputLength : Nat) :
    FailsIn (prepareLlamaQ8K N matrix input outputLength q8Length) KernelError.Ample := by
  refine (ample_validateDimensions _ _ _).bind fun _ hdimensions =>
    (failsIn_ensure nofun).bind fun _ _ => ?_
  obtain ⟨_, hinput, -⟩ := except_bind_ok_iff.mp hdimensions
  refine FailsIn.bind ?_ fun required hrequired => ?_
  · exact FailsIn.bind (failsIn_ensure nofun) fun _ _ => failsIn_okOr nofun
  refine FailsIn.bind (fun e he =>
    absurd (hq8 (ensure_eq_ok.mp hinput) required hrequired) (ensure_eq_error.mp he).1)
    fun _ _ => ?_
  exact (ample_quantized _).bind fun _ _ => (ample_forEach (fun _ => ample_quantized _) _).bind
    fun _ _ => .pure _ _

section Products
variable {decodedLength q8Length : Nat} (hdecoded : 256 ≤ decodedLength) {matrix : PackedMatrix}
    {input : List F32}
  (hq8 : input.length = matrix.inputWidth → Q8Fits q8Length matrix.inputWidth)
include hdecoded hq8

theorem ample_prepareGemv (outputLength : Nat) :
    FailsIn (prepareGemv N mode matrix input outputLength decodedLength q8Length)
      KernelError.Ample := by
  unfold prepareGemv
  split
  · refine (ample_prepareDequant hdecoded _ _ _).bind fun _ _ => ?_
    cases mode <;> exact .pure _ _
  · cases mode with
    | dequantF32 => exact (ample_prepareDequant hdecoded _ _ _).bind fun _ _ => .pure _ _
    | llamaQ8K => exact (ample_prepareLlamaQ8K hq8 _).bind fun _ _ => .pure _ _
    | cpuParallelQ8K => exact (ample_prepareLlamaQ8K hq8 _).bind fun _ _ => .pure _ _

theorem ample_prepareAccumulate (outputLength : Nat) :
    FailsIn (prepareAccumulate N mode matrix input outputLength decodedLength q8Length)
      KernelError.Ample := by
  unfold prepareAccumulate
  split
  · exact (ample_prepareDequant hdecoded _ _ _).bind fun _ _ => .pure _ _
  · exact ample_prepareGemv hdecoded hq8 outputLength

theorem ample_gemv (outputLength : Nat) :
    FailsIn (gemv N mode matrix input outputLength decodedLength q8Length) KernelError.Ample := by
  refine (ample_prepareGemv hdecoded hq8 outputLength).bind fun dot hprepare =>
    FailsIn.mapM fun row hrow e he => ?_
  obtain ⟨value, hvalue⟩ := prepareGemv_ok hprepare (List.mem_range.mp hrow)
  rw [hvalue] at he
  cases he

end Products

/-! ### Experts -/

/-- Buffers that are long enough to run an expert on an input of `inputLength` values. -/
structure Houses (scratch : SwiGluScratch) (inputLength : Nat) (expert : SwiGluExpert) : Prop where
  activation : expert.hiddenWidth * 2 ≤ scratch.activation
  decoded : 256 ≤ scratch.decodedBlock
  input : Q8Fits scratch.q8 inputLength
  hidden : Q8Fits scratch.q8 expert.hiddenWidth

theorem length_swigluActivations {expert : SwiGluExpert} {input activations : List F32}
    {scratch : SwiGluScratch}
    (h : swigluActivations N mode expert input scratch = .ok activations) :
    activations.length = expert.hiddenWidth := by
  obtain ⟨gate, hgate, h⟩ := except_bind_ok_iff.mp h
  obtain ⟨up, hup, h⟩ := except_bind_ok_iff.mp h
  unfold applySwiglu at h
  rw [← (except_mapM_ok_iff.mp h).length_eq, List.length_zipIdx, List.length_zip, gemv_length hgate,
    gemv_length hup, Nat.min_self]

section Experts
variable {expert : SwiGluExpert} {input : List F32} {scratch : SwiGluScratch}

theorem Houses.validateExpertCall (h : Houses scratch input.length expert) (outputLength : Nat) :
    FailsIn (validateExpertCall expert input.length outputLength scratch) KernelError.Ample := by
  refine (ample_requireEqual _ _ _).bind fun _ _ => (ample_requireEqual _ _ _).bind fun _ _ => ?_
  refine (failsIn_okOr nofun).bind fun required hrequired e he =>
    absurd ?_ (ensure_eq_error.mp he).1
  rw [(checkedMul_eq_some.mp (okOr_eq_ok.mp hrequired)).2]
  exact h.activation

theorem Houses.swigluActivations (h : Houses scratch input.length expert) :
    FailsIn (swigluActivations N mode expert input scratch) KernelError.Ample := by
  refine (ample_gemv h.decoded (fun hlength => hlength ▸ h.input) _).bind fun gate _ => ?_
  refine (ample_gemv h.decoded (fun hlength => hlength ▸ h.input) _).bind fun up _ => ?_
  exact FailsIn.mapM fun _ _ => (failsIn_ensure nofun).bind fun _ _ => .pure _ _

theorem Houses.swigluProject (h : Houses scratch input.length expert) (outputLength : Nat) :
    FailsIn (swigluProject N mode expert input outputLength scratch) KernelError.Ample := by
  refine (h.validateExpertCall outputLength).bind fun _ _ =>
    h.swigluActivations.bind fun activations hactivations => ?_
  refine ample_gemv h.decoded (fun hlength => ?_) _
  rw [← hlength, length_swigluActivations hactivations]
  exact h.hidden

theorem Houses.expertSwigluAccumulate (h : Houses scratch input.length expert)
    (destination : List F32) (coefficient : F32) :
    FailsIn (expertSwigluAccumulate N mode expert input destination coefficient scratch)
      KernelError.Ample := by
  refine FailsIn.bind (failsIn_ensure nofun) fun _ _ => (h.validateExpertCall _).bind fun _ _ => ?_
  refine h.swigluActivations.bind fun activations hactivations =>
    FailsIn.bind (failsIn_ensure nofun) fun _ _ => ?_
  refine (ample_validateFiniteSlice _ _).bind fun _ _ =>
    (ample_prepareAccumulate h.decoded (fun hlength => ?_) _).bind
    fun dot hprepare => FailsIn.mapM fun entry hentry => ?_
  · rw [← hlength, length_swigluActivations hactivations]
    exact h.hidden
  · have hlast := List.mem_zipIdx hentry
    have hrow : entry.2 < destination.length := by omega
    obtain ⟨value, hvalue⟩ := prepareAccumulate_ok hprepare hrow
    dsimp only
    rw [hvalue]
    exact .pure _ _

theorem Houses.preflight (h : Houses scratch input.length expert) (outputLength : Nat)
    (field : String) :
    FailsIn (preflight N mode expert input outputLength scratch field) KernelError.Ample :=
  (h.swigluProject outputLength).bind fun _ _ => ample_validateFiniteSlice _ _

end Experts

theorem ample_validateSelected (shared : SwiGluExpert) (previous : Option Nat)
    (routed : List SelectedExpert) :
    FailsIn (validateSelected shared previous routed) KernelError.Ample := by
  induction routed generalizing previous with
  | nil => exact .pure _ _
  | cons first rest ih =>
      unfold validateSelected
      refine FailsIn.bind (failsIn_ensure nofun) fun _ _ => ?_
      have hrest : FailsIn (do
          requireEqual "routed expert input width" shared.inputWidth first.expert.inputWidth
          requireEqual "routed expert output width" shared.outputWidth first.expert.outputWidth
          validateSelected shared (some first.expertId) rest) KernelError.Ample :=
        (ample_requireEqual _ _ _).bind fun _ _ => (ample_requireEqual _ _ _).bind fun _ _ => ih _
      cases previous with
      | none => exact hrest
      | some previousId =>
          exact (failsIn_ensure nofun).bind fun _ _ => (failsIn_ensure nofun).bind fun _ _ => hrest

/-- The mixture of supplied experts. -/
theorem ample_moeSelected {routed : List SelectedExpert} {shared : SwiGluExpert} {input : List F32}
    {outputLength preflightLength : Nat} {scratch : SwiGluScratch}
    (hrouted : ∀ selected ∈ routed, Houses scratch input.length selected.expert)
    (hshared : Houses scratch input.length shared) (hpreflight : outputLength ≤ preflightLength) :
    FailsIn (moeSelected N mode routed shared input outputLength preflightLength scratch)
      KernelError.Ample := by
  have hstructure : FailsIn
      (validateStructure routed shared input.length outputLength preflightLength)
      KernelError.Ample := by
    refine FailsIn.bind (failsIn_ensure nofun) fun _ _ => (ample_requireEqual _ _ _).bind fun _ _ =>
      (ample_requireEqual _ _ _).bind fun _ _ => FailsIn.bind (fun e he => ?_) fun _ _ =>
        ample_validateSelected _ _ _
    exact absurd hpreflight (ensure_eq_error.mp he).1
  have hexperts : ∀ experts : List SelectedExpert,
      (∀ selected ∈ experts, Houses scratch input.length selected.expert) →
      FailsIn (preflightRouted N mode input outputLength scratch experts) KernelError.Ample := by
    intro experts
    induction experts with
    | nil => exact fun _ => .pure _ _
    | cons first rest ih =>
        intro hall
        obtain ⟨hfirst, hrest⟩ := List.forall_mem_cons.mp hall
        exact (hfirst.preflight _ _).bind fun _ _ => ih hrest
  refine hstructure.bind fun _ _ => (hexperts routed hrouted).bind fun _ _ =>
    (hshared.preflight _ _).bind fun _ _ => ?_
  refine FailsIn.bind (FailsIn.foldlM (fun selected hselected output => ?_) _) fun mixed _ => ?_
  · exact (hrouted selected hselected).expertSwigluAccumulate _ _
  · exact hshared.expertSwigluAccumulate _ _

/-- An answered mixture has run every expert within the activation scratch. -/
theorem moeSelected_widths {routed : List SelectedExpert} {shared : SwiGluExpert}
    {input values : List F32} {outputLength preflightLength : Nat} {scratch : SwiGluScratch}
    (h : moeSelected N mode routed shared input outputLength preflightLength scratch = .ok values) :
    routed ≠ [] ∧ ∀ selected ∈ routed, selected.expert.hiddenWidth * 2 ≤ scratch.activation := by
  obtain ⟨_, hstructure, h⟩ := except_bind_ok_iff.mp h
  obtain ⟨_, hpreflight, -⟩ := except_bind_ok_iff.mp h
  obtain ⟨_, hnonempty, -⟩ := except_bind_ok_iff.mp hstructure
  have hwidths : ∀ experts : List SelectedExpert,
      preflightRouted N mode input outputLength scratch experts = .ok () →
      ∀ selected ∈ experts, selected.expert.hiddenWidth * 2 ≤ scratch.activation := by
    intro experts
    induction experts with
    | nil => exact fun _ => by simp
    | cons first rest ih =>
        intro hrun
        obtain ⟨_, hfirst, hrest⟩ := except_bind_ok_iff.mp hrun
        obtain ⟨_, hproject, -⟩ := except_bind_ok_iff.mp hfirst
        obtain ⟨_, hcall, -⟩ := except_bind_ok_iff.mp hproject
        obtain ⟨_, -, hcall⟩ := except_bind_ok_iff.mp hcall
        obtain ⟨_, -, hcall⟩ := except_bind_ok_iff.mp hcall
        obtain ⟨required, hrequired, hcall⟩ := except_bind_ok_iff.mp hcall
        obtain ⟨-, rfl⟩ := checkedMul_eq_some.mp (okOr_eq_ok.mp hrequired)
        exact List.forall_mem_cons.mpr ⟨ensure_eq_ok.mp hcall, ih hrest⟩
  exact ⟨ensure_eq_ok.mp hnonempty, hwidths routed hpreflight⟩

/-! ### Attention -/

theorem ample_validateAttention {config : KvConfig} {layer : Nat} {input : AttentionInput}
    {outputLength : Nat} {scratch : AttentionScratch}
    (hscores : config.tokenCapacity ≤ scratch.scores) (houtput : outputLength ≤ scratch.output)
    (stored : Except KvError Nat) :
    FailsIn (validateAttention config layer input outputLength scratch stored)
      KernelError.Ample := by
  have hlengths : FailsIn (validateAttentionLengths config input outputLength) KernelError.Ample :=
    FailsIn.bind (failsIn_okOr nofun) fun _ _ => (failsIn_okOr nofun).bind fun _ _ =>
      (failsIn_okOr nofun).bind fun _ _ =>
      (failsIn_okOr nofun).bind fun _ _ => (ample_requireEqual _ _ _).bind fun _ _ =>
        (ample_requireEqual _ _ _).bind
        fun _ _ => (ample_requireEqual _ _ _).bind fun _ _ => (ample_requireEqual _ _ _).bind
          fun _ _ => .pure _ _
  refine (ample_kv _).bind fun base _ => FailsIn.bind (failsIn_ensure nofun) fun _ _ =>
    (failsIn_ensure nofun).bind fun _ _ => hlengths.bind fun expected hexpected => ?_
  refine (ample_validateFiniteSlice _ _).bind fun _ _ =>
    (ample_validateFiniteSlice _ _).bind fun _ _ =>
    (ample_validateFiniteSlice _ _).bind fun _ _ => (failsIn_okOr nofun).bind fun total _ => ?_
  refine FailsIn.bind (failsIn_ensure nofun) fun _ hcapacity =>
    FailsIn.bind (fun e he => ?_) fun _ _ =>
    FailsIn.bind (fun e he => ?_) fun _ _ => .pure _ _
  · exact absurd ((ensure_eq_ok.mp hcapacity).trans hscores) (ensure_eq_error.mp he).1
  · refine absurd ?_ (ensure_eq_error.mp he).1
    unfold validateAttentionLengths at hexpected
    obtain ⟨_, -, hexpected⟩ := except_bind_ok_iff.mp hexpected
    obtain ⟨_, -, hexpected⟩ := except_bind_ok_iff.mp hexpected
    obtain ⟨_, -, hexpected⟩ := except_bind_ok_iff.mp hexpected
    obtain ⟨_, -, hexpected⟩ := except_bind_ok_iff.mp hexpected
    obtain ⟨_, -, hexpected⟩ := except_bind_ok_iff.mp hexpected
    obtain ⟨_, -, hexpected⟩ := except_bind_ok_iff.mp hexpected
    obtain ⟨_, -, hexpected⟩ := except_bind_ok_iff.mp hexpected
    obtain ⟨_, hequal, hexpected⟩ := except_bind_ok_iff.mp hexpected
    cases hexpected
    rw [ensure_eq_ok.mp hequal]
    exact houtput

theorem ample_sourceLane (config : KvConfig) (read : RowReader) (input : AttentionInput)
    (baseToken : Nat) (side : Lane)
    (sourceToken kvHead : Nat) :
    FailsIn (sourceLane config read input baseToken side sourceToken kvHead) KernelError.Ample := by
  unfold sourceLane
  split
  · exact ample_kv _
  · exact .pure _ _

theorem ample_attend (config : KvConfig) (read : RowReader) (input : AttentionInput)
    (baseToken : Nat) :
    FailsIn (attend N config read input baseToken) KernelError.Ample := by
  refine FailsIn.bind (FailsIn.mapM fun token _ => FailsIn.bind (FailsIn.mapM fun head _ => ?_)
    fun _ _ => .pure _ _)
    fun _ _ => .pure _ _
  unfold attendHead
  refine FailsIn.bind (FailsIn.mapM fun source _ => ?_) fun scores _ =>
    FailsIn.bind (failsIn_ensure nofun) fun _ _ =>
    FailsIn.mapM fun lane _ => ?_
  · exact (ample_sourceLane _ _ _ _ _ _ _).bind fun _ _ =>
      (failsIn_ensure nofun).bind fun _ _ => .pure _ _
  · refine FailsIn.bind (FailsIn.foldlM (fun _ _ _ => ?_) _) fun _ _ =>
      (failsIn_ensure nofun).bind fun _ _ => .pure _ _
    exact (ample_sourceLane _ _ _ _ _ _ _).bind fun _ _ => .pure _ _

theorem ample_causalGqaAttention {alloc : Allocator} {layer : Nat} {input : AttentionInput}
    {outputLength : Nat} {scratch : AttentionScratch} {cache : PagedKvCache}
    (hscores : cache.tokenCapacity ≤ scratch.scores) (houtput : outputLength ≤ scratch.output) :
    Command.Ends (fun _ _ => True) (fun e _ => e.Ample)
      (causalGqaAttention N alloc layer input outputLength scratch cache) := by
  unfold causalGqaAttention
  rw [Command.bind_of_ok (Command.read_run cache)]
  refine .lift_bind (fun e he => ample_validateAttention hscores houtput _ e he) fun _ _ => ?_
  refine .lift_bind (fun e he => ample_attend _ _ _ _ e he) fun output _ => ?_
  refine .bind (Q := fun _ _ => True)
    (.mapError (.of_forall (fun _ _ => trivial) (fun _ _ => nofun) _)) fun _ cache' _ => ?_
  exact .answered output cache' trivial

/-! ### One block -/

/-- Buffers that are long enough for the attention of a block whose output projection takes
`context` values, over a cache of `capacity` tokens. -/
structure Roomy (capacity context : Nat) (scratch : Hy3BlockScratch) : Prop where
  scores : capacity ≤ scratch.buffers.scores
  staging : scratch.buffers.attentionContext ≤ scratch.buffers.attentionStaging
  decoded : 256 ≤ scratch.buffers.decodedBlock
  preflight : scratch.buffers.ffnDelta ≤ scratch.buffers.preflightOutput
  normalized : Q8Fits scratch.buffers.q8 scratch.buffers.attentionNormalized
  context : Q8Fits scratch.buffers.q8 context
  ffnNormalized : Q8Fits scratch.buffers.q8 scratch.ffnNormalized.length

/-- The lengths are all that counts. -/
theorem Roomy.of_shape {capacity context : Nat} {scratch scratch' : Hy3BlockScratch}
    (h : Roomy capacity context scratch)
    (hshape : scratch'.shape = scratch.shape) : Roomy capacity context scratch' := by
  obtain ⟨hbuffers, hrest⟩ := Prod.mk.inj hshape
  obtain ⟨hnormalized, -⟩ := Prod.mk.inj hrest
  constructor
  · rw [hbuffers]
    exact h.scores
  · rw [hbuffers]
    exact h.staging
  · rw [hbuffers]
    exact h.decoded
  · rw [hbuffers]
    exact h.preflight
  · rw [hbuffers]
    exact h.normalized
  · rw [hbuffers]
    exact h.context
  · rw [hbuffers, hnormalized]
    exact h.ffnNormalized

theorem ample_addResidual (delta : List F32) (state : BlockState) :
    Command.Ends (fun _ _ => True) (fun e _ => e.Ample) (addResidual N delta state) := by
  unfold addResidual
  refine .read_bind (.lift_bind (fun e he => ample_residualAdd _ _ e he) fun hidden _ => ?_)
  exact .answered () _ trivial

theorem ample_projectToken {execution : Hy3BlockExecution} {attention : Hy3AttentionWeights}
    {buffers : Hy3BlockBuffers} (hdecoded : 256 ≤ buffers.decodedBlock)
    (hq8 : Q8Fits buffers.q8 buffers.attentionNormalized) (hidden : List F32) :
    FailsIn (projectToken N execution attention buffers hidden) KernelError.Ample := by
  refine (ample_weightedRmsNorm _ _ _ _).bind fun normalized hnormalized => ?_
  have hfits : ∀ matrix : PackedMatrix, normalized.length = matrix.inputWidth →
      Q8Fits buffers.q8 matrix.inputWidth := by
    intro matrix hlength
    rwa [← hlength, weightedRmsNorm_length hnormalized]
  refine (ample_gemv hdecoded (hfits _) _).bind fun _ _ =>
    (ample_gemv hdecoded (hfits _) _).bind fun _ _ =>
    (ample_gemv hdecoded (hfits _) _).bind fun _ _ => ?_
  exact (ample_weightedHeadRmsNorm _ _ _ _).bind fun _ _ =>
    (ample_weightedHeadRmsNorm _ _ _ _).bind fun _ _ =>
    (ample_applyNeoxYarnRope _ _ _ _).bind fun _ _ => (ample_applyNeoxYarnRope _ _ _ _).bind
      fun _ _ => .pure _ _

theorem ample_attendToken {alloc : Allocator} {execution : Hy3BlockExecution}
    {attention : Hy3AttentionWeights} {ffnNorm : List F32} {state : BlockState}
    (h : Roomy state.cache.tokenCapacity attention.output.inputWidth state.scratch) :
    Command.Ends
      (fun normalized state' => normalized.length = state'.scratch.ffnNormalized.length ∧
        state'.shape = state.shape)
      (fun e _ => e.Ample) (attendToken N alloc execution attention ffnNorm state) := by
  have hends : Command.Ends (fun normalized state' =>
      normalized.length = state'.scratch.ffnNormalized.length)
      (fun e _ => e.Ample) (attendToken N alloc execution attention ffnNorm state) := by
    unfold attendToken
    refine .read_bind (.lift_bind (fun e he => ample_projectToken h.decoded h.normalized _ e he)
      fun input _ => ?_)
    refine .bind (Q := fun _ middle => middle.scratch = state.scratch) (.zoom ?_)
      fun context middle hmiddle => ?_
    · exact (ample_causalGqaAttention h.scores h.staging).mono (fun _ _ _ => rfl) fun _ _ he => he
    refine .lift_bind (fun e he => ample_gemv h.decoded (fun _ => h.context) _ e he)
      fun delta _ => ?_
    refine (ample_addResidual delta middle).bind fun _ last _ => .read_bind ?_
    refine .lift_bind (fun e he => ample_weightedRmsNorm _ _ _ _ e he) fun normalized _ => ?_
    exact .answered normalized _ rfl
  exact (hends.and (attendToken_shape N alloc execution attention ffnNorm state)).mono
    (fun _ _ h => h) fun _ _ h => h.1

theorem context_width {attention : Hy3AttentionWeights} {ffnNorm : List F32}
    (h : validateAttentionWeights attention ffnNorm = .ok ()) :
    attention.output.inputWidth = attention.queryHeadCount * attention.valueDimension := by
  unfold validateAttentionWeights at h
  obtain ⟨_, -, h⟩ := except_bind_ok_iff.mp h
  obtain ⟨_, -, h⟩ := except_bind_ok_iff.mp h
  obtain ⟨_, -, h⟩ := except_bind_ok_iff.mp h
  obtain ⟨_, -, h⟩ := except_bind_ok_iff.mp h
  obtain ⟨_, -, h⟩ := except_bind_ok_iff.mp h
  obtain ⟨_, -, h⟩ := except_bind_ok_iff.mp h
  obtain ⟨_, -, h⟩ := except_bind_ok_iff.mp h
  obtain ⟨_, -, h⟩ := except_bind_ok_iff.mp h
  obtain ⟨_, -, h⟩ := except_bind_ok_iff.mp h
  obtain ⟨_, -, h⟩ := except_bind_ok_iff.mp h
  obtain ⟨context, hcontext, h⟩ := except_bind_ok_iff.mp h
  obtain ⟨_, hwidth, -⟩ := except_bind_ok_iff.mp h
  rw [← ensure_eq_ok.mp hwidth]
  exact (checkedMul_eq_some.mp (okOr_eq_ok.mp hcontext)).2

theorem ample_validateAttentionWeights (attention : Hy3AttentionWeights) (ffnNorm : List F32) :
    FailsIn (validateAttentionWeights attention ffnNorm) KernelError.Ample := by
  refine (ample_requireEqual _ _ _).bind fun _ _ => (ample_requireEqual _ _ _).bind fun _ _ =>
    (ample_requireEqual _ _ _).bind fun _ _ => FailsIn.bind (failsIn_ensure nofun) fun _ _ => ?_
  refine (ample_checkedProduct _ _ _).bind fun _ _ => (ample_requireEqual _ _ _).bind fun _ _ =>
    (ample_checkedProduct _ _ _).bind fun _ _ => (ample_requireEqual _ _ _).bind fun _ _ => ?_
  refine (ample_checkedProduct _ _ _).bind fun _ _ => (ample_requireEqual _ _ _).bind fun _ _ =>
    (ample_checkedProduct _ _ _).bind fun _ _ => (ample_requireEqual _ _ _).bind fun _ _ => ?_
  exact (ample_requireEqual _ _ _).bind fun _ _ => (ample_requireEqual _ _ _).bind fun _ _ =>
    (ample_requireEqual _ _ _).bind fun _ _ => ample_requireEqual _ _ _

theorem ample_validateExpertDimensions (hidden : Nat) (expert : SwiGluExpert) :
    FailsIn (validateExpertDimensions hidden expert) KernelError.Ample :=
  (ample_requireEqual _ _ _).bind fun _ _ => ample_requireEqual _ _ _

theorem ample_validateCall (attention : Hy3AttentionWeights) (config : KvConfig)
    (stored : Except KvError Nat) (position : Nat) (hidden : List F32) (scratch : Hy3BlockScratch) :
    FailsIn (validateCall attention config stored position hidden scratch) KernelError.Ample :=
  (ample_requireEqual _ _ _).bind fun _ _ => (ample_requireEqual _ _ _).bind fun _ _ =>
    (ample_requireEqual _ _ _).bind fun _ _ => (ample_requireEqual _ _ _).bind fun _ _ =>
      (ample_kv _).bind fun _ _ =>
      (ample_requireEqual _ _ _).bind fun _ _ => ample_requireEqual _ _ _

theorem ample_validateStreamingRuntime (block : Hy3StreamingMoeWeights) (config : KvConfig)
    (stored : Except KvError Nat) (position : Nat) (hidden : List F32) (scratch : Hy3BlockScratch) :
    FailsIn (validateStreamingRuntime block config stored position hidden scratch)
      KernelError.Ample := by
  have hrouter : FailsIn
      (validateRouter block.attention.query.inputWidth block.expertCount
        block.expertUsedCount block.router
        block.selectionBias block.weightScale) KernelError.Ample :=
    (ample_requireEqual _ _ _).bind fun _ _ => (ample_requireEqual _ _ _).bind fun _ _ =>
      (ample_requireEqual _ _ _).bind fun _ _ => FailsIn.bind (failsIn_ensure nofun) fun _ _ =>
        failsIn_ensure nofun
  have hblock : FailsIn (validateStreamingMoe block) KernelError.Ample :=
    (ample_validateAttentionWeights _ _).bind fun _ _ => hrouter.bind fun _ _ =>
      ample_validateExpertDimensions _ _
  exact hblock.bind fun _ _ => (ample_validateCall _ _ _ _ _ _).bind fun _ _ =>
    (ample_requireEqual _ _ _).bind fun _ _ =>
    ample_requireEqual _ _ _

/-- A dense block. -/
theorem ample_hy3BlockForwardToken {alloc : Allocator} {execution : Hy3BlockExecution}
    {attention : Hy3AttentionWeights} {ffnNorm : List F32} {expert : SwiGluExpert}
    {state : BlockState}
    (h : Roomy state.cache.tokenCapacity (attention.queryHeadCount * attention.valueDimension)
      state.scratch)
    (hexpert : Houses state.scratch.swiglu state.scratch.ffnNormalized.length expert) :
    Command.Ends (fun _ _ => True) (fun e _ => e.Ample)
      (hy3BlockForwardToken N alloc execution ⟨attention, ffnNorm, .dense expert⟩ state) := by
  unfold hy3BlockForwardToken
  refine .read_bind (.lift_bind (fun e he => ?_) fun _ hvalid => ?_)
  · exact (((ample_validateAttentionWeights _ _).bind fun _ _ =>
      ample_validateExpertDimensions _ _).bind fun _ _ =>
      ample_validateCall _ _ _ _ _ _) e he
  obtain ⟨_, hblock, -⟩ := except_bind_ok_iff.mp hvalid
  obtain ⟨_, hattention, -⟩ := except_bind_ok_iff.mp hblock
  rw [Command.bind_of_ok (Command.update_run _ state)]
  have hroomy : Roomy state.cache.tokenCapacity attention.output.inputWidth
      state.scratch.reset := by
    rw [context_width hattention]
    exact h.of_shape rfl
  refine (ample_attendToken hroomy).bind fun normalized middle hmiddle => ?_
  refine .bind (Q := fun _ _ => True) ?_ fun delta last _ => ample_addResidual delta last
  rw [feedForward, Command.bind_of_ok (Command.read_run middle)]
  obtain ⟨hlength, hshape⟩ := hmiddle
  obtain ⟨-, hscratch⟩ := Prod.mk.inj hshape
  obtain ⟨hbuffers, hrest⟩ := Prod.mk.inj hscratch
  have hserves : Houses middle.scratch.swiglu normalized.length expert := by
    have hsame : middle.scratch.swiglu = state.scratch.swiglu := by
      rw [Hy3BlockScratch.swiglu, hbuffers]
      rfl
    rw [hsame, hlength, (Prod.mk.inj hrest).1]
    exact hexpert
  exact .lift (fun _ _ => trivial) fun e he => hserves.swigluProject _ e he

/-- The first half of a streamed block. -/
theorem ample_hy3MoeRouteToken {alloc : Allocator} {execution : Hy3BlockExecution}
    {block : Hy3StreamingMoeWeights} {state : BlockState}
    (h : Roomy state.cache.tokenCapacity
      (block.attention.queryHeadCount * block.attention.valueDimension) state.scratch) :
    Command.Ends (fun _ _ => True) (fun e _ => e.Ample)
      (hy3MoeRouteToken N alloc execution block state) := by
  unfold hy3MoeRouteToken
  refine .read_bind (.lift_bind (fun e he => ample_validateStreamingRuntime _ _ _ _ _ _ e he)
    fun _ hvalid => ?_)
  refine .lift_bind (fun e he => failsIn_ensure nofun e he) fun _ _ => ?_
  obtain ⟨_, hblock, -⟩ := except_bind_ok_iff.mp hvalid
  obtain ⟨_, hattention, -⟩ := except_bind_ok_iff.mp hblock
  rw [Command.bind_of_ok (Command.update_run _ state)]
  have hroomy : Roomy state.cache.tokenCapacity block.attention.output.inputWidth
      { state.scratch with routedLen := 0 } := by
    rw [context_width hattention]
    exact h.of_shape rfl
  refine (ample_attendToken hroomy).bind fun normalized middle hmiddle => .read_bind ?_
  obtain ⟨hlength, hshape⟩ := hmiddle
  have hmiddle : Roomy state.cache.tokenCapacity block.attention.output.inputWidth middle.scratch :=
    hroomy.of_shape (Prod.mk.inj hshape).2
  refine .lift_bind (fun e he => ?_) fun routed _ => .answered () _ trivial
  refine (ample_gemv hmiddle.decoded (fun hwidth => ?_) _).bind
    (fun logits _ => ample_routing _) e he
  rw [← hwidth, hlength]
  exact hmiddle.ffnNormalized

/-- The second half, on buffers that serve every expert. -/
theorem ample_hy3MoeFinishToken {selected : List SelectedExpert} {shared : SwiGluExpert}
    {state : BlockState}
    (hpreflight : state.scratch.buffers.ffnDelta ≤ state.scratch.buffers.preflightOutput)
    (hselected : ∀ expert ∈ selected,
      Houses state.scratch.swiglu state.scratch.ffnNormalized.length expert.expert)
    (hshared : Houses state.scratch.swiglu state.scratch.ffnNormalized.length shared) :
    Command.Ends (fun _ _ => True) (fun e _ => e.Ample)
      (hy3MoeFinishToken N mode selected shared state) := by
  have hidentity : ∀ pairs, FailsIn (validateIdentity pairs) KernelError.Ample := by
    intro pairs
    induction pairs with
    | nil => exact .pure _ _
    | cons pair pairs ih => exact (failsIn_ensure nofun).bind fun _ _ => ih
  unfold hy3MoeFinishToken
  refine .read_bind (.lift_bind (fun e he => failsIn_ensure nofun e he) fun _ _ => ?_)
  refine .lift_bind (fun e he => ample_requireEqual _ _ _ e he) fun _ _ => ?_
  refine .lift_bind (fun e he => hidentity _ e he) fun _ _ => ?_
  refine .lift_bind (fun e he => ample_moeSelected hselected hshared hpreflight e he)
    fun delta _ => ?_
  exact (ample_addResidual delta state).bind fun _ last _ => .answered () _ trivial

theorem hy3MoeFinishToken_widths (selected : List SelectedExpert) (shared : SwiGluExpert)
    (state : BlockState) :
    Command.Ends (fun _ _ => selected ≠ [] ∧ ∀ expert ∈ selected,
      expert.expert.hiddenWidth * 2 ≤ state.scratch.swiglu.activation)
      (fun _ _ => True) (hy3MoeFinishToken N mode selected shared state) := by
  unfold hy3MoeFinishToken
  refine .read_bind (.lift_bind (fun _ _ => trivial) fun _ _ => .lift_bind (fun _ _ => trivial)
    fun _ _ => ?_)
  refine .lift_bind (fun _ _ => trivial) fun _ _ => .lift_bind (fun _ _ => trivial)
    fun delta hdelta => ?_
  refine .bind (Q := fun _ _ => True) (.of_forall (fun _ _ => trivial) (fun _ _ => trivial) _)
    fun _ last _ => ?_
  exact .answered () _ (moeSelected_widths hdelta)

end

/-! ### What is allocated -/

/-- Buffers that are long enough for a block: for its attention, and for experts no wider than
`ffnHidden`. -/
structure Provisioned (capacity context ffnHidden : Nat) (scratch : Hy3BlockScratch) : Prop
    extends Roomy capacity context scratch where
  activation : scratch.buffers.swigluActivation = ffnHidden * 2
  houses : ∀ expert : SwiGluExpert, expert.hiddenWidth ≤ ffnHidden →
    Houses scratch.swiglu scratch.ffnNormalized.length expert

theorem Provisioned.of_shape {capacity context ffnHidden : Nat} {scratch scratch' : Hy3BlockScratch}
    (h : Provisioned capacity context ffnHidden scratch) (hshape : scratch'.shape = scratch.shape) :
    Provisioned capacity context ffnHidden scratch' := by
  obtain ⟨hbuffers, hrest⟩ := Prod.mk.inj hshape
  refine ⟨h.toRoomy.of_shape hshape, hbuffers ▸ h.activation, fun expert hwidth => ?_⟩
  have hswiglu : scratch'.swiglu = scratch.swiglu := by
    rw [Hy3BlockScratch.swiglu, hbuffers, Hy3BlockScratch.swiglu]
  rw [hswiglu, (Prod.mk.inj hrest).1]
  exact h.houses expert hwidth

/-- The scratch of a block is made for the expert it is given. -/
theorem allocate_provisioned {granted : String → Bool} {attention : Hy3AttentionWeights}
    {ffnHidden expertCount expertUsedCount routerInput capacity : Nat} {scratch : Hy3BlockScratch}
    (h : Hy3BlockScratch.allocate granted attention ffnHidden expertCount expertUsedCount
      routerInput capacity = .ok scratch) :
    Provisioned capacity (attention.queryHeadCount * attention.valueDimension) ffnHidden
      scratch := by
  obtain ⟨given, hgiven, rfl⟩ := Hy3BlockScratch.allocate_cleared h
  iterate 3 obtain ⟨_, -, hgiven⟩ := except_bind_ok_iff.mp hgiven
  obtain ⟨context, hcontext, hgiven⟩ := except_bind_ok_iff.mp hgiven
  obtain ⟨activation, hactivation, hgiven⟩ := except_bind_ok_iff.mp hgiven
  obtain ⟨q8, hq8, hgiven⟩ := except_bind_ok_iff.mp hgiven
  cases hgiven
  obtain rfl := (checkedMul_eq_some.mp (okOr_eq_ok.mp hcontext)).2
  obtain rfl := (checkedMul_eq_some.mp (okOr_eq_ok.mp hactivation)).2
  -- the row of quantized values is made for the widest input
  have hfits : ∀ width ≤ max
      (max attention.query.inputWidth (attention.queryHeadCount * attention.valueDimension))
      (max ffnHidden routerInput), Q8Fits q8 width := by
    intro width hle
    rw [Hy3BlockScratch.activationBytes] at hq8
    split at hq8
    · exact .mono hq8 hle
    · exact q8Fits_narrow (by omega)
  have hhidden : Q8Fits q8 attention.query.inputWidth := hfits _ (by omega)
  have hnormalized : Q8Fits q8 (List.replicate attention.query.inputWidth F32.zero).length := by
    rw [List.length_replicate]
    exact hhidden
  refine ⟨⟨Nat.le_refl _, Nat.le_refl _, Nat.le_refl _, Nat.le_refl _, hhidden, ?_, hnormalized⟩,
    rfl, fun expert hwidth => ⟨?_, Nat.le_refl _, hnormalized, ?_⟩⟩
  · exact hfits _ (by omega)
  · exact Nat.mul_le_mul_right 2 hwidth
  · exact hfits _ (by omega)

end LightBridge.Kernels

import LightBridge.Hy3.SchemaCheck
import LightBridge.Prepare.Direct

/-! The bytes of an expert, tightly packed for its layout, from the shards or from a sidecar. -/
namespace LightBridge.Hy3
open Foundation Kernels Io Format Prepare ValidatedModel

/-- `ExpertReadError`. -/
inductive ExpertReadError where
  | direct (error : SidecarFailure)
  | sidecar (error : SidecarError)
  | segmentLength (segment : String) (expected actual : Nat)
  | arithmeticOverflow
  | allocationFailed (requested : Nat)

inductive ExpertSource where
  | direct (store : DirectExpertStore)
  | sidecar (sidecar : Sidecar)

/-- The matrices of an expert. -/
structure ExpertParts where
  gate : List UInt8
  up : List UInt8
  down : List UInt8
  deriving DecidableEq, Repr

namespace ExpertSource

/-- What `read_expert` answers. A range that is not in the bytes would panic; the validation of a
manifest leaves none. -/
def readParts (source : ExpertSource) (key : ExpertKey) : Except ExpertReadError ExpertParts :=
  match source with
  | .direct store => do
      let bytes ← wrap .direct (store.readExpert key)
      pure ⟨bytes.gate, bytes.up, bytes.down⟩
  | .sidecar file => do
      let expert ← wrap .sidecar (file.readExpert key)
      pure ⟨(indexRange expert.bytes expert.gate).getD [],
        (indexRange expert.bytes expert.up).getD [], (indexRange expert.bytes expert.down).getD []⟩

def appendChecked (output bytes : List UInt8) (expected : Nat) (segment : String) :
    Except ExpertReadError (List UInt8) := do
  ensure (bytes.length = expected) (.segmentLength segment expected bytes.length)
  pure (output ++ bytes)

def readTight (reserved : Nat → Bool) (source : ExpertSource) (key : ExpertKey)
    (layout : ExpertPayloadLayout) :
    Except ExpertReadError (List UInt8) := do
  let expected ← wrap (fun _ => .arithmeticOverflow) (layout.totalBytes (ε := Unit))
  ensure (tryReserve (reserved expected) 1 expected) (.allocationFailed expected)
  let parts ← source.readParts key
  let output ← appendChecked [] parts.gate layout.gate.bytes "gate"
  let output ← appendChecked output parts.up layout.up.bytes "up"
  appendChecked output parts.down layout.down.bytes "down"

theorem appendChecked_eq_ok {output bytes result : List UInt8} {expected : Nat} {segment : String} :
    appendChecked output bytes expected segment = .ok result ↔ bytes.length = expected ∧
      result = output ++ bytes := by
  rw [appendChecked, except_bind_ok_iff]
  simp only [ensure_eq_ok, exists_const]
  exact and_congr_right fun _ => ⟨fun h => (Except.ok.inj h).symm, fun h => congrArg _ h.symm⟩

/-- A tight buffer is made of parts of the lengths of the layout. -/
theorem readTight_eq_ok {reserved : Nat → Bool} {source : ExpertSource} {key : ExpertKey}
    {layout : ExpertPayloadLayout} {output : List UInt8}
    (h : readTight reserved source key layout = .ok output) :
    ∃ parts, source.readParts key = .ok parts ∧ parts.gate.length = layout.gate.bytes ∧
      parts.up.length = layout.up.bytes ∧ parts.down.length = layout.down.bytes ∧
      output = parts.gate ++ parts.up ++ parts.down ∧
      layout.gate.bytes + layout.up.bytes + layout.down.bytes ≤ usizeMax := by
  obtain ⟨total, htotal, h⟩ := except_bind_ok_iff.mp h
  obtain ⟨_, -, h⟩ := except_bind_ok_iff.mp h
  obtain ⟨parts, hparts, h⟩ := except_bind_ok_iff.mp h
  obtain ⟨first, hgate, h⟩ := except_bind_ok_iff.mp h
  obtain ⟨second, hup, hdown⟩ := except_bind_ok_iff.mp h
  obtain ⟨hgateLength, rfl⟩ := appendChecked_eq_ok.mp hgate
  obtain ⟨hupLength, rfl⟩ := appendChecked_eq_ok.mp hup
  obtain ⟨hdownLength, rfl⟩ := appendChecked_eq_ok.mp hdown
  obtain ⟨front, hfront, hsum⟩ := Option.bind_eq_some_iff.mp (okOr_eq_ok.mp (wrap_eq_ok.mp htotal))
  obtain ⟨-, rfl⟩ := checkedAdd_eq_some.mp hfront
  exact ⟨parts, hparts, hgateLength, hupLength, hdownLength, rfl, (checkedAdd_eq_some.mp hsum).1⟩

end ExpertSource

/-! ### The layout of a layer -/

/-- The payload of a tensor that has a place in its file. -/
theorem Hy3Tensor.encodedBytes_eq (tensor : Hy3Tensor) :
    tensor.location.descriptor.encodedBytes = .ok tensor.byteLength := by
  obtain ⟨dataOffset, fileLen, h⟩ := tensor.location.located
  simp only [TensorDesc.checkedAbsoluteRange, except_bind_ok_iff, okOr_eq_ok, checkedAdd_eq_some,
    ensure_eq_ok] at h
  obtain ⟨_, ⟨-, rfl⟩, bytes, hbytes, _, ⟨-, rfl⟩, _, -, hrange⟩ := h
  obtain ⟨hstart, hstop⟩ := Prod.mk.inj (Except.ok.inj hrange)
  rw [hbytes, Hy3Tensor.byteLength, ← hstart, ← hstop, Nat.add_sub_cancel_left]

/-- The layout of a matrix, and the tensor it is the layout of. -/
theorem matrixLayout_eq_ok {ε : Type} {tensor : Hy3Tensor} {experts : Nat} {layout : MatrixLayout}
    (h : matrixLayout (ε := ε) tensor experts = .ok layout) :
    tensor.location.descriptor.shape = [layout.inputWidth, layout.outputWidth, experts] ∧
      layout.ty = tensor.location.descriptor.ty ∧
      layout.bytes = matrixBytes layout.ty layout.inputWidth layout.outputWidth := by
  obtain ⟨_, -, h⟩ := except_bind_ok_iff.mp h
  obtain ⟨⟨start, stop⟩, hslab, h⟩ := except_bind_ok_iff.mp h
  obtain ⟨-, hshape, hspan⟩ := checkedExpertSlab_eq_ok tensor.encodedBytes_eq (wrap_eq_ok.mp hslab)
  obtain ⟨rfl, rfl⟩ := Prod.mk.inj hspan
  cases h
  exact ⟨hshape, rfl, Nat.add_sub_cancel_left _ _⟩

/-- The kernel takes the bytes that a layout says, for a matrix of the layout. -/
theorem MatrixLayout.view_eq {ε : Type} {tensor : Hy3Tensor} {experts : Nat} {layout : MatrixLayout}
    (h : matrixLayout (ε := ε) tensor experts = .ok layout) (supported : layout.ty ∈ supportedTypes)
    {bytes : List UInt8}
    (hlength : bytes.length = layout.bytes) :
    layout.view (ε := ε) bytes = .ok ⟨layout.ty, layout.inputWidth,
      layout.outputWidth, layout.inputWidth / layout.ty.blockSize * layout.ty.typeSize, bytes⟩ := by
  obtain ⟨hshape, hty, hbytes⟩ := matrixLayout_eq_ok h
  obtain ⟨hinput, houtput, hexperts, hblock, hfits, hpayload⟩ :=
    payload_of_rank_three hshape tensor.encodedBytes_eq
  rw [← hty] at hblock hpayload
  have hslab : matrixBytes layout.ty layout.inputWidth layout.outputWidth ≤ usizeMax :=
    (Nat.le_mul_of_pos_left _ (Nat.pos_of_ne_zero hexperts)).trans (hpayload ▸ hfits)
  rw [MatrixLayout.view, (fromParts_eq_ok supported hinput houtput hblock hslab).mpr
    ⟨hlength.trans hbytes, rfl⟩]
  rfl

/-- The layout of a layer, matrix by matrix. -/
theorem expertLayout_eq_ok {ε : Type} {model : ValidatedModel} {layer : Nat}
    {layout : ExpertPayloadLayout}
    (h : model.expertLayout (ε := ε) layer = .ok layout) : ∃ gate up down : Hy3Tensor,
      model.tensorForRole (.routedGate layer) = some gate ∧
        model.tensorForRole (.routedUp layer) = some up ∧
      model.tensorForRole (.routedDown layer) = some down ∧
      matrixLayout (ε := ε) gate model.config.expertCount = .ok layout.gate ∧
      matrixLayout (ε := ε) up model.config.expertCount = .ok layout.up ∧
      matrixLayout (ε := ε) down model.config.expertCount = .ok layout.down := by
  obtain ⟨gate, hgate, h⟩ := except_bind_ok_iff.mp h
  obtain ⟨gateLayout, hgateLayout, h⟩ := except_bind_ok_iff.mp h
  obtain ⟨up, hup, h⟩ := except_bind_ok_iff.mp h
  obtain ⟨upLayout, hupLayout, h⟩ := except_bind_ok_iff.mp h
  obtain ⟨down, hdown, h⟩ := except_bind_ok_iff.mp h
  obtain ⟨downLayout, hdownLayout, h⟩ := except_bind_ok_iff.mp h
  cases h
  exact ⟨gate, up, down, okOr_eq_ok.mp hgate, okOr_eq_ok.mp hup, okOr_eq_ok.mp hdown, hgateLayout,
    hupLayout, hdownLayout⟩

/-- The matrix of a layout over some bytes. -/
def MatrixLayout.matrix (layout : MatrixLayout) (bytes : List UInt8) : PackedMatrix :=
  ⟨layout.ty, layout.inputWidth, layout.outputWidth,
    layout.inputWidth / layout.ty.blockSize * layout.ty.typeSize, bytes⟩

/-- The view of a tight buffer takes it apart again, and asks no more than that the shapes fit
together. -/
theorem ExpertPayloadLayout.view_eq {ε : Type} {model : ValidatedModel} {layer : Nat}
    {layout : ExpertPayloadLayout}
    (h : model.expertLayout (ε := ε) layer = .ok layout)
    (gateType : layout.gate.ty ∈ supportedTypes)
    (upType : layout.up.ty ∈ supportedTypes) (downType : layout.down.ty ∈ supportedTypes)
    {gate up down : List UInt8}
    (hgate : gate.length = layout.gate.bytes) (hup : up.length = layout.up.bytes)
    (hdown : down.length = layout.down.bytes)
    (fits : layout.gate.bytes + layout.up.bytes + layout.down.bytes ≤ usizeMax) :
    layout.view (ε := ε) (gate ++ up ++ down) =
      wrap .kernel
        (SwiGluExpert.new (layout.gate.matrix gate) (layout.up.matrix up)
          (layout.down.matrix down)) := by
  obtain ⟨_, _, _, -, -, -, hgateLayout, hupLayout, hdownLayout⟩ := expertLayout_eq_ok h
  have hfront : checkedAdd layout.gate.bytes layout.up.bytes =
      some (layout.gate.bytes + layout.up.bytes) :=
    checkedAdd_eq_some.mpr ⟨by omega, rfl⟩
  have htotal : layout.totalBytes (ε := ε) =
      .ok (layout.gate.bytes + layout.up.bytes + layout.down.bytes) := by
    rw [ExpertPayloadLayout.totalBytes, hfront, Option.bind_some, okOr_eq_ok]
    exact checkedAdd_eq_some.mpr ⟨fits, rfl⟩
  have hlength : (gate ++ up ++ down).length = layout.gate.bytes + layout.up.bytes +
      layout.down.bytes := by
    rw [List.length_append, List.length_append, hgate, hup, hdown]
  have hgatePart : (gate ++ up ++ down).take layout.gate.bytes = gate := by
    rw [List.append_assoc, ← hgate, List.take_left]
  have hupPart : ((gate ++ up ++ down).take (layout.gate.bytes + layout.up.bytes)).drop
      layout.gate.bytes = up := by
    rw [← hgate, ← hup, ← List.length_append, List.take_left, List.drop_left]
  have hdownPart : (gate ++ up ++ down).drop (layout.gate.bytes + layout.up.bytes) = down := by
    rw [← hgate, ← hup, ← List.length_append, List.drop_left]
  rw [ExpertPayloadLayout.view, htotal, except_ok_bind, (ensure_eq_ok (u := ())).mpr hlength,
    except_ok_bind]
  dsimp only
  rw [hfront, okOr, except_ok_bind, hgatePart, hupPart, hdownPart,
    MatrixLayout.view_eq hgateLayout gateType hgate, except_ok_bind,
    MatrixLayout.view_eq hupLayout upType hup, except_ok_bind,
    MatrixLayout.view_eq hdownLayout downType hdown, except_ok_bind]
  rfl

/-! ### The slabs that are read -/

/-- The bytes of the slab of an expert in a tensor. -/
def slabBytes (readers : List PositionedFile) (tensor : Hy3Tensor) (layout : MatrixLayout)
    (expert : Nat) : Option (List UInt8) :=
  readers[tensor.location.shardIndex]?.map fun reader =>
    slice reader.content (tensor.location.start + expert * layout.bytes) layout.bytes

/-- The segment of an expert is one slab of its tensor. -/
theorem sourceSegment_eq_ok {tensor : Hy3Tensor} {experts expert : Nat} {segment : SourceSegment}
    (h : sourceSegment tensor experts expert = .ok segment) : ∃ inputWidth outputWidth,
      tensor.location.descriptor.shape = [inputWidth, outputWidth, experts] ∧
      segment.shardIndex = tensor.location.shardIndex ∧
      segment.start = tensor.location.start + expert *
      matrixBytes tensor.location.descriptor.ty inputWidth outputWidth ∧
      segment.length = matrixBytes tensor.location.descriptor.ty inputWidth outputWidth := by
  obtain ⟨slab, hslab, h⟩ := except_bind_ok_iff.mp h
  obtain ⟨start, hstart, h⟩ := except_bind_ok_iff.mp h
  obtain ⟨stop, hstop, h⟩ := except_bind_ok_iff.mp h
  obtain ⟨-, hshape, rfl⟩ := checkedExpertSlab_eq_ok tensor.encodedBytes_eq (wrap_eq_ok.mp hslab)
  obtain ⟨-, rfl⟩ := checkedAdd_eq_some.mp (okOr_eq_ok.mp hstart)
  obtain ⟨-, rfl⟩ := checkedAdd_eq_some.mp (okOr_eq_ok.mp hstop)
  cases h
  refine ⟨_, _, hshape, rfl, rfl, ?_⟩
  rw [SourceSegment.length]
  dsimp only
  omega

/-- No segment is empty. -/
theorem sourceSegment_positive {tensor : Hy3Tensor} {experts expert : Nat} {segment : SourceSegment}
    (h : sourceSegment tensor experts expert = .ok segment) : 0 < segment.length := by
  obtain ⟨inputWidth, outputWidth, hshape, -, -, hlength⟩ := sourceSegment_eq_ok h
  obtain ⟨hinput, houtput, -, hblock, -⟩ := payload_of_rank_three hshape tensor.encodedBytes_eq
  rw [hlength]
  exact matrixBytes_pos hinput houtput hblock

/-- A read of the shards answers the slab of the expert. -/
theorem readSegment_eq {ε : Type} {store : DirectExpertStore} {tensor : Hy3Tensor}
    {experts expert : Nat} {segment : SourceSegment}
    {layout : MatrixLayout} (hlayout : matrixLayout (ε := ε) tensor experts = .ok layout)
    (hsegment : sourceSegment tensor experts expert = .ok segment) {bytes : List UInt8}
    (h : store.readSegment segment = .ok bytes) : slabBytes store.readers tensor layout expert =
      some bytes := by
  obtain ⟨hshape, hty, hbytes⟩ := matrixLayout_eq_ok hlayout
  obtain ⟨_, _, hshape', hshard, hstart, hlength⟩ := sourceSegment_eq_ok hsegment
  cases hshape'.symm.trans hshape
  obtain ⟨reader, hreader, h⟩ := except_bind_ok_iff.mp h
  rw [hshard] at hreader
  rw [← hty, ← hbytes] at hstart hlength
  rw [slabBytes, okOr_eq_ok.mp hreader, Option.map_some,
    PositionedFile.readExactAt_eq_ok (wrap_eq_ok.mp h), ← hstart, ← hlength, SourceSegment.length]

/-- What the store answers for an expert are its slabs in the tensors of its layer. -/
theorem direct_readParts {ε : Type} {reserved : Nat → Bool} {store : DirectExpertStore}
    {model : ValidatedModel} (built : DirectExpertIndex.build reserved model = .ok store.index)
    {key : ExpertKey} {layout : ExpertPayloadLayout}
    (hlayout : model.expertLayout (ε := ε) key.layer = .ok layout) {parts : ExpertParts}
    (h : (ExpertSource.direct store).readParts key = .ok parts) : ∃ gate up down : Hy3Tensor,
      model.tensorForRole (.routedGate key.layer) = some gate ∧
        model.tensorForRole (.routedUp key.layer) = some up ∧
      model.tensorForRole (.routedDown key.layer) = some down ∧
      slabBytes store.readers gate layout.gate key.expert = some parts.gate ∧
      slabBytes store.readers up layout.up key.expert = some parts.up ∧
      slabBytes store.readers down layout.down key.expert = some parts.down := by
  obtain ⟨bytes, hbytes, h⟩ := except_bind_ok_iff.mp h
  cases h
  obtain ⟨record, hrecord, hread⟩ := except_bind_ok_iff.mp (wrap_eq_ok.mp hbytes)
  obtain ⟨gateBytes, hgateBytes, hread⟩ := except_bind_ok_iff.mp hread
  obtain ⟨upBytes, hupBytes, hread⟩ := except_bind_ok_iff.mp hread
  obtain ⟨downBytes, hdownBytes, hread⟩ := except_bind_ok_iff.mp hread
  cases hread
  obtain ⟨hmem, rfl⟩ := (DirectExpertIndex.get_eq_some built).mp (okOr_eq_ok.mp hrecord)
  obtain ⟨gate, up, down, hsources⟩ := (DirectExpertIndex.build_eq_ok built).2 record hmem
  obtain ⟨gate', up', down', hgate, hup, hdown, hgateLayout, hupLayout, hdownLayout⟩ :=
    expertLayout_eq_ok hlayout
  cases hsources.gateRole.symm.trans hgate
  cases hsources.upRole.symm.trans hup
  cases hsources.downRole.symm.trans hdown
  exact ⟨gate, up, down, hgate, hup, hdown,
    readSegment_eq hgateLayout hsources.gateSegment hgateBytes,
    readSegment_eq hupLayout hsources.upSegment hupBytes,
    readSegment_eq hdownLayout hsources.downSegment hdownBytes⟩

/-- The slabs of a tensor of three dimensions tile it and are each the bytes of one matrix. A tight
buffer that is read for a layer is then viewed as the three matrices it was made of, which are,
where the shards are read, the slabs of the expert in the tensors of its layer. -/
theorem expert_slabs_fit {ε : Type} :
    (∀ (desc : TensorDesc) (inputWidth outputWidth experts payload : Nat),
      desc.shape = [inputWidth, outputWidth, experts] →
        desc.ty ∈ supportedTypes → desc.encodedBytes = .ok payload →
        ∃ spans, (List.range experts).mapM
          (checkedExpertSlab desc.name desc.shape payload experts) = .ok spans ∧
          Tiled 0 spans payload ∧ (spans.Pairwise fun first second => first.2 ≤ second.1) ∧
          (∀ place < payload, ∃ span ∈ spans, span.1 ≤ place ∧ place < span.2) ∧
          ∀ span ∈ spans, ∀ bytes : List UInt8,
            (∃ matrix, PackedMatrix.fromParts desc.ty .little inputWidth outputWidth bytes =
            .ok matrix) ↔
              bytes.length = span.2 - span.1) ∧
      ∀ (model : ValidatedModel) (key : ExpertKey) (layout : ExpertPayloadLayout),
        model.expertLayout (ε := ε) key.layer = .ok layout → layout.gate.ty ∈ supportedTypes →
        layout.up.ty ∈ supportedTypes → layout.down.ty ∈ supportedTypes →
        ∀ (reserved : Nat → Bool) (source : ExpertSource) (output : List UInt8),
          source.readTight reserved key layout = .ok output →
          ∃ parts, source.readParts key = .ok parts ∧
            output = parts.gate ++ parts.up ++ parts.down ∧
            layout.view (ε := ε) output = wrap .kernel
              (SwiGluExpert.new (layout.gate.matrix parts.gate)
                (layout.up.matrix parts.up) (layout.down.matrix parts.down)) ∧
            ∀ store, source = .direct store → DirectExpertIndex.build reserved model =
              .ok store.index →
              ∃ gate up down : Hy3Tensor, model.tensorForRole (.routedGate key.layer) = some gate ∧
                model.tensorForRole (.routedUp key.layer) = some up ∧
                  model.tensorForRole (.routedDown key.layer) = some down ∧
                slabBytes store.readers gate layout.gate key.expert = some parts.gate ∧
                slabBytes store.readers up layout.up key.expert = some parts.up ∧
                slabBytes store.readers down layout.down key.expert = some parts.down := by
  constructor
  · intro desc inputWidth outputWidth experts payload hshape supported hpayload
    obtain ⟨spans, hspans, htiled, hbytes⟩ := slabs_tile hshape supported hpayload
    exact ⟨spans, hspans, htiled, htiled.pairwise, fun place hplace =>
      htiled.covers (Nat.zero_le _) hplace, hbytes⟩
  · intro model key layout hlayout gateType upType downType reserved source output hread
    obtain ⟨parts, hparts, hgate, hup, hdown, rfl, fits⟩ := ExpertSource.readTight_eq_ok hread
    refine ⟨parts, hparts, rfl,
      ExpertPayloadLayout.view_eq hlayout gateType upType downType hgate hup hdown fits, ?_⟩
    rintro store rfl built
    exact direct_readParts built hlayout hparts

/-! ### Two experts in one file -/

/-- Two slabs of one element. -/
def slabAt (name : String) (offset : Nat) : TensorDesc :=
  { slabTensor with name, relativeOffset := offset }

theorem slabAt_payloadBytes (name : String) (offset : Nat) :
    (slabAt name offset).payloadBytes = 8 := by
  simp [TensorDesc.payloadBytes, slabAt, slabTensor, GgmlType.blockSize, GgmlType.typeSize]

def slabLocation (name : String) (offset : Nat) (inside : offset + 8 ≤ 96) : TensorLocation where
  shardIndex := 0
  descriptor := slabAt name offset
  start := offset
  stop := offset + 8
  located := ⟨0, 96, ((slabAt name offset).checkedAbsoluteRange_eq_ok (by decide)).mpr
    (by rw [slabAt_payloadBytes, slabAt, Nat.zero_add]; exact ⟨inside, rfl⟩)⟩

def twoExperts : ValidatedModel where
  config := configOf 2
  tensors := [⟨.routedGate 1, slabLocation "blk.1.ffn_gate_exps.weight" 0 (by decide)⟩,
    ⟨.routedUp 1, slabLocation "blk.1.ffn_up_exps.weight" 32 (by decide)⟩,
    ⟨.routedDown 1, slabLocation "blk.1.ffn_down_exps.weight" 64 (by decide)⟩]
  topK := by decide
  roles := by decide
  placed := by decide

def twoExpertsRecord (expert : Nat) : DirectExpertRecord where
  key := ⟨1, expert⟩
  gate := ⟨0, 4 * expert, 4 * expert + 4, "F32"⟩
  up := ⟨0, 32 + 4 * expert, 32 + 4 * expert + 4, "F32"⟩
  down := ⟨0, 64 + 4 * expert, 64 + 4 * expert + 4, "F32"⟩

def twoExpertsStore : DirectExpertStore where
  readers := [⟨(List.range 96).map UInt8.ofNat, 8, fun _ _ => none, fun _ => true⟩]
  index := ⟨[twoExpertsRecord 0, twoExpertsRecord 1]⟩

def oneElement : MatrixLayout := ⟨.f32, 1, 1, 4⟩

/-- The bytes of the second expert are viewed as its three matrices. -/
theorem expert_slabs_fit_two :
    (∃ matrix, PackedMatrix.fromParts .f32 .little 1 1 [4, 5, 6, 7] = .ok matrix) ∧
      ∃ output, (ExpertSource.direct twoExpertsStore).readTight (fun _ => true) ⟨1, 1⟩
        ⟨oneElement, oneElement, oneElement⟩ = .ok output ∧
        ExpertPayloadLayout.view (ε := Unit) ⟨oneElement, oneElement, oneElement⟩ output =
          wrap .kernel
            (SwiGluExpert.new (oneElement.matrix [4, 5, 6, 7]) (oneElement.matrix [36, 37, 38, 39])
              (oneElement.matrix [68, 69, 70, 71])) := by
  obtain ⟨hslabs, htight⟩ := expert_slabs_fit (ε := Unit)
  constructor
  · obtain ⟨spans, hspans, -, -, -, hmatrix⟩ := hslabs slabTensor 1 1 2 8 rfl (by decide) rfl
    cases hspans
    exact (hmatrix (4, 8) (by decide) [4, 5, 6, 7]).mpr rfl
  · have hread : (ExpertSource.direct twoExpertsStore).readTight (fun _ => true) ⟨1, 1⟩
        ⟨oneElement, oneElement, oneElement⟩ =
        .ok [4, 5, 6, 7, 36, 37, 38, 39, 68, 69, 70, 71] := by rfl
    obtain ⟨parts, hparts, -, hview, -⟩ :=
      htight twoExperts ⟨1, 1⟩ ⟨oneElement, oneElement, oneElement⟩ rfl (by decide) (by decide)
      (by decide) (fun _ => true) (.direct twoExpertsStore) _ hread
    have hslabs : (ExpertSource.direct twoExpertsStore).readParts ⟨1, 1⟩ =
        .ok ⟨[4, 5, 6, 7], [36, 37, 38, 39], [68, 69, 70, 71]⟩ := by rfl
    cases hparts.symm.trans hslabs
    exact ⟨_, hread, hview⟩

end LightBridge.Hy3

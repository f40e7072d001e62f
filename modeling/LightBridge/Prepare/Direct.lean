import LightBridge.Format.Manifest
import LightBridge.Hy3.ExpertSlabs
import LightBridge.Prepare.Commit

/-! `DirectExpertStore`: the experts of a validated model, read from the shards themselves. -/
namespace LightBridge.Prepare
open Foundation Io Hy3 Format

/-- `PrepareError`. The errors of paths and outputs are those of the commit. -/
inductive SidecarFailure where
  | hy3 (error : Hy3Error)
  | read (error : ReadError)
  | format (error : FormatError)
  | files (error : PrepareError)
  | noMoeLayers
  | missingTensorRole (role : Hy3TensorRole)
  | missingExpert (key : ExpertKey)
  | shardIndexOutOfRange (index : Nat)
  | segmentLengthMismatch (key : ExpertKey) (expected actual : Nat)
  | invalidHashChunk (actual maximum : Nat)
  | sourceCountMismatch (expected actual : Nat)
  | sourceIdentityMismatch (ordinal expectedLength actualLength : Nat)
      (expectedSha256 actualSha256 : String)
  | directoryHashMismatch (expected actual : String)
  | cancelled
  | clockBeforeEpoch
  | arithmeticOverflow
  | allocationFailed (requested : Nat)

structure SourceSegment where
  shardIndex : Nat
  start : Nat
  stop : Nat
  ggmlType : String
  deriving DecidableEq, Repr

def SourceSegment.length (segment : SourceSegment) : Nat := segment.stop - segment.start

structure DirectExpertRecord where
  key : ExpertKey
  gate : SourceSegment
  up : SourceSegment
  down : SourceSegment
  deriving DecidableEq, Repr

structure DirectExpertIndex where
  records : List DirectExpertRecord

def requiredTensor (model : ValidatedModel) (role : Hy3TensorRole) :
    Except SidecarFailure Hy3Tensor :=
  okOr (model.tensorForRole role) (.missingTensorRole role)

def sourceSegment (tensor : Hy3Tensor) (expertCount expert : Nat) :
    Except SidecarFailure SourceSegment := do
  let slab ← wrap .hy3
    (ValidatedModel.checkedExpertSlab tensor.location.descriptor.name
      tensor.location.descriptor.shape
    tensor.byteLength expertCount expert)
  let start ← okOr (checkedAdd tensor.location.start slab.1) .arithmeticOverflow
  let stop ← okOr (checkedAdd tensor.location.start slab.2) .arithmeticOverflow
  pure { shardIndex := tensor.location.shardIndex, start, stop,
         ggmlType := tensor.location.descriptor.ty.name }

namespace DirectExpertIndex

/-- The record of one expert, from the tensors of its layer. -/
def expertRecord (gate up down : Hy3Tensor) (expertCount layer expert : Nat) :
    Except SidecarFailure DirectExpertRecord := do
  let gate ← sourceSegment gate expertCount expert
  let up ← sourceSegment up expertCount expert
  let down ← sourceSegment down expertCount expert
  pure { key := ⟨layer, expert⟩, gate, up, down }

/-- The records of one layer. -/
def layerRecords (model : ValidatedModel) (layer : Nat) :
    Except SidecarFailure (List DirectExpertRecord) := do
  let gate ← requiredTensor model (.routedGate layer)
  let up ← requiredTensor model (.routedUp layer)
  let down ← requiredTensor model (.routedDown layer)
  (List.range model.config.expertCount).mapM
    (expertRecord gate up down model.config.expertCount layer)

/-- `reserved` is the allocator's answer for that many records. -/
def build (reserved : Nat → Bool) (model : ValidatedModel) :
    Except SidecarFailure DirectExpertIndex := do
  let moeLayerCount ← okOr (checkedSub model.config.blockCount 1) .noMoeLayers
  let capacity ← okOr (checkedMul moeLayerCount model.config.expertCount) .arithmeticOverflow
  ensure (reserved capacity) (.allocationFailed capacity)
  let layers ← (List.range' 1 (model.config.blockCount - 1)).mapM (layerRecords model)
  pure { records := layers.flatten }

def get (index : DirectExpertIndex) (key : ExpertKey) : Option DirectExpertRecord :=
  (binarySearchByKey (fun record : DirectExpertRecord => rank record.key) index.records
    (rank key)).bind (index.records[·]?)

def maximumSegmentBytes (index : DirectExpertIndex) : Except SidecarFailure Nat := do
  let maximum :=
    ((index.records.flatMap fun record => [record.gate, record.up, record.down]).map
      SourceSegment.length).max?.getD 0
  ensure (maximum ≤ usizeMax) .arithmeticOverflow
  pure maximum

end DirectExpertIndex

/-- What the host answers while the store is opened and read. -/
structure StoreHost where
  opening : Nat → Option ReadError
  fault : Nat → Nat → Nat → Option ReadError
  readGranted : Nat → Nat → Bool
  reserved : Nat → Bool

structure DirectExpertStore where
  readers : List PositionedFile
  index : DirectExpertIndex

structure DirectExpertBytes where
  gate : List UInt8
  up : List UInt8
  down : List UInt8
  gateType : String
  upType : String
  downType : String
  deriving DecidableEq, Repr

namespace DirectExpertStore

/-- The reader of one shard. -/
def openReader (host : StoreHost) (maximum : Nat) (shard : GgufShard × Nat) :
    Except SidecarFailure PositionedFile :=
  match host.opening shard.2 with
  | some error => .error (.read error)
  | none =>
      .ok { content := shard.1.content, maxRequestBytes := maximum, fault := host.fault shard.2,
            granted := host.readGranted shard.2 }

/-- `DirectExpertStore::open`. -/
def new (host : StoreHost) (set : GgufSet) (model : ValidatedModel) :
    Except SidecarFailure DirectExpertStore := do
  let index ← DirectExpertIndex.build host.reserved model
  let maximum ← index.maximumSegmentBytes
  ensure (host.reserved set.files.length) (.allocationFailed set.files.length)
  let readers ← set.files.zipIdx.mapM (openReader host (max maximum 1))
  pure { readers, index }

def readSegment (store : DirectExpertStore) (segment : SourceSegment) :
    Except SidecarFailure (List UInt8) := do
  let reader ← okOr store.readers[segment.shardIndex]? (.shardIndexOutOfRange segment.shardIndex)
  wrap .read (reader.readExactAt segment.start segment.stop)

def readExpert (store : DirectExpertStore) (key : ExpertKey) :
    Except SidecarFailure DirectExpertBytes := do
  let record ← okOr (store.index.get key) (.missingExpert key)
  let gate ← store.readSegment record.gate
  let up ← store.readSegment record.up
  let down ← store.readSegment record.down
  pure {
    gate, up, down, gateType := record.gate.ggmlType, upType := record.up.ggmlType,
    downType := record.down.ggmlType }

end DirectExpertStore

/-! ### The records of the index -/

/-- The keys of the experts, layer by layer. -/
def expertKeys (blockCount expertCount : Nat) : List ExpertKey :=
  (List.range' 1 (blockCount - 1)).flatMap fun layer => (List.range expertCount).map (⟨layer, ·⟩)

theorem rank_lt_iff {a b : ExpertKey} : rank a < rank b ↔ a.layer < b.layer ∨ a.layer = b.layer ∧
      a.expert < b.expert :=
  Prod.Lex.toLex_lt_toLex

/-- The keys ascend. -/
theorem expertKeys_sorted (blockCount expertCount : Nat) :
    (expertKeys blockCount expertCount).Pairwise fun a b => rank a < rank b := by
  rw [expertKeys, List.pairwise_flatMap]
  constructor
  · intro layer _
    rw [List.pairwise_map]
    refine List.pairwise_lt_range.imp ?_
    intro first second hlt
    exact rank_lt_iff.mpr (.inr ⟨rfl, hlt⟩)
  · have hlayers : (List.range' 1 (blockCount - 1)).Pairwise (· < ·) :=
      List.pairwise_lt_range' 1 (by decide)
    refine hlayers.imp ?_
    intro first second hlt a ha b hb
    obtain ⟨_, -, rfl⟩ := List.mem_map.mp ha
    obtain ⟨_, -, rfl⟩ := List.mem_map.mp hb
    exact rank_lt_iff.mpr (.inl hlt)

namespace DirectExpertIndex

theorem expertRecord_eq_ok {gate up down : Hy3Tensor} {expertCount layer expert : Nat}
    {record : DirectExpertRecord}
    (h : expertRecord gate up down expertCount layer expert = .ok record) :
    record.key = ⟨layer, expert⟩ ∧ sourceSegment gate expertCount expert = .ok record.gate ∧
      sourceSegment up expertCount expert = .ok record.up ∧ sourceSegment down expertCount expert =
      .ok record.down := by
  obtain ⟨_, hgate, h⟩ := except_bind_ok_iff.mp h
  obtain ⟨_, hup, h⟩ := except_bind_ok_iff.mp h
  obtain ⟨_, hdown, h⟩ := except_bind_ok_iff.mp h
  cases h
  exact ⟨rfl, hgate, hup, hdown⟩

/-- The tensors of a layer, and the segments that a record of it has in them. -/
structure Sources (model : ValidatedModel) (record : DirectExpertRecord)
    (gate up down : Hy3Tensor) : Prop where
  gateRole : model.tensorForRole (.routedGate record.key.layer) = some gate
  upRole : model.tensorForRole (.routedUp record.key.layer) = some up
  downRole : model.tensorForRole (.routedDown record.key.layer) = some down
  gateSegment : sourceSegment gate model.config.expertCount record.key.expert = .ok record.gate
  upSegment : sourceSegment up model.config.expertCount record.key.expert = .ok record.up
  downSegment : sourceSegment down model.config.expertCount record.key.expert = .ok record.down

theorem layerRecords_eq_ok {model : ValidatedModel} {layer : Nat}
    {records : List DirectExpertRecord} (h : layerRecords model layer = .ok records) :
    records.map DirectExpertRecord.key = (List.range model.config.expertCount).map (⟨layer, ·⟩) ∧
      ∀ record ∈ records, ∃ gate up down, Sources model record gate up down := by
  obtain ⟨gate, hgate, h⟩ := except_bind_ok_iff.mp h
  obtain ⟨up, hup, h⟩ := except_bind_ok_iff.mp h
  obtain ⟨down, hdown, h⟩ := except_bind_ok_iff.mp h
  have hlength := (except_mapM_ok_iff.mp h).length_eq
  constructor
  · apply List.ext_getElem
    · rw [List.length_map, List.length_map, hlength]
    · intro i hi hi'
      rw [List.length_map] at hi hi'
      rw [List.getElem_map, List.getElem_map, (expertRecord_eq_ok (except_mapM_getElem h hi' hi)).1]
  · refine except_mapM_forall h fun expert _ record hrecord => ?_
    obtain ⟨hkey, hgateSegment, hupSegment, hdownSegment⟩ := expertRecord_eq_ok hrecord
    exact ⟨gate, up, down, by rw [hkey]; exact okOr_eq_ok.mp hgate,
      by rw [hkey]; exact okOr_eq_ok.mp hup, by rw [hkey]; exact okOr_eq_ok.mp hdown, by rwa [hkey],
      by rwa [hkey], by rwa [hkey]⟩

/-- The index has a record for every expert, in the order of the keys. -/
theorem build_eq_ok {reserved : Nat → Bool} {model : ValidatedModel} {index : DirectExpertIndex}
    (h : build reserved model = .ok index) :
    index.records.map DirectExpertRecord.key =
      expertKeys model.config.blockCount model.config.expertCount ∧
      ∀ record ∈ index.records, ∃ gate up down, Sources model record gate up down := by
  obtain ⟨_, -, h⟩ := except_bind_ok_iff.mp h
  obtain ⟨_, -, h⟩ := except_bind_ok_iff.mp h
  obtain ⟨_, -, h⟩ := except_bind_ok_iff.mp h
  obtain ⟨layers, hlayers, h⟩ := except_bind_ok_iff.mp h
  cases h
  constructor
  · have hkeys : layers.map (List.map DirectExpertRecord.key) =
        (List.range' 1 (model.config.blockCount - 1)).map
          fun layer => (List.range model.config.expertCount).map (⟨layer, ·⟩) := by
      have hlength := (except_mapM_ok_iff.mp hlayers).length_eq
      apply List.ext_getElem
      · rw [List.length_map, List.length_map, hlength]
      · intro i hi hi'
        rw [List.length_map] at hi hi'
        rw [List.getElem_map, List.getElem_map,
          (layerRecords_eq_ok (except_mapM_getElem hlayers hi' hi)).1]
    rw [List.map_flatten, hkeys, expertKeys, List.flatMap_def]
  · intro record hrecord
    obtain ⟨records, hmem, hrecord⟩ := List.mem_flatten.mp hrecord
    exact except_mapM_forall hlayers (fun _ _ _ hlayer => (layerRecords_eq_ok hlayer).2) records
      hmem record hrecord

/-- A key finds its own record. -/
theorem get_eq_some {reserved : Nat → Bool} {model : ValidatedModel} {index : DirectExpertIndex}
    (h : build reserved model = .ok index) {key : ExpertKey} {record : DirectExpertRecord} :
    index.get key = some record ↔ record ∈ index.records ∧ record.key = key := by
  have hsorted : index.records.Pairwise fun a b => rank a.key < rank b.key := by
    have hkeys := expertKeys_sorted model.config.blockCount model.config.expertCount
    rwa [← (build_eq_ok h).1, List.pairwise_map] at hkeys
  exact find_by_rank hsorted

end DirectExpertIndex
end LightBridge.Prepare

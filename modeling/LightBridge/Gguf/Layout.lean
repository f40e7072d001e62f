import Mathlib.Algebra.Order.BigOperators.GroupWithZero.List
import LightBridge.Foundation.Tiling
import LightBridge.Gguf.Budget

/-! Where the payloads of an accepted GGUF file are. -/
namespace LightBridge.Gguf
open Foundation Foundation.Command

/-- The bytes of a payload with its padding. -/
def paddedBytes (alignment : Nat) (tensor : TensorDesc) : Nat :=
  roundUp tensor.payloadBytes alignment

/-- The bytes of the file that a payload is. -/
def payloadSpan (dataOffset : Nat) (tensor : TensorDesc) : Nat × Nat :=
  (dataOffset + tensor.relativeOffset, dataOffset + tensor.relativeOffset + tensor.payloadBytes)

/-- The payloads of a file lie one behind the other, each at the alignment, from the end of its
directory on. -/
structure LaidOut (file : GgufFile) (directoryEnd : Nat) : Prop where
  alignment : file.alignment.isPowerOfTwo
  dataOffset : file.dataOffset = roundUp directoryEnd file.alignment
  offset : ∀ i (h : i < file.tensors.length),
    file.tensors[i].relativeOffset = ((file.tensors.take i).map (paddedBytes file.alignment)).sum
  length : ∀ tensor ∈ file.tensors, tensor.encodedBytes = .ok tensor.payloadBytes ∧
    tensor.payloadBytes * tensor.ty.blockSize = tensor.shape.prod * tensor.ty.typeSize
  span : ∀ tensor ∈ file.tensors,
    tensor.checkedAbsoluteRange file.dataOffset file.fileLen =
      .ok (payloadSpan file.dataOffset tensor)
  aligned : ∀ tensor ∈ file.tensors, file.alignment ∣ (payloadSpan file.dataOffset tensor).1
  inside : ∀ tensor ∈ file.tensors,
    (payloadSpan file.dataOffset tensor).1 < (payloadSpan file.dataOffset tensor).2 ∧
    (payloadSpan file.dataOffset tensor).2 ≤ file.fileLen
  ordered : file.tensors.Pairwise fun first second =>
    (payloadSpan file.dataOffset first).2 ≤ (payloadSpan file.dataOffset second).1

/-! ### The loop over the directory -/

theorem payloadBytes_mul_blockSize (tensor : TensorDesc) :
    tensor.payloadBytes * tensor.ty.blockSize = tensor.shape.prod * tensor.ty.typeSize := by
  rw [TensorDesc.payloadBytes, Nat.mul_right_comm, Nat.div_mul_cancel tensor.dvd_prod_shape]

theorem payloadBytes_pos (tensor : TensorDesc) : 0 < tensor.payloadBytes := by
  have hdimensions := (computeStrides_eq_ok tensor.computed).2.1
  have hprod : 0 < tensor.shape.prod := List.prod_pos fun dimension h =>
      Nat.pos_of_ne_zero (hdimensions dimension h)
  have hsize : 0 < tensor.ty.typeSize := by
    cases tensor.ty <;> decide
  have hblocks := Nat.div_pos (Nat.le_of_dvd hprod tensor.dvd_prod_shape) tensor.ty.blockSize_pos
  exact Nat.mul_pos hblocks hsize

section Loop
variable {alignment dataOffset fileLen : Nat}

/-- One round of the loop. -/
theorem layOut_cons_eq_ok {extent last : Nat} {tensor : TensorDesc} {tensors : List TensorDesc}
    (hpower : alignment.isPowerOfTwo) (hfile : fileLen ≤ usizeMax)
    (h : GgufReader.layOut alignment dataOffset fileLen extent (tensor :: tensors) = .ok last) :
    tensor.relativeOffset = extent ∧ tensor.encodedBytes = .ok tensor.payloadBytes ∧
      tensor.checkedAbsoluteRange dataOffset fileLen = .ok (payloadSpan dataOffset tensor) ∧
      (payloadSpan dataOffset tensor).2 ≤ fileLen ∧
      GgufReader.layOut alignment dataOffset fileLen
        (extent + paddedBytes alignment tensor) tensors = .ok last := by
  simp only [GgufReader.layOut, except_bind_ok_iff, ensure_eq_ok, exists_const, wrap_eq_ok,
    okOr_eq_ok, checkedAdd_eq_some, alignUp_eq_some_iff hpower] at h
  obtain ⟨hoffset, encoded, hencoded, padded, ⟨-, rfl⟩, next, ⟨-, rfl⟩, range, hrange, h⟩ := h
  obtain ⟨-, rfl⟩ := tensor.encodedBytes_eq_ok.mp hencoded
  obtain ⟨hinside, rfl⟩ := (tensor.checkedAbsoluteRange_eq_ok hfile).mp hrange
  exact ⟨hoffset, hencoded, hrange, hinside, h⟩

theorem layOut_eq_ok {extent last : Nat} {tensors : List TensorDesc}
    (hpower : alignment.isPowerOfTwo) (hfile : fileLen ≤ usizeMax)
    (h : GgufReader.layOut alignment dataOffset fileLen extent tensors = .ok last) :
    (∀ i (hi : i < tensors.length),
      tensors[i].relativeOffset = extent + ((tensors.take i).map (paddedBytes alignment)).sum) ∧
      ∀ tensor ∈ tensors, tensor.encodedBytes = .ok tensor.payloadBytes ∧
        tensor.checkedAbsoluteRange dataOffset fileLen = .ok (payloadSpan dataOffset tensor) ∧
        (payloadSpan dataOffset tensor).2 ≤ fileLen := by
  induction tensors generalizing extent with
  | nil => exact ⟨fun i hi => absurd hi (Nat.not_lt_zero i), nofun⟩
  | cons tensor tensors ih =>
      obtain ⟨hoffset, hencoded, hrange, hinside, hrest⟩ := layOut_cons_eq_ok hpower hfile h
      obtain ⟨hoffsets, hall⟩ := ih hrest
      constructor
      · intro i hi
        cases i with
        | zero => exact hoffset
        | succ i =>
            rw [List.getElem_cons_succ, hoffsets i (Nat.lt_of_succ_lt_succ hi), List.take_succ_cons,
              List.map_cons, List.sum_cons, Nat.add_assoc]
      · exact List.forall_mem_cons.mpr ⟨⟨hencoded, hrange, hinside⟩, hall⟩

/-- The padded payloads tile the data section, and each begins at a multiple of the alignment. -/
theorem layOut_tiled {extent last : Nat} {tensors : List TensorDesc}
    (hpower : alignment.isPowerOfTwo) (hfile : fileLen ≤ usizeMax) (hextent : alignment ∣ extent)
    (h : GgufReader.layOut alignment dataOffset fileLen extent tensors = .ok last) :
    Tiled extent (tensors.map fun tensor =>
      (tensor.relativeOffset, tensor.relativeOffset + paddedBytes alignment tensor)) last ∧
      ∀ tensor ∈ tensors, alignment ∣ tensor.relativeOffset := by
  induction tensors generalizing extent with
  | nil =>
      cases h
      exact ⟨.nil _, nofun⟩
  | cons tensor tensors ih =>
      obtain ⟨rfl, -, -, -, hrest⟩ := layOut_cons_eq_ok hpower hfile h
      obtain ⟨htiled, hall⟩ := ih (Nat.dvd_add hextent (dvd_roundUp _ _)) hrest
      exact ⟨.cons (Nat.le_add_right _ _) htiled, List.forall_mem_cons.mpr ⟨hextent, hall⟩⟩

end Loop

namespace GgufReader
variable {source : Source} {limits : ReaderLimits} {budget : GgufValueType → Nat → Reader Nat}

theorem alignmentOf_eq_ok {metadata : List (String × GgufValue)} {alignment : Nat}
    (h : alignmentOf metadata = .ok alignment) :
    alignment.isPowerOfTwo := by
  rw [alignmentOf] at h
  split at h
  · cases h
    exact ⟨5, rfl⟩
  · obtain ⟨hpower, rfl⟩ := ensure_pure_eq_ok.mp h
    exact hpower.2
  · cases h

theorem readDirectory_alignment {directory : Directory} {reader next : GgufReader}
    (h : readDirectory budget reader = (.ok directory, next)) :
    directory.alignment.isPowerOfTwo := by
  simp only [readDirectory, bind_ok_iff] at h
  obtain ⟨_, _, -, _, _, -, _, _, -, _, _, -, _, _, -, _, _, -, metadata, _, -, alignment, _,
    halignment, tensors, _, -, h⟩ := h
  cases h
  exact alignmentOf_eq_ok (Prod.mk.inj halignment).1

/-- What `read` does behind the directory. -/
structure Accepted (source : Source) (file : GgufFile) (directory : Directory)
    (reader last : GgufReader) : Prop where
  power : directory.alignment.isPowerOfTwo
  dataOffset : alignUp 64 reader.position directory.alignment = some file.dataOffset
  layout : checkLayout directory file.dataOffset file.fileLen = .ok ()
  version : file.version = directory.version
  endianness : file.endianness = reader.endianness
  metadata : file.metadata = directory.metadata
  tensors : file.tensors = directory.tensors
  alignment : file.alignment = directory.alignment
  fileLen : file.fileLen = source.bytes.length
  history : last.history = reader.history

theorem readWith_eq_ok (hbudget : ∀ type count, Audits source limits true [] (budget type count))
    {file : GgufFile} {last : GgufReader}
    (h : readWith budget (withLimits source limits) = (.ok file, last)) :
    ∃ directory magical reader, readMagic (withLimits source limits) = (.ok (), magical) ∧
      readDirectory budget magical = (.ok directory, reader) ∧
      Audited source limits false [] reader ∧
      Accepted source file directory reader last := by
  simp only [readWith, bind_ok_iff] at h
  obtain ⟨_, _, hstart, _, _, hlimit, _, magical, hmagic, directory, reader, hdirectory,
    directoryEnd, _, hposition, dataOffset, _,
    hrounded, fileLen, _, hend, _, _, hlayout, _, _, hread, hfile⟩ := h
  cases hstart
  obtain ⟨-, rfl⟩ := Prod.mk.inj hlimit
  have hmagical : Audited source limits false [] magical :=
    audits_readMagic.answers (audited_withLimits source limits) hmagic
  have hreader : Audited source limits false [] reader :=
    (audits_readDirectory hbudget).answers hmagical hdirectory
  obtain ⟨hdata, rfl⟩ := Prod.mk.inj hrounded
  obtain rfl := looks_streamPosition.run hposition
  rw [streamPosition] at hposition
  rw [seekEnd] at hend
  split at hposition
  · cases hposition
  · cases hposition
    split at hend
    · cases hend
    · cases hend
      obtain ⟨hlaid, rfl⟩ := Prod.mk.inj hlayout
      cases hread
      cases hfile
      refine ⟨directory, magical, _, hmagic, hdirectory, hreader, ?_⟩
      exact ⟨readDirectory_alignment hdirectory, okOr_eq_ok.mp hdata, hlaid, rfl, rfl,
        rfl, rfl, rfl, congrArg (fun s => s.bytes.length) hreader.source_eq, rfl⟩

end GgufReader

/-- The layout of an accepted file: its data section begins behind the directory, which is all that
was read, rounded up, and its payloads lie in it one behind the other, each as long as its
dimensions say. -/
theorem tensor_layout (source : Source) (limits : ReaderLimits) {file : GgufFile}
    {last : GgufReader} (h : GgufReader.read (.withLimits source limits) = (.ok file, last)) :
    LaidOut file (consumed last.history) ∧ file.fileLen = source.bytes.length := by
  obtain ⟨directory, -, reader, -, -, hreader, accepted⟩ :=
    GgufReader.readWith_eq_ok GgufReader.audits_checkArrayBudget h
  have hpower := accepted.power
  have hlayout := accepted.layout
  have hrounded := accepted.dataOffset
  rw [accepted.fileLen] at hlayout
  simp only [GgufReader.checkLayout, except_bind_ok_iff] at hlayout
  obtain ⟨_, -, extent, hlaid, -⟩ := hlayout
  rw [← accepted.alignment, ← accepted.tensors] at hlaid
  rw [← accepted.alignment] at hpower hrounded
  obtain ⟨hoffsets, hall⟩ := layOut_eq_ok hpower source.bytes_le hlaid
  obtain ⟨htiled, haligned⟩ := layOut_tiled hpower source.bytes_le (Nat.dvd_zero _) hlaid
  have hdata := ((alignUp_eq_some_iff hpower).mp hrounded).2
  rw [hreader.position_eq, ← accepted.history] at hdata
  refine ⟨?_, accepted.fileLen⟩
  constructor
  case alignment => exact hpower
  case dataOffset => exact hdata
  case offset =>
    intro i hi
    rw [hoffsets i hi, Nat.zero_add]
  case length => exact fun tensor hmem => ⟨(hall tensor hmem).1, payloadBytes_mul_blockSize tensor⟩
  case span =>
    intro tensor hmem
    rw [accepted.fileLen]
    exact (hall tensor hmem).2.1
  case aligned =>
    intro tensor hmem
    have hmultiple : file.alignment ∣ file.dataOffset := hdata ▸ dvd_roundUp _ _
    exact Nat.dvd_add hmultiple (haligned tensor hmem)
  case inside =>
    intro tensor hmem
    rw [accepted.fileLen]
    exact ⟨Nat.lt_add_of_pos_right (payloadBytes_pos tensor), (hall tensor hmem).2.2⟩
  case ordered =>
    refine (List.pairwise_map.mp htiled.pairwise).imp ?_
    intro first second hends
    have hpadded := le_roundUp first.payloadBytes (Nat.pos_of_isPowerOfTwo hpower)
    rw [paddedBytes] at hends
    rw [payloadSpan, payloadSpan]
    dsimp only at hends ⊢
    omega

/-- Two tensors behind an alignment and an array. -/
def twoTensors : Source where
  bytes := GgufReader.magic .little ++ leBytes 4 3 ++ leBytes 8 2 ++ leBytes 8 2 ++
    (encodeString .little "general.alignment" ++ leBytes 4 4 ++ leBytes 4 64) ++
    (encodeString .little "t" ++ leBytes 4 9 ++ leBytes 4 8 ++ leBytes 8 1 ++
      encodeString .little "x") ++
    (encodeString .little "a" ++ leBytes 4 1 ++ leBytes 8 2 ++ leBytes 4 0 ++ leBytes 8 0) ++
    (encodeString .little "b" ++ leBytes 4 2 ++ leBytes 8 2 ++ leBytes 8 3 ++ leBytes 4 0 ++
      leBytes 8 64) ++ List.replicate 155 0
  readFault _ _ := none
  positionFault := none
  seekFault := none
  granted _ _ := true
  bytes_le := by decide +kernel
  readFault_empty _ := rfl

theorem twoTensors_read :
    (GgufReader.read (.withLimits twoTensors .default)).1.toOption.map GgufFile.dataOffset =
      some 192 := by decide +kernel

theorem tensor_layout_two : ∃ file last, GgufReader.read (.withLimits twoTensors .default) =
      (.ok file, last) ∧
    file.dataOffset = 192 ∧ LaidOut file (consumed last.history) ∧ file.fileLen = 320 := by
  have hread := twoTensors_read
  rcases hrun : GgufReader.read (.withLimits twoTensors .default) with ⟨_ | file, last⟩
  · rw [hrun] at hread
    cases hread
  · rw [hrun] at hread
    obtain ⟨hlaid, hlength⟩ := tensor_layout twoTensors .default hrun
    have hsize : twoTensors.bytes.length = 320 := by decide +kernel
    exact ⟨file, last, rfl, Option.some.inj hread, hlaid, hlength.trans hsize⟩

end LightBridge.Gguf

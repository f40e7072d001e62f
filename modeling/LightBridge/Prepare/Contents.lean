import LightBridge.Prepare.Sidecar

/-! What is in the data of a sidecar: behind its header, each expert as the shards have it. -/
namespace LightBridge.Prepare
open Foundation Io Hy3 Format

/-! ### Writers that only append -/

/-- Nothing that was written changes. -/
structure Appends (before after : SidecarWriter) : Prop where
  grows : before.output <+: after.output
  tied : before.Tied → after.Tied

namespace Appends
variable {first second third : SidecarWriter}

theorem trans (h : Appends first second) (h' : Appends second third) : Appends first third :=
  ⟨h.grows.trans h'.grows, fun htied => h'.tied (h.tied htied)⟩

theorem rfl : Appends first first := ⟨List.prefix_rfl, id⟩

end Appends

section Writing
variable {host : PrepareHost} {path : Path} {before after : SidecarWriter}

theorem writeHashed_appends {bytes : List UInt8}
    (h : writeHashed host path before bytes = .ok after) :
    after.output = before.output ++ bytes ∧ after.position = before.position := by
  rw [writeHashed_eq_ok h]
  exact ⟨rfl, rfl⟩

theorem padToAlignment_appends {alignment : Nat}
    (h : padToAlignment host path alignment before = .ok after) : Appends before after := by
  refine ⟨?_, (padToAlignment_eq_ok h).tied⟩
  obtain ⟨aligned, -, h⟩ := except_bind_ok_iff.mp h
  obtain ⟨written, hwritten, h⟩ := except_bind_ok_iff.mp h
  cases h
  rw [writeZeroes_eq_ok (Nat.le_refl _) hwritten]
  exact List.prefix_append _ _

theorem padGate_appends {options : PrepareOptions}
    (h : padGate host path options before = .ok after) : Appends before after := by
  rw [padGate] at h
  split at h
  · exact padToAlignment_appends h
  · cases h
    exact Appends.rfl

/-- The segment of an output that holds the bytes of a source. -/
structure Holds (direct : DirectExpertStore) (output : List UInt8) (source : SourceSegment)
    (segment : Segment) : Prop where
  inside : segment.offset + segment.length ≤ output.length
  bytes : direct.readSegment source = .ok (slice output segment.offset segment.length)
  type : segment.ggmlType = source.ggmlType

theorem Holds.mono {direct : DirectExpertStore} {output output' : List UInt8}
    {source : SourceSegment} {segment : Segment} (h : Holds direct output source segment)
    (grows : output <+: output') : Holds direct output' source segment := by
  obtain ⟨more, rfl⟩ := grows
  refine ⟨h.inside.trans ?_, ?_, h.type⟩
  · rw [List.length_append]
    exact Nat.le_add_right _ _
  · rw [slice_append_left h.inside]
    exact h.bytes

theorem copySegment_holds {direct : DirectExpertStore} {key : ExpertKey} {source : SourceSegment}
    {segment : Segment}
    (h : copySegment host path direct key source before = .ok (segment, after))
    (htied : before.Tied) : Appends before after ∧ Holds direct after.output source segment := by
  have hcopied := copySegment_eq_ok h
  obtain ⟨bytes, hbytes, h⟩ := except_bind_ok_iff.mp h
  obtain ⟨_, -, h⟩ := except_bind_ok_iff.mp h
  obtain ⟨written, hwritten, h⟩ := except_bind_ok_iff.mp h
  obtain ⟨next, -, h⟩ := except_bind_ok_iff.mp h
  cases h
  rw [writeHashed_eq_ok hwritten] at hcopied ⊢
  refine ⟨⟨List.prefix_append _ _, hcopied.tied⟩, ?_, ?_, rfl⟩
  · rw [List.length_append, htied.position]
  · rw [← htied.position, slice_append_right]
    exact hbytes

/-- The matrices of an expert are where its record says. -/
structure Stored (direct : DirectExpertStore) (output : List UInt8) (source : DirectExpertRecord)
    (record : ExpertRecord) : Prop where
  key : record.key = source.key
  gate : Holds direct output source.gate record.gate
  up : Holds direct output source.up record.up
  down : Holds direct output source.down record.down

theorem Stored.mono {direct : DirectExpertStore} {output output' : List UInt8}
    {source : DirectExpertRecord} {record : ExpertRecord} (h : Stored direct output source record)
    (grows : output <+: output') : Stored direct output' source record :=
  ⟨h.key, h.gate.mono grows, h.up.mono grows, h.down.mono grows⟩

theorem writeExpert_stores {options : PrepareOptions} {direct : DirectExpertStore}
    {source : DirectExpertRecord} {record : ExpertRecord}
    (h : writeExpert host path options direct source before = .ok (record, after))
    (htied : before.Tied) :
    Appends before after ∧ Stored direct after.output source record := by
  obtain ⟨started, hstarted, h⟩ := except_bind_ok_iff.mp h
  obtain ⟨⟨gate, gateEnd⟩, hgate, h⟩ := except_bind_ok_iff.mp h
  obtain ⟨upStart, hupStart, h⟩ := except_bind_ok_iff.mp h
  obtain ⟨⟨up, upEnd⟩, hup, h⟩ := except_bind_ok_iff.mp h
  obtain ⟨downStart, hdownStart, h⟩ := except_bind_ok_iff.mp h
  obtain ⟨⟨down, downEnd⟩, hdown, h⟩ := except_bind_ok_iff.mp h
  obtain ⟨last, hlast, h⟩ := except_bind_ok_iff.mp h
  obtain ⟨length, -, h⟩ := except_bind_ok_iff.mp h
  cases h
  -- each step goes on from a writer that is tied
  have hstarted := padToAlignment_appends hstarted
  have hstartedTied := hstarted.tied htied
  obtain ⟨hgateAppends, hgate⟩ := copySegment_holds hgate hstartedTied
  have hupStart := padGate_appends hupStart
  have hupTied := hupStart.tied (hgateAppends.tied hstartedTied)
  obtain ⟨hupAppends, hup⟩ := copySegment_holds hup hupTied
  have hdownStart := padToAlignment_appends hdownStart
  have hdownTied := hdownStart.tied (hupAppends.tied hupTied)
  obtain ⟨hdownAppends, hdown⟩ := copySegment_holds hdown hdownTied
  have hlast := padToAlignment_appends hlast
  have hbehindDown := hdownAppends.trans hlast
  have hbehindUp := hdownStart.trans hbehindDown
  have hbehindGate := hupStart.trans (hupAppends.trans hbehindUp)
  exact ⟨hstarted.trans (hgateAppends.trans hbehindGate), rfl, hgate.mono hbehindGate.grows,
    hup.mono hbehindUp.grows, hdown.mono hlast.grows⟩

end Writing

/-! ### The loop over the experts -/

/-- The header is in front, and the experts that are done are stored. -/
structure Contains (direct : DirectExpertStore) (header : List UInt8)
    (done : List DirectExpertRecord) (draft : SidecarDraft) : Prop where
  tied : draft.writer.Tied
  headed : header <+: draft.writer.output
  stored : List.Forall₂ (Stored direct draft.writer.output) done draft.records

section Drafting
variable {host : PrepareHost} {path : Path} {options : PrepareOptions} {direct : DirectExpertStore}

theorem draftExpert_contains {header : List UInt8} {done : List DirectExpertRecord}
    {draft after : SidecarDraft} {source : DirectExpertRecord × Nat}
    (hdraft : Contains direct header done draft)
    (h : draftExpert host path options direct draft source = .ok after) :
    Contains direct header (done ++ [source.1]) after := by
  obtain ⟨_, -, h⟩ := except_bind_ok_iff.mp h
  obtain ⟨⟨record, writer⟩, hrecord, h⟩ := except_bind_ok_iff.mp h
  obtain ⟨payload, -, h⟩ := except_bind_ok_iff.mp h
  cases h
  obtain ⟨happends, hstored⟩ := writeExpert_stores hrecord hdraft.tied
  refine ⟨happends.tied hdraft.tied, hdraft.headed.trans happends.grows, ?_⟩
  exact List.rel_append (hdraft.stored.imp fun _ _ h => h.mono happends.grows)
    (.cons hstored .nil)

/-- The data that is drafted contains its header and every expert. -/
theorem draftExperts_contains {draft : SidecarDraft}
    (h : draftExperts host path options direct = .ok draft) :
    Contains direct
      (SidecarHeader.new options.layout options.alignment direct.index.records.length).encode
      direct.index.records draft := by
  obtain ⟨headed, hheaded, h⟩ := except_bind_ok_iff.mp h
  obtain ⟨started, hstarted, h⟩ := except_bind_ok_iff.mp h
  obtain ⟨_, -, h⟩ := except_bind_ok_iff.mp h
  have happends := padToAlignment_appends hstarted
  rw [writeHashed_eq_ok hheaded] at happends
  have hinit : Contains direct
      (SidecarHeader.new options.layout options.alignment direct.index.records.length).encode []
      ⟨started, 0, []⟩ :=
    ⟨happends.tied ⟨rfl, rfl⟩, happends.grows, .nil⟩
  have hrun := except_foldlM_run (P := fun done now => Contains direct
    (SidecarHeader.new options.layout options.alignment direct.index.records.length).encode
    (done.map Prod.fst) now) h hinit ?_
  · rwa [List.zipIdx_map_fst] at hrun
  · intro done source now after _ hnow hstep
    rw [List.map_append, List.map_singleton]
    exact draftExpert_contains hnow hstep

end Drafting
end LightBridge.Prepare

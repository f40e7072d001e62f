import LightBridge.Format.Manifest
import LightBridge.Foundation.Framing

/-! The header of a sidecar, as it is written and read. -/
namespace LightBridge.Format
open Foundation Io

/-- `FormatError`, of the header. -/
inductive HeaderError where
  | headerLength (expected actual : Nat)
  | badMagic
  | nonZeroReservedHeader
  | unknownLayout (code : Nat)
  deriving DecidableEq, Repr

structure SidecarHeader where
  formatVersion : Nat
  layout : ExpertLayout
  alignment : Nat
  recordCount : Nat
  deriving DecidableEq, Repr

/-- `b"LIGHTBRIDGE.EXP\0"`. -/
def sidecarMagic : List UInt8 := [76, 73, 71, 72, 84, 66, 82, 73, 68, 71, 69, 46, 69, 88, 80, 0]

namespace ExpertLayout

def code : ExpertLayout → Nat
  | .sequential => 0
  | .fusedGateUp => 1

def fromCode : Nat → Except HeaderError ExpertLayout
  | 0 => .ok .sequential
  | 1 => .ok .fusedGateUp
  | code => .error (.unknownLayout code)

theorem fromCode_eq_ok {code : Nat} {layout : ExpertLayout} :
    fromCode code = .ok layout ↔ code = layout.code := by
  unfold fromCode
  split <;> cases layout <;> simp_all [ExpertLayout.code]

end ExpertLayout

namespace SidecarHeader

/-- `SidecarHeader::new`. -/
def new (layout : ExpertLayout) (alignment recordCount : Nat) : SidecarHeader :=
  ⟨sidecarFormatVersion, layout, alignment, recordCount⟩

def encode (header : SidecarHeader) : List UInt8 :=
  sidecarMagic ++ leBytes 4 header.formatVersion ++ leBytes 4 header.layout.code ++
    leBytes 8 header.alignment ++ leBytes 8 header.recordCount ++ List.replicate 24 0

def decode (bytes : List UInt8) : Except HeaderError SidecarHeader := do
  ensure (bytes.length = sidecarHeaderBytes) (.headerLength sidecarHeaderBytes bytes.length)
  ensure (slice bytes 0 16 = sidecarMagic) .badMagic
  ensure ((bytes.drop 40).any (· ≠ 0) = false) .nonZeroReservedHeader
  let formatVersion := ofLeBytes (slice bytes 16 4)
  let layoutCode := ofLeBytes (slice bytes 20 4)
  let alignment := ofLeBytes (slice bytes 24 8)
  let recordCount := ofLeBytes (slice bytes 32 8)
  let layout ← ExpertLayout.fromCode layoutCode
  pure { formatVersion, layout, alignment, recordCount }

/-- The numbers are of their widths. -/
structure Fits (header : SidecarHeader) : Prop where
  formatVersion : header.formatVersion < 256 ^ 4
  alignment : header.alignment < 256 ^ 8
  recordCount : header.recordCount < 256 ^ 8

theorem length_encode (header : SidecarHeader) : header.encode.length = sidecarHeaderBytes := by
  simp [encode, sidecarMagic, sidecarHeaderBytes]

/-- The fields of a header, and what is behind them. -/
theorem fields_eq (bytes : List UInt8) :
    bytes = slice bytes 0 16 ++ slice bytes 16 4 ++ slice bytes 20 4 ++ slice bytes 24 8 ++
      slice bytes 32 8 ++ bytes.drop 40 := by
  have htake : bytes.take 40 = slice bytes 0 (16 + 4 + 4 + 8 + 8) := rfl
  rw [slice_add, slice_add, slice_add, slice_add] at htake
  rw [← htake, List.take_append_drop]

theorem field_eq {bytes : List UInt8} {start width : Nat} (h : start + width ≤ bytes.length) :
    slice bytes start width = leBytes width (ofLeBytes (slice bytes start width)) := by
  have hfield := leBytes_ofLeBytes (slice bytes start width)
  rw [length_slice h] at hfield
  exact hfield.symm

theorem field_lt {bytes : List UInt8} {start width : Nat} (h : start + width ≤ bytes.length) :
    ofLeBytes (slice bytes start width) < 256 ^ width := by
  have hfield := ofLeBytes_lt (slice bytes start width)
  rwa [length_slice h] at hfield

/-- What is accepted as a header are the encodings of headers, each as its own. -/
theorem decode_eq_ok {bytes : List UInt8} {header : SidecarHeader} :
    decode bytes = .ok header ↔ header.Fits ∧ bytes = header.encode := by
  constructor
  · intro h
    simp only [decode, except_bind_ok_iff, ensure_eq_ok, exists_const,
      ExpertLayout.fromCode_eq_ok] at h
    obtain ⟨hlength, hmagic, hreserved, layout, hlayout, h⟩ := h
    cases h
    have hsize : bytes.length = 64 := hlength
    have hzeros : bytes.drop 40 = List.replicate 24 0 := by
      refine List.eq_replicate_iff.mpr ⟨by rw [List.length_drop, hsize], fun byte hbyte => ?_⟩
      have hnone := List.any_eq_false.mp hreserved byte hbyte
      simpa using hnone
    refine ⟨⟨field_lt (by omega), field_lt (by omega), field_lt (by omega)⟩, ?_⟩
    rw [encode, ← hlayout, ← field_eq (by omega), ← field_eq (by omega), ← field_eq (by omega),
      ← field_eq (by omega), ← hmagic, ← hzeros]
    exact fields_eq bytes
  · rintro ⟨hfits, rfl⟩
    have hmagic : slice header.encode 0 16 = sidecarMagic := by
      simp [encode, slice, sidecarMagic]
    have hversion : slice header.encode 16 4 = leBytes 4 header.formatVersion := by
      simp [encode, slice, sidecarMagic]
    have hlayout : slice header.encode 20 4 = leBytes 4 header.layout.code := by
      simp [encode, slice, sidecarMagic]
    have halignment : slice header.encode 24 8 = leBytes 8 header.alignment := by
      simp [encode, slice, sidecarMagic, List.drop_append, List.drop_eq_nil_of_le]
    have hcount : slice header.encode 32 8 = leBytes 8 header.recordCount := by
      simp [encode, slice, sidecarMagic, List.drop_append, List.drop_eq_nil_of_le]
    have hreserved : header.encode.drop 40 = List.replicate 24 0 := by
      simp [encode, sidecarMagic, List.drop_append, List.drop_eq_nil_of_le]
    have hcode : header.layout.code < 256 ^ 4 := by cases header.layout <;> decide
    simp only [decode, except_bind_ok_iff, ensure_eq_ok, exists_const,
      ExpertLayout.fromCode_eq_ok, hmagic, hversion, hlayout, halignment, hcount, hreserved,
      ofLeBytes_leBytes hfits.formatVersion, ofLeBytes_leBytes hfits.alignment,
      ofLeBytes_leBytes hfits.recordCount, ofLeBytes_leBytes hcode]
    exact ⟨length_encode header, trivial, by simp, header.layout, rfl, rfl⟩

end SidecarHeader

end LightBridge.Format

import LightBridge.Foundation.Coding
import LightBridge.Runtime.StopFilter

/-! The stop filter over the UTF-8 bytes of its strings. It cuts them where the filter over
characters does, so no character is cut in two, whatever the chunks and the stop sequences. -/
namespace LightBridge.Runtime
open Foundation Tokenizer

abbrev utf8 : Text → List UInt8 := encode String.utf8EncodeChar

/-- A byte that is no continuation byte. -/
def isCharStart (byte : UInt8) : Bool := byte < 0x80 || 0xc0 ≤ byte

theorem isCharStart_lead {value offset : Nat} (hlow : 0xc0 ≤ offset)
    (hhigh : value + offset < 256) :
    isCharStart (UInt8.ofNat (value + offset)) = true := by
  have hnat : (UInt8.ofNat (value + offset)).toNat = value + offset := by
    rw [UInt8.toNat_ofNat', Nat.mod_eq_of_lt hhigh]
  simp only [isCharStart, Bool.or_eq_true, decide_eq_true_eq, UInt8.lt_iff_toNat_lt,
    UInt8.le_iff_toNat_le, hnat]
  exact Or.inr (hlow.trans (Nat.le_add_left _ _))

theorem isCharStart_ascii {value : Nat} (h : value ≤ 0x7f) :
    isCharStart (UInt8.ofNat value) = true := by
  have hnat : (UInt8.ofNat value).toNat = value := by
    rw [UInt8.toNat_ofNat', Nat.mod_eq_of_lt (by omega)]
  simp only [isCharStart, Bool.or_eq_true, decide_eq_true_eq, UInt8.lt_iff_toNat_lt,
    UInt8.le_iff_toNat_le, hnat]
  exact Or.inl (Nat.lt_succ_of_le h)

theorem isCharStart_continuation (value : Nat) :
    isCharStart (UInt8.ofNat (value % 0x40 + 0x80)) = false := by
  have hlt := Nat.mod_lt value (show 0 < 0x40 by decide)
  have hnat : (UInt8.ofNat (value % 0x40 + 0x80)).toNat = value % 0x40 + 0x80 := by
    rw [UInt8.toNat_ofNat', Nat.mod_eq_of_lt (by omega)]
  simp only [isCharStart, Bool.or_eq_false_iff, decide_eq_false_iff_not, UInt8.lt_iff_toNat_lt,
    UInt8.le_iff_toNat_le, hnat]
  change ¬ value % 0x40 + 0x80 < 0x80 ∧ ¬ 0xc0 ≤ value % 0x40 + 0x80
  omega

theorem utf8_synchronizing : Synchronizing String.utf8EncodeChar isCharStart where
  nonempty _ := String.utf8EncodeChar_ne_nil
  first c byte bytes h := by
    unfold String.utf8EncodeChar at h
    dsimp only at h
    split at h
    · rename_i hascii
      cases h
      exact isCharStart_ascii hascii
    · split at h
      · cases h
        exact isCharStart_lead (by decide) (by omega)
      · split at h
        · cases h
          exact isCharStart_lead (by decide) (by omega)
        · cases h
          exact isCharStart_lead (by decide) (by omega)
  later c byte bytes h := by
    unfold String.utf8EncodeChar at h
    dsimp only at h
    split at h
    · cases h
      exact List.forall_mem_nil _
    · split at h
      · cases h
        exact List.forall_mem_singleton.mpr (isCharStart_continuation _)
      · split at h
        · cases h
          rw [List.forall_mem_cons, List.forall_mem_singleton]
          exact ⟨isCharStart_continuation _, isCharStart_continuation _⟩
        · cases h
          rw [List.forall_mem_cons, List.forall_mem_cons, List.forall_mem_singleton]
          exact ⟨isCharStart_continuation _, isCharStart_continuation _, isCharStart_continuation _⟩
  apart a b rest rest' h := by
    have ha := ByteArray.utf8DecodeChar?_utf8EncodeChar_append (b := rest.toByteArray) (c := a)
    have hb := ByteArray.utf8DecodeChar?_utf8EncodeChar_append (b := rest'.toByteArray) (c := b)
    rw [← List.toByteArray_append, h, List.toByteArray_append, hb] at ha
    exact (Option.some.inj ha).symm

/-- `&text[..place]` and the rest of it. A place inside a character panics. -/
def sliceAt (text : List UInt8) (place : Nat) : Option (List UInt8 × List UInt8) :=
  if isBoundary isCharStart text place then some (text.take place, text.drop place) else none

theorem sliceAt_utf8 {text front rest : Text} (h : text = front ++ rest) :
    sliceAt (utf8 text) (utf8 front).length = some (utf8 front, utf8 rest) := by
  unfold sliceAt
  rw [h, isBoundary_encode utf8_synchronizing, if_pos rfl, utf8, encode_append, List.take_left,
    List.drop_left]

theorem length_utf8_of_split {text front rest : Text} (h : text = front ++ rest) :
    (utf8 text).length = (utf8 front).length + (utf8 rest).length := by
  rw [h, utf8, encode_append, List.length_append]

/-- `TextStopFilter` as it is kept: a text that has not been let through yet, in bytes. -/
structure ByteStopFilter where
  stopSequences : List Text
  pending : List UInt8
  deriving DecidableEq, Repr

structure ByteStopUpdate where
  text : List UInt8
  stopped : Bool
  deriving DecidableEq, Repr

namespace ByteStopFilter

/-- `truncate_at_first_stop` in bytes. -/
def truncateAtFirstStop (text : List UInt8) (stopSequences : List Text) : Option (List UInt8) :=
  (sliceAt text ((findAny (stopSequences.map utf8) text).getD text.length)).map Prod.fst

def new (stopSequences : List Text) : ByteStopFilter := { stopSequences, pending := [] }

def push (chunk : Text) (filter : ByteStopFilter) : Option (ByteStopUpdate × ByteStopFilter) :=
  let pending := filter.pending ++ utf8 chunk
  match findAny (filter.stopSequences.map utf8) pending with
  | some stopAt => (sliceAt pending stopAt).map fun parts =>
      ({ text := parts.1, stopped := true }, { filter with pending := [] })
  | none =>
      -- the pieces of a stop sequence end at its character boundaries
      let keep := longestEnd ((filter.stopSequences.flatMap beginnings).map utf8) pending
      (sliceAt pending (pending.length - keep)).map fun parts =>
        ({ text := parts.1, stopped := false }, { filter with pending := parts.2 })

def finish (filter : ByteStopFilter) : List UInt8 × ByteStopFilter :=
  (filter.pending, { filter with pending := [] })

end ByteStopFilter

/-- The filter with its characters coded. -/
def TextStopFilter.coded (filter : TextStopFilter) : ByteStopFilter :=
  { stopSequences := filter.stopSequences, pending := utf8 filter.pending }

def TextStopUpdate.coded (update : TextStopUpdate) : ByteStopUpdate :=
  { text := utf8 update.text, stopped := update.stopped }

theorem ByteStopFilter.truncateAtFirstStop_utf8 {stopSequences : List Text}
    (nonempty : ∀ stop ∈ stopSequences, stop ≠ []) (text : Text) :
    truncateAtFirstStop (utf8 text) stopSequences =
      some (utf8 (Runtime.truncateAtFirstStop text stopSequences)) := by
  unfold truncateAtFirstStop Runtime.truncateAtFirstStop cutAt
  rw [findAny_encode utf8_synchronizing nonempty]
  cases findAny stopSequences text with
  | none =>
      rw [Option.map_none, Option.getD_none, Option.getD_none,
        sliceAt_utf8 (List.append_nil text).symm, List.take_length]
      rfl
  | some stopAt =>
      rw [Option.map_some, Option.getD_some, Option.getD_some,
        sliceAt_utf8 (List.take_append_drop stopAt text).symm]
      rfl

/-- A chunk is let through in bytes as it is in characters, and no slice is inside a character. -/
theorem ByteStopFilter.push_coded (filter : TextStopFilter)
    (nonempty : ∀ stop ∈ filter.stopSequences, stop ≠ []) (chunk : Text) :
    push chunk filter.coded = some ((filter.push chunk).1.coded, (filter.push chunk).2.coded) := by
  have hpending : filter.coded.pending ++ utf8 chunk = utf8 (filter.pending ++ chunk) :=
    (encode_append _ _).symm
  unfold push TextStopFilter.push
  dsimp only
  rw [hpending]
  change (match findAny (filter.stopSequences.map utf8) _ with | some _ => _ | none => _) = _
  rw [findAny_encode utf8_synchronizing nonempty]
  cases hfind : findAny filter.stopSequences (filter.pending ++ chunk) with
  | some stopAt =>
      dsimp only [Option.map_some]
      rw [sliceAt_utf8 (List.take_append_drop stopAt _).symm]
      rfl
  | none =>
      dsimp only [Option.map_none]
      change Option.map _
        (sliceAt _ (_ - longestEnd ((filter.stopSequences.flatMap beginnings).map utf8) _)) = _
      rw [longestEnd_encode utf8_synchronizing, ← held_eq_longestEnd]
      generalize hemit : (filter.pending ++ chunk).length -
        held filter.stopSequences (filter.pending ++ chunk) = emitLength
      have hsplit := (List.take_append_drop emitLength (filter.pending ++ chunk)).symm
      have hlength : (utf8 (filter.pending ++ chunk)).length -
          (utf8 ((filter.pending ++ chunk).drop emitLength)).length =
          (utf8 ((filter.pending ++ chunk).take emitLength)).length := by
        rw [length_utf8_of_split hsplit, Nat.add_sub_cancel]
      rw [hlength, sliceAt_utf8 hsplit]
      rfl

theorem ByteStopFilter.finish_coded (filter : TextStopFilter) :
    filter.coded.finish.1 = utf8 filter.finish.1 := rfl

end LightBridge.Runtime

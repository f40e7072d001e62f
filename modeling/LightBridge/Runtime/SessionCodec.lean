import LightBridge.Foundation.Refusal
import LightBridge.Kv.SnapshotCodec
import LightBridge.Runtime.ChatSession

/-! The format of a stored chat session: the reader is exact for one encoding, which the
writer produces. -/
namespace LightBridge.Runtime
open Foundation Cursor

/-- What a stored session of this model can hold. -/
structure Storable {Ω S E : Type} (model : SnapshotModel Ω S E)
    (record : Hy3ChatEngine.SessionRecord) : Prop where
  history_le : record.history.length ≤ model.contextLength
  tokens : ∀ token ∈ record.history, token < 2 ^ 32 ∧ token < model.vocabularySize
  logits_length : record.logits.length = model.vocabularySize
  logits_finite : ∀ value ∈ record.logits, value.isFinite = true
  logits_lt : record.logits.length < 2 ^ 64
  kv_lt : record.kv.length < 2 ^ 64
  hasLogits : record.hasLogits = decide (0 < record.history.length)

namespace Hy3ChatEngine
variable {Ω S E T : Type}

def SessionRecord.header (record : SessionRecord) : SessionHeader :=
  { historyLength := record.history.length, logitsLength := record.logits.length,
    kvLength := record.kv.length
    hasLogits := record.hasLogits }

def encodeBinding (model : SnapshotModel Ω S E) : List UInt8 :=
  chatSessionMagic ++ leBytes 4 chatSessionVersion ++ model.modelFingerprint.1

def encodeHeader (header : SessionHeader) : List UInt8 :=
  leBytes 8 header.historyLength ++ leBytes 8 header.logitsLength ++ leBytes 8 header.kvLength ++
    [if header.hasLogits then 1 else 0] ++ [0, 0, 0]

def encodeBody (record : SessionRecord) : List UInt8 :=
  record.history.flatMap (leBytes 4) ++ record.logits.flatMap F32.toLeBytes ++ record.kv

def encodeFields (model : SnapshotModel Ω S E) (record : SessionRecord) : List UInt8 :=
  encodeBinding model ++ encodeHeader record.header ++ encodeBody record

/-- The stored form of a session. -/
def encodeSession (sha : Sha256) (model : SnapshotModel Ω S E) (record : SessionRecord) :
    List UInt8 :=
  encodeFields model record ++ (sha (encodeFields model record)).1

/-! ### Reading -/

theorem exact_session_take (length : Nat) :
    Exact usizeMax (SessionCursor.take (E := E) (T := T) length) id (·.length = length) :=
  exact_take usizeMax _ _ length

theorem exact_session_number (width : Nat) :
    Exact usizeMax (SessionCursor.number (E := E) (T := T) width) (leBytes width)
      (· < 256 ^ width) :=
  exact_number usizeMax _ _ width

theorem exact_session_usize : Exact usizeMax (SessionCursor.usize (E := E) (T := T)) (leBytes 8)
    (· < 2 ^ 64) := by
  have h := (exact_session_number (E := E) (T := T) 8).check (Q := fun value => value ≤ usizeMax)
    (fun value => (do ensure (value ≤ usizeMax) .sessionArithmeticOverflow; pure value)) id id
    (fun _ _ => ensure_pure_eq_ok) (fun _ _ _ => rfl)
  refine h.congr (fun n => ?_) fun _ _ => rfl
  simp only [id, and_true, usizeMax]
  omega

theorem exact_session_binding (model : SnapshotModel Ω S E) :
    Exact usizeMax (readBinding (T := T) model) (fun _ => encodeBinding model) (fun _ => True) := by
  have hmagic := exact_session_take (E := E) (T := T) chatSessionMagic.length
  have hversion := exact_session_number (E := E) (T := T) 4
  have hbinding :=
    (exact_session_take (E := E) (T := T) 32).check
      (Q := fun bytes => bytes = model.modelFingerprint.1)
    (fun bytes => ensure (bytes = model.modelFingerprint.1) .sessionModelBinding) (fun _ => ())
    (fun _ => model.modelFingerprint.1) (fun a b => by simp) (fun _ _ h => h.symm)
  have htail := hversion.bind (fun _ => chatSessionVersion)
    (fun version _ => (hbinding.guard (ensure (version = chatSessionVersion)
      (.sessionVersion chatSessionVersion version))
      (Q := version = chatSessionVersion) ensure_eq_ok))
    (fun _ _ h => h.1.symm)
  have h := hmagic.bind (fun _ => chatSessionMagic)
    (fun magic _ => htail.guard (ensure (magic = chatSessionMagic) .sessionFormat)
      (Q := magic = chatSessionMagic) ensure_eq_ok) (fun _ _ h => h.1.symm)
  apply h.congr
  · intro _
    simp [chatSessionVersion, model.modelFingerprint.2]
  · intro _ _
    simp only [encodeBinding, id, List.append_assoc]

theorem exact_readFlag :
    Exact usizeMax (readFlag (E := E) (T := T)) (fun flag => [if flag then 1 else 0])
      (fun _ => True) := by
  have h :=
    (exact_session_number (E := E) (T := T) 1).check (Q := fun flag => flag = 0 ∨ flag = 1) flagOf
      (· == 1)
    (fun flag => if flag then 1 else 0) (fun a b => by
      unfold flagOf
      split <;> simp_all [eq_comm]) (fun flag _ hflag => by rcases hflag with rfl | rfl <;> rfl)
  apply h.congr
  · intro flag
    cases flag <;> simp
  · intro flag _
    cases flag <;> rfl

theorem exact_readReserved :
    Exact usizeMax (readReserved (E := E) (T := T)) (fun _ => [0, 0, 0]) (fun _ => True) := by
  have h := (exact_session_take (E := E) (T := T) 3).check (Q := fun bytes => bytes = [0, 0, 0])
    (fun bytes => ensure (bytes = [0, 0, 0]) .sessionReservedBytes) (fun _ => ())
      (fun _ => [0, 0, 0])
    (fun a b => by simp) (fun _ _ h => h.symm)
  exact h.congr (fun _ => by simp) fun _ _ => rfl

theorem exact_session_lengths :
    Exact usizeMax (readLengths (E := E) (T := T)) encodeHeader
      (fun header => header.historyLength < 2 ^ 64 ∧ header.logitsLength < 2 ^ 64 ∧
        header.kvLength < 2 ^ 64) := by
  have hpure : ∀ header : SessionHeader, Exact usizeMax
      (readReserved (E := E) (T := T) >>= fun _ => Pure.pure header) (fun _ => [0, 0, 0])
        (· = header) := by
    intro header
    have h := (exact_readReserved (E := E) (T := T)).bind (fun _ => ())
        (fun _ _ => Exact.pure usizeMax header)
      (fun _ _ _ => rfl)
    exact h.congr (fun _ => by simp) fun _ _ => by simp
  have hflag : ∀ historyLength logitsLength kvLength : Nat, Exact usizeMax
      (readFlag (E := E) (T := T) >>= fun hasLogits => readReserved >>= fun _ =>
        Pure.pure (SessionHeader.mk historyLength logitsLength kvLength hasLogits))
      (fun header => [if header.hasLogits then 1 else 0] ++ [0, 0, 0])
      (fun header => header.historyLength = historyLength ∧ header.logitsLength = logitsLength ∧
        header.kvLength = kvLength) := by
    intro historyLength logitsLength kvLength
    have h := (exact_readFlag (E := E) (T := T)).bind SessionHeader.hasLogits
      (fun hasLogits _ => hpure ⟨historyLength, logitsLength, kvLength, hasLogits⟩)
        (fun _ _ h => by rw [h])
    apply h.congr
    · rintro ⟨a, b, c, d⟩
      simp
    · intro _ _
      rfl
  have h := (exact_session_usize (E := E) (T := T)).bind SessionHeader.historyLength
    (fun historyLength _ => exact_session_usize.bind SessionHeader.logitsLength
      (fun logitsLength _ => exact_session_usize.bind SessionHeader.kvLength
        (fun kvLength _ => hflag historyLength logitsLength kvLength) (fun _ _ h => h.2.2))
        (fun _ _ h => h.2.2.1))
    (fun _ _ h => h.2.2.1)
  apply h.congr
  · intro header
    simp
  · intro header _
    simp only [encodeHeader, List.append_assoc]

theorem exact_session_token (model : SnapshotModel Ω S E) :
    Exact usizeMax (readToken (T := T) model) (leBytes 4)
      (fun token => token < 2 ^ 32 ∧ token < model.vocabularySize) := by
  have h :=
    (exact_session_number (E := E) (T := T) 4).check
      (Q := fun token => token < model.vocabularySize)
    (fun token => (do
      ensure (token < model.vocabularySize) (.sessionTokenOutOfRange token model.vocabularySize)
      pure token)) id id (fun _ _ => ensure_pure_eq_ok) (fun _ _ _ => rfl)
  exact h.congr (fun _ => by simp) fun _ _ => rfl

theorem exact_readLogit (index : Nat) :
    Exact usizeMax (readLogit (E := E) (T := T) index) F32.toLeBytes
      (fun value => value.isFinite = true) := by
  have h :=
    (exact_session_number (E := E) (T := T) 4).check
      (Q := fun bits => (F32.fromBits bits).isFinite = true)
    (fun bits => (do
      ensure ((F32.fromBits bits).isFinite = true)
        (.nonFiniteSessionLogit index (F32.fromBits bits).toBits.toNat)
      pure (F32.fromBits bits))) F32.fromBits (fun value => value.toBits.toNat)
        (fun _ _ => ensure_pure_eq_ok)
    (fun bits hbits _ => F32.toNat_fromBits (by simpa using hbits))
  apply h.congr
  · intro value
    rw [F32.fromBits_toNat]
    exact ⟨fun h => h.2.1, fun h => ⟨value.toBits.isLt, h, rfl⟩⟩
  · intro _ _
    rfl

/-- The allocator grants what reading this record asks for. -/
def Granted (alloc : SnapshotSite → Bool) (record : SessionRecord) : Prop :=
  tryReserve (alloc .history) 4 record.history.length = true ∧
    tryReserve (alloc .logits) 4 record.logits.length = true

theorem exact_readBody (alloc : SnapshotSite → Bool) (model : SnapshotModel Ω S E)
    (header : SessionHeader) :
    Exact usizeMax (readBody (T := T) alloc model header) encodeBody
      (fun record => Granted alloc record ∧
      record.header = header ∧
      (∀ token ∈ record.history, token < 2 ^ 32 ∧ token < model.vocabularySize) ∧
      ∀ value ∈ record.logits, value.isFinite = true) := by
  have hhistory :=
    Exact.collect (fun _ => exact_session_token (T := T) model) 0 header.historyLength
  have hlogits := Exact.collect (exact_readLogit (E := E) (T := T)) 0 header.logitsLength
  have hkv : ∀ (history : List Nat) (logits : List F32), Exact usizeMax
      (SessionCursor.take (E := E) (T := T) header.kvLength >>= fun kv =>
        Pure.pure (SessionRecord.mk history logits kv header.hasLogits)) SessionRecord.kv
      (fun record => record.history = history ∧ record.logits = logits ∧
        record.kv.length = header.kvLength ∧
        record.hasLogits = header.hasLogits) := by
    intro history logits
    have h := (exact_session_take (E := E) (T := T) header.kvLength).bind SessionRecord.kv
      (fun kv _ => Exact.pure usizeMax (SessionRecord.mk history logits kv header.hasLogits))
        (fun _ _ h => by rw [h])
    apply h.congr
    · rintro ⟨history', logits', kv', hasLogits'⟩
      simp only [SessionRecord.mk.injEq]
      tauto
    · intro record _
      exact List.append_nil _
  have h := ((hhistory.bind SessionRecord.history (fun history _ =>
    (hlogits.bind SessionRecord.logits (fun logits _ => hkv history logits)
    (fun _ _ h => h.2.1)).guard
      (ensure (tryReserve (alloc .logits) 4 header.logitsLength)
        (.sessionAllocationFailed header.logitsLength)) ensure_eq_ok) (fun _ _ h => h.2.2.1)).guard
      (ensure (tryReserve (alloc .history) 4 header.historyLength)
        (.sessionAllocationFailed header.historyLength)) ensure_eq_ok)
  apply h.congr
  · rintro ⟨history, logits, kv, hasLogits⟩
    obtain ⟨historyLength, logitsLength, kvLength, flag⟩ := header
    simp only [Granted, SessionRecord.header, SessionHeader.mk.injEq]
    constructor
    · rintro ⟨hg, ⟨rfl, htokens⟩, hg', ⟨rfl, hfinite⟩, -, -, rfl, rfl⟩
      exact ⟨⟨hg, hg'⟩, ⟨rfl, rfl, rfl, rfl⟩, htokens, hfinite⟩
    · rintro ⟨⟨hg, hg'⟩, ⟨rfl, rfl, rfl, rfl⟩, htokens, hfinite⟩
      exact ⟨hg, ⟨rfl, htokens⟩, hg', ⟨rfl, hfinite⟩, trivial, trivial, rfl, rfl⟩
  · intro record _
    simp only [encodeBody, List.append_assoc]

theorem checkHeader_eq_ok {model : SnapshotModel Ω S E} {header : SessionHeader} {u : Unit} :
    checkHeader (T := T) model header = .ok u ↔ header.historyLength ≤ model.contextLength ∧
      header.logitsLength = model.vocabularySize ∧
        header.hasLogits = decide (0 < header.historyLength) := by
  unfold checkHeader
  rw [except_bind_ok_iff]
  constructor
  · rintro ⟨_, hlength, hrest⟩
    obtain ⟨_, hlogits, hstate⟩ := except_bind_ok_iff.mp hrest
    exact ⟨ensure_eq_ok.mp hlength, ensure_eq_ok.mp hlogits, ensure_eq_ok.mp hstate⟩
  · rintro ⟨hlength, hlogits, hstate⟩
    exact ⟨(), ensure_eq_ok.mpr hlength,
      except_bind_ok_iff.mpr ⟨(), ensure_eq_ok.mpr hlogits, ensure_eq_ok.mpr hstate⟩⟩

theorem exact_readFields (alloc : SnapshotSite → Bool) (model : SnapshotModel Ω S E) :
    Exact usizeMax (readFields (T := T) alloc model) (encodeFields model)
      (fun record => Storable model record ∧ Granted alloc record) := by
  have h := (exact_session_binding (T := T) model).bind (fun _ => ())
    (fun _ _ => exact_session_lengths.bind SessionRecord.header
      (fun header _ => (exact_readBody alloc model header).guard
      (checkHeader model header) checkHeader_eq_ok)
      (fun _ _ h => h.2.2.1)) (fun _ _ _ => rfl)
  apply h.congr
  · intro record
    constructor
    · rintro ⟨-, ⟨-, hlogits, hkv⟩, ⟨hhistory, hcount, hflag⟩, hgranted, -, htokens, hfinite⟩
      exact ⟨⟨hhistory, htokens, hcount, hfinite, hlogits, hkv, hflag⟩, hgranted⟩
    · rintro ⟨hstorable, hgranted⟩
      have hle := hstorable.history_le.trans model.contextLength_le
      refine ⟨trivial, ⟨?_, hstorable.logits_lt, hstorable.kv_lt⟩,
        ⟨hstorable.history_le, hstorable.logits_length, hstorable.hasLogits⟩, hgranted, rfl,
        hstorable.tokens, hstorable.logits_finite⟩
      change record.history.length < 2 ^ 64
      unfold usizeMax at hle
      omega
  · intro record _
    simp only [encodeFields, List.append_assoc]

/-- Exactly the stored forms of what a session can hold are accepted, within the limit. -/
theorem decodeRecord_eq_ok {sha : Sha256} {alloc : SnapshotSite → Bool}
    {model : SnapshotModel Ω S E} {bytes : List UInt8} {maximumBytes : Nat}
    (limit : maximumBytes ≤ usizeMax) {record : SessionRecord} :
    decodeRecord (T := T) sha alloc model bytes maximumBytes = .ok record ↔ maximumBytes ≠ 0 ∧
      bytes.length ≤ maximumBytes ∧ (Storable model record ∧ Granted alloc record) ∧
      bytes = encodeSession sha model record := by
  have hwhole : ∀ payload : List UInt8, payload.length ≤ usizeMax →
      ((readRecord (T := T) alloc model ⟨payload, 0⟩).1 = .ok record ↔
        (Storable model record ∧ Granted alloc record) ∧ payload = encodeFields model record) := by
    intro payload hpayload
    exact (exact_readFields (T := T) alloc model).whole (fun cursor => ensure_eq_ok) hpayload record
  unfold decodeRecord encodeSession
  rw [except_bind_ok_iff]
  constructor
  · rintro ⟨_, hzero, h⟩
    obtain ⟨_, hlength, h⟩ := except_bind_ok_iff.mp h
    obtain ⟨_, hdigest, h⟩ := except_bind_ok_iff.mp h
    obtain ⟨_, hchecksum, hread⟩ := except_bind_ok_iff.mp h
    have hlength := ensure_eq_ok.mp hlength
    obtain ⟨hrecord, hpayload⟩ :=
      (hwhole _ ((List.length_take_le _ _).trans (hlength.trans limit |>.trans' (by omega)))).mp
        hread
    refine ⟨ensure_eq_ok.mp hzero, hlength, hrecord, ?_⟩
    rw [← hpayload, ensure_eq_ok.mp hchecksum, List.take_append_drop]
  · rintro ⟨hzero, hlength, hrecord, rfl⟩
    have hend : (encodeFields model record ++ (sha (encodeFields model record)).1).length -
        chatSessionDigestBytes = (encodeFields model record).length := by
      rw [List.length_append, (sha _).2]
      exact Nat.add_sub_cancel _ _
    refine ⟨(), ensure_eq_ok.mpr hzero, except_bind_ok_iff.mpr ⟨(), ensure_eq_ok.mpr hlength, ?_⟩⟩
    refine except_bind_ok_iff.mpr ⟨(), ensure_eq_ok.mpr ?_,
      except_bind_ok_iff.mpr ⟨(), ensure_eq_ok.mpr ?_, ?_⟩⟩
    · rw [List.length_append, (sha _).2]
      exact Nat.le_add_left _ _
    · rw [hend, List.take_left, List.drop_left]
    · rw [hend, List.take_left]
      refine (hwhole _ ?_).mpr ⟨hrecord, rfl⟩
      rw [List.length_append] at hlength
      omega

/-! ### Refused memory -/

/-- Reading a record answers the same whatever memory is granted, or is refused some. -/
theorem decodeRecord_regranted (sha : Sha256) (alloc alloc' : SnapshotSite → Bool)
    (model : SnapshotModel Ω S E) (bytes : List UInt8) (maximumBytes : Nat) :
    Regranted (fun e => ∃ requested, e = .sessionAllocationFailed requested)
      (decodeRecord (T := T) sha alloc model bytes maximumBytes)
      (decodeRecord sha alloc' model bytes maximumBytes) := by
  have hensure : ∀ site requested, Command.Regranted (σ := Cursor)
      (fun e => ∃ requested, e = ChatEngineError.sessionAllocationFailed (E := E)
        (T := T) requested)
      (Command.lift
        (ensure (tryReserve (alloc site) 4 requested) (.sessionAllocationFailed requested)))
      (Command.lift
        (ensure (tryReserve (alloc' site) 4 requested) (.sessionAllocationFailed requested))) := by
    intro site requested
    apply Command.Regranted.lift
    apply Regranted.of_failsIn
    exact failsIn_ensure ⟨requested, rfl⟩
  have hrecord : Command.Regranted (fun e => ∃ requested, e = .sessionAllocationFailed requested)
      (readRecord (T := T) alloc model) (readRecord alloc' model) := by
    unfold readRecord readFields readBody
    apply Command.Regranted.bind
    · apply (Command.Regranted.refl _).bind
      intro _
      apply (Command.Regranted.refl _).bind
      intro header
      apply (Command.Regranted.refl _).bind
      intro _
      apply (hensure .history header.historyLength).bind
      intro _
      apply (Command.Regranted.refl _).bind
      intro history
      apply (hensure .logits header.logitsLength).bind
      intro _
      exact .refl _
    · intro _
      exact .refl _
  unfold decodeRecord
  iterate 4
    apply (Regranted.refl _).bind
    intro _ _
  exact hrecord.answer _

/-! ### Writing -/

theorem sessionTotalBytes_eq_ok {history logits kv total : Nat} :
    sessionTotalBytes (E := E) (T := T) history logits kv = .ok total ↔
      total = 104 + history * 4 + logits * 4 + kv ∧ total ≤ usizeMax := by
  have hfixed : sessionFixedBytes = some 104 := by decide
  unfold sessionTotalBytes
  rw [hfixed, okOr, except_ok_bind, except_bind_ok_iff]
  simp only [okOr_eq_ok, checkedMul_eq_some, checkedAdd_eq_some, Option.bind_eq_some_iff]
  constructor
  · rintro ⟨_, ⟨-, rfl⟩, _, ⟨_, ⟨-, rfl⟩, _, ⟨-, rfl⟩, -, rfl⟩, hle, rfl⟩
    exact ⟨rfl, hle⟩
  · rintro ⟨rfl, hle⟩
    refine ⟨_, ⟨?_, rfl⟩, _, ⟨_, ⟨?_, rfl⟩, _, ⟨?_, rfl⟩, ?_, rfl⟩, hle, rfl⟩ <;> omega

theorem length_encodeSession (sha : Sha256) (model : SnapshotModel Ω S E) (record : SessionRecord) :
    (encodeSession sha model record).length =
      104 + record.history.length * 4 + record.logits.length * 4 + record.kv.length := by
  have hhistory : (record.history.flatMap (leBytes 4)).length = record.history.length * 4 := by
    rw [List.flatMap_def, length_flatten_of_forall (d := 4), List.length_map]
    intro bytes hmem
    obtain ⟨token, -, rfl⟩ := List.mem_map.mp hmem
    exact length_leBytes 4 token
  have hlogits : (record.logits.flatMap F32.toLeBytes).length = record.logits.length * 4 := by
    rw [List.flatMap_def, length_flatten_of_forall (d := 4), List.length_map]
    intro bytes hmem
    obtain ⟨value, -, rfl⟩ := List.mem_map.mp hmem
    exact length_leBytes 4 _
  have hmagic : chatSessionMagic.length = 8 := rfl
  simp only [encodeSession, encodeFields, encodeBinding, encodeHeader, encodeBody,
    List.length_append, length_leBytes, List.length_cons, List.length_nil, hhistory, hlogits,
    hmagic, model.modelFingerprint.2, (sha _).2]
  omega

theorem checkLogits_eq_ok {logits : List F32} {u : Unit} :
    checkLogits (E := E) (T := T) logits = .ok u ↔ ∀ value ∈ logits, value.isFinite = true := by
  unfold checkLogits
  cases hfind : logits.zipIdx.find? fun entry => !entry.1.isFinite with
  | some entry =>
      obtain ⟨value, index⟩ := entry
      have hmem := List.mem_of_find?_eq_some hfind
      have hinfinite := List.find?_some hfind
      constructor
      · intro h
        cases h
      · intro hfinite
        have hvalue := hfinite value (List.fst_mem_of_mem_zipIdx hmem)
        rw [hvalue] at hinfinite
        cases hinfinite
  | none =>
      constructor
      · intro _ value hmem
        obtain ⟨index, hindex, rfl⟩ := List.mem_iff_getElem.mp hmem
        have hentry :=
          List.find?_eq_none.mp hfind (logits[index], index)
            (List.mem_zipIdx_iff_getElem?.mpr (by simp))
        simpa using hentry
      · intro _
        rfl

def SessionRecord.of (session : GenerationSession S) (kv : List UInt8) : SessionRecord :=
  { history := session.history, logits := session.logits, kv, hasLogits := session.hasLogits }

/-- What is stored of a session, and when. -/
theorem exportSession_eq_ok {sha : Sha256} {env : SnapshotEnvironment Ω}
    {model : SnapshotModel Ω S E} {session : GenerationSession S} {maximumBytes : Nat}
    {bytes : List UInt8} :
    exportSession (T := T) sha env model session maximumBytes = .ok bytes ↔ maximumBytes ≠ 0 ∧
      session.healthy = true ∧
      session.history.length = model.position session.model ∧
      session.logits.length = model.vocabularySize ∧
      (∀ value ∈ session.logits, value.isFinite = true) ∧
      ∃ kv, model.exportKvSnapshot env.world session.model maximumBytes = .ok kv ∧
        bytes = encodeSession sha model (.of session kv) ∧ bytes.length ≤ maximumBytes ∧
        bytes.length ≤ usizeMax ∧
        tryReserve (env.alloc .output) 1 bytes.length = true := by
  have hlength : ∀ kv, (encodeSession sha model (.of session kv)).length =
      104 + session.history.length * 4 + session.logits.length * 4 + kv.length := fun kv =>
    length_encodeSession sha model (.of session kv)
  have hlengths : ∀ value (out : List UInt8), exportLength (E := E) (T := T) value = .ok out ↔
      value < 2 ^ 64 ∧ out = leBytes 8 value := fun _ _ => ensure_pure_eq_ok
  have hencode : ∀ kv, chatSessionMagic ++ leBytes 4 chatSessionVersion ++
      model.modelFingerprint.1 ++
      leBytes 8 session.history.length ++ leBytes 8 session.logits.length ++ leBytes 8 kv.length ++
      [if session.hasLogits then 1 else 0] ++ [0, 0, 0] ++ session.history.flatMap (leBytes 4) ++
      session.logits.flatMap F32.toLeBytes ++ kv = encodeFields model (.of session kv) := by
    intro kv
    simp only [encodeFields, encodeBinding, encodeHeader, encodeBody, List.append_assoc]
    rfl
  unfold exportSession
  simp only [except_bind_ok_iff, ensure_eq_ok, wrap_eq_ok, checkLogits_eq_ok,
    sessionTotalBytes_eq_ok, hlengths]
  constructor
  · rintro ⟨_, hzero, _, hhealthy, _, hposition, _, hcount, _, hfinite, kv, hkv, _, ⟨rfl, htotal⟩,
      _, hlimit, _, hreserve, _, ⟨-, rfl⟩, _, ⟨-, rfl⟩, _, ⟨-, rfl⟩, hbytes⟩
    rw [hencode] at hbytes
    obtain rfl := (Except.ok.inj hbytes).symm
    refine ⟨hzero, hhealthy, hposition, hcount, hfinite, kv, hkv, rfl, ?_⟩
    rw [← hlength kv] at htotal hlimit hreserve
    exact ⟨hlimit, htotal, hreserve⟩
  · rintro ⟨hzero, hhealthy, hposition, hcount, hfinite, kv, hkv, rfl, hlimit, htotal, hreserve⟩
    rw [hlength] at hlimit htotal hreserve
    have hbounds : session.history.length < 2 ^ 64 ∧ session.logits.length < 2 ^ 64 ∧
        kv.length < 2 ^ 64 := by
      unfold usizeMax at htotal
      omega
    refine ⟨(), hzero, (), hhealthy, (), hposition, (), hcount, (), hfinite, kv, hkv, _,
      ⟨rfl, htotal⟩, (), hlimit, (), hreserve, _, ⟨hbounds.1, rfl⟩, _, ⟨hbounds.2.1, rfl⟩, _,
      ⟨hbounds.2.2, rfl⟩, ?_⟩
    rw [hencode]
    rfl

end Hy3ChatEngine
end LightBridge.Runtime

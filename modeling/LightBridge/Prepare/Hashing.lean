import LightBridge.Foundation.Loop
import LightBridge.Io.ReadLoop
import LightBridge.Prepare.Binding

/-! The three loops that hash a file chunk by chunk, over the partial reads of the operating system.
-/
namespace LightBridge.Prepare
open Foundation Io

/-- The errors of a hashing loop, and the panic of a slice of the buffer. -/
inductive HashError where
  | read (error : ReadError)
  | cancelled
  | arithmeticOverflow
  | outOfBounds
  deriving DecidableEq, Repr

/-- Where a loop over a reused buffer is. The hasher stands for the bytes that it was fed. -/
structure HashState where
  buffer : List UInt8
  hasher : List UInt8
  offset : Nat
  deriving DecidableEq, Repr

/-- Where `verify_data_hash` is, which has a new buffer for every read. -/
structure DataState where
  hasher : List UInt8
  offset : Nat
  deriving DecidableEq, Repr

/-- `reader.read_exact_at_into(offset, &mut buffer[..length], cancellation)`. -/
def readFront (reader : PositionedReader) (cancellation : Nat → Bool) (offset length : Nat)
    (buffer : List UInt8) :
    Except HashError (List UInt8) := do
  ensure (length ≤ buffer.length) .outOfBounds
  wrap .read ((reader.readExactAtInto cancellation offset ⟨buffer.take length, []⟩).1.map fun _ =>
    overwrite buffer 0
    (reader.readExactAtInto cancellation offset ⟨buffer.take length, []⟩).2.output)

/-- A chunk that is read into the front of the buffer and hashed from there. -/
def hashFront (reader : PositionedReader) (cancellation : Nat → Bool) (chunkSize : Nat)
    (state : HashState) :
    Except HashError HashState := do
  let remaining := reader.length - state.offset
  let length := min remaining chunkSize
  ensure (length ≤ usizeMax) .arithmeticOverflow
  let buffer ← readFront reader cancellation state.offset length state.buffer
  let offset ← okOr (checkedAdd state.offset length) .arithmeticOverflow
  pure { buffer, hasher := state.hasher ++ buffer.take length, offset }

/-- The loop of `verify_file_hashes`, with the buffer as the file before has left it. -/
def verifyFileHashesLoop (reader : PositionedReader) (buffer : List UInt8) (fuel : Nat) :
    Option (Except HashError HashState) :=
  whileLoop (fun state => state.offset < reader.length)
    (hashFront reader (fun _ => false) integrityChunkBytes) fuel
    { buffer, hasher := [], offset := 0 }

/-- The body of the loop of `hash_source_files`. The cancellation is looked at in every round, and
by its read. -/
def hashSource (reader : PositionedReader) (cancellation : Nat → Nat → Bool) (chunkSize : Nat)
    (state : HashState) :
    Except HashError HashState := do
  ensure (cancellation state.offset 0 = false) .cancelled
  hashFront reader (fun poll => cancellation state.offset (poll + 1)) chunkSize state

def hashSourceFilesLoop (reader : PositionedReader) (cancellation : Nat → Nat → Bool)
    (chunkSize fuel : Nat) :
    Option (Except HashError HashState) :=
  whileLoop (fun state => state.offset < reader.length)
    (hashSource reader cancellation chunkSize) fuel
    { buffer := List.replicate chunkSize 0, hasher := [], offset := 0 }

/-- The body of the loop of `verify_data_hash`, with the allocator's answers. -/
def hashData (reader : PositionedReader) (cancellation : Nat → Nat → Bool) (granted : Nat → Bool)
    (chunkSize : Nat)
    (state : DataState) : Except HashError DataState := do
  let remaining := reader.length - state.offset
  let length := min remaining chunkSize
  let stop ← okOr (checkedAdd state.offset length) .arithmeticOverflow
  let bytes ← wrap .read
    (reader.readExactAt granted (cancellation state.offset) state.offset stop ⟨[], []⟩).1
  pure { hasher := state.hasher ++ bytes, offset := stop }

def verifyDataHashLoop (reader : PositionedReader) (cancellation : Nat → Nat → Bool)
    (granted : Nat → Bool) (fuel : Nat) :
    Option (Except HashError DataState) :=
  let chunkSize := min reader.maxRequestBytes (8 * 1024 * 1024)
  whileLoop (fun state => state.offset < reader.length)
    (hashData reader cancellation granted chunkSize) fuel
    { hasher := [], offset := 0 }

/-- The errors of `Sidecar::verify_data_hash`. -/
inductive DataHashError where
  | loop (error : HashError)
  | dataHash (expected actual : String)
  deriving DecidableEq, Repr

/-- `Sidecar::verify_data_hash`, for the digest that the manifest declares. -/
def verifyDataHash (sha : Sha256) (expected : String) (reader : PositionedReader)
    (cancellation : Nat → Nat → Bool)
    (granted : Nat → Bool) (fuel : Nat) : Option (Except DataHashError Unit) :=
  (verifyDataHashLoop reader cancellation granted fuel).map fun result => do
    let state ← wrap .loop result
    let actual := hex (sha state.hasher).val
    ensure (actual = expected) (.dataHash expected actual)

/-! ### The invariants -/

/-- The file is fed up to an offset. -/
structure Fed (file : OsFile) (recorded : Nat) (hasher : List UInt8) (offset : Nat) : Prop where
  bytes : hasher = slice file.bytes 0 offset
  length : hasher.length = offset
  inside : offset ≤ recorded

theorem Fed.start (file : OsFile) (recorded : Nat) : Fed file recorded [] 0 :=
  ⟨rfl, rfl, Nat.zero_le _⟩

theorem Fed.next {file : OsFile} {recorded offset length : Nat} {hasher bytes : List UInt8}
    (h : Fed file recorded hasher offset) (hbytes : bytes = slice file.bytes offset length)
    (hlength : bytes.length = length) (hinside : offset + length ≤ recorded) :
    Fed file recorded (hasher ++ bytes) (offset + length) := by
  constructor
  case bytes => rw [h.bytes, hbytes, slice_add, Nat.zero_add]
  case length => rw [List.length_append, h.length, hlength]
  case inside => exact hinside

/-- A loop that has come to its end has fed the whole file. -/
theorem Fed.whole {file : OsFile} {recorded offset : Nat} {hasher : List UInt8}
    (h : Fed file recorded hasher offset)
    (hend : decide (offset < recorded) = false) : hasher = slice file.bytes 0 recorded ∧
      hasher.length = recorded := by
  have hoffset : offset = recorded :=
    Nat.le_antisymm h.inside (Nat.le_of_not_lt (of_decide_eq_false hend))
  subst hoffset
  exact ⟨h.bytes, h.length⟩

section Loops
variable {reader : PositionedReader} {chunkSize : Nat}

/-- The buffer holds a chunk, and the file is fed up to the offset. -/
structure HashState.Valid (reader : PositionedReader) (chunkSize : Nat)
    (state : HashState) : Prop where
  buffer : state.buffer.length = chunkSize
  fed : Fed reader.file reader.length state.hasher state.offset

theorem readFront_eq_ok {cancellation : Nat → Bool} {offset length : Nat}
    {buffer after : List UInt8}
    (h : readFront reader cancellation offset length buffer = .ok after) :
    after.length = buffer.length ∧ after.take length = slice reader.file.bytes offset length ∧
      (after.take length).length = length := by
  rw [readFront, except_bind_ok_iff] at h
  obtain ⟨_, hfits, h⟩ := h
  have hfits := ensure_eq_ok.mp hfits
  obtain ⟨_, hread, rfl⟩ := except_map_ok_iff.mp (wrap_eq_ok.mp h)
  have hlength : (buffer.take length).length = length := by
    rw [List.length_take, Nat.min_eq_left hfits]
  obtain ⟨hsize, hexact⟩ := @readExactAtInto_exact reader cancellation offset (buffer.take length)
  rw [hread, hlength] at hexact
  rw [hlength] at hsize
  obtain ⟨hbytes, -⟩ := hexact.bytes _ rfl
  have hfront := @take_overwrite_append 0 buffer
    (reader.readExactAtInto cancellation offset ⟨buffer.take length, []⟩).2.output (by omega)
  rw [Nat.zero_add, hsize, List.take_zero, List.nil_append] at hfront
  rw [length_overwrite (by omega), hfront]
  exact ⟨rfl, hbytes, hsize⟩

theorem hashFront_eq_ok {cancellation : Nat → Bool} {state next : HashState}
    (valid : state.Valid reader chunkSize) (positive : 0 < chunkSize)
    (hmore : state.offset < reader.length)
    (h : hashFront reader cancellation chunkSize state = .ok next) :
    next.Valid reader chunkSize ∧ reader.length - next.offset < reader.length - state.offset := by
  simp only [hashFront, except_bind_ok_iff, okOr_eq_ok, checkedAdd_eq_some] at h
  obtain ⟨_, -, buffer, hbuffer, _, ⟨-, rfl⟩, h⟩ := h
  obtain ⟨hsize, hbytes, hlength⟩ := readFront_eq_ok hbuffer
  have hinside : state.offset + min (reader.length - state.offset) chunkSize ≤
      reader.length := by omega
  cases h
  exact ⟨⟨hsize.trans valid.buffer, valid.fed.next hbytes hlength hinside⟩, by dsimp only; omega⟩

theorem hashFront_invariant (reader : PositionedReader) (cancellation : Nat → Bool)
    (positive : 0 < chunkSize) :
    LoopInvariant (fun state => state.offset < reader.length)
      (hashFront reader cancellation chunkSize) (HashState.Valid reader chunkSize)
      (fun state => reader.length - state.offset) where
  keeps valid hmore h := (hashFront_eq_ok valid positive (of_decide_eq_true hmore) h).1
  decreases valid hmore h := (hashFront_eq_ok valid positive (of_decide_eq_true hmore) h).2

theorem hashSource_eq_ok {cancellation : Nat → Nat → Bool} {state next : HashState} :
    hashSource reader cancellation chunkSize state = .ok next ↔
      cancellation state.offset 0 = false ∧
      hashFront reader (fun poll => cancellation state.offset (poll + 1)) chunkSize state =
      .ok next := by
  simp only [hashSource, except_bind_ok_iff, ensure_eq_ok, exists_const]

theorem hashSource_invariant (reader : PositionedReader) (cancellation : Nat → Nat → Bool)
    (positive : 0 < chunkSize) :
    LoopInvariant (fun state => state.offset < reader.length)
      (hashSource reader cancellation chunkSize) (HashState.Valid reader chunkSize)
      (fun state => reader.length - state.offset) where
  keeps valid hmore h :=
    (hashFront_eq_ok valid positive (of_decide_eq_true hmore) (hashSource_eq_ok.mp h).2).1
  decreases valid hmore h :=
    (hashFront_eq_ok valid positive (of_decide_eq_true hmore) (hashSource_eq_ok.mp h).2).2

theorem hashData_eq_ok {cancellation : Nat → Nat → Bool} {granted : Nat → Bool}
    {state next : DataState} (fed : Fed reader.file reader.length state.hasher state.offset)
    (positive : 0 < chunkSize) (hmore : state.offset < reader.length)
    (h : hashData reader cancellation granted chunkSize state = .ok next) :
    Fed reader.file reader.length next.hasher next.offset ∧
      reader.length - next.offset < reader.length - state.offset := by
  simp only [hashData, except_bind_ok_iff, okOr_eq_ok, checkedAdd_eq_some, wrap_eq_ok] at h
  obtain ⟨_, ⟨-, rfl⟩, bytes, hread, h⟩ := h
  have hinside : state.offset + min (reader.length - state.offset) chunkSize ≤
      reader.length := by omega
  obtain ⟨hbytes, hlength⟩ := (readExactAt_exact granted state.offset _).bytes bytes hread
  rw [Nat.add_sub_cancel_left] at hbytes hlength
  cases h
  exact ⟨fed.next hbytes hlength hinside, by dsimp only; omega⟩

theorem hashData_invariant (reader : PositionedReader) (cancellation : Nat → Nat → Bool)
    (granted : Nat → Bool) (positive : 0 < chunkSize) :
    LoopInvariant (fun state => state.offset < reader.length)
      (hashData reader cancellation granted chunkSize)
      (fun state => Fed reader.file reader.length state.hasher state.offset)
      (fun state => reader.length - state.offset) where
  keeps fed hmore h := (hashData_eq_ok fed positive (of_decide_eq_true hmore) h).1
  decreases fed hmore h := (hashData_eq_ok fed positive (of_decide_eq_true hmore) h).2

/-! ### Where nothing stops a loop -/

/-- A range of a chunk is let through. -/
theorem validateRange_chunk {offset : Nat} (hchunk : chunkSize ≤ reader.maxRequestBytes)
    (hmore : offset < reader.length) :
    reader.validateRange offset (offset + min (reader.length - offset) chunkSize) =
      .ok (min (reader.length - offset) chunkSize) := by
  have hle := reader.length_le
  rw [PositionedReader.validateRange_eq_ok]
  omega

theorem hashFront_answers {cancellation : Nat → Bool} {state : HashState}
    (steady : reader.file.Steady reader.length) (patient : ∀ poll, cancellation poll = false)
    (hchunk : chunkSize ≤ reader.maxRequestBytes) (valid : state.Valid reader chunkSize)
    (hmore : state.offset < reader.length) :
    ∃ next, hashFront reader cancellation chunkSize state = .ok next := by
  have hle := reader.length_le
  have hbuffer := valid.buffer
  have hfront : (state.buffer.take (min (reader.length - state.offset) chunkSize)).length =
      min (reader.length - state.offset) chunkSize := by
    rw [List.length_take]
    omega
  obtain ⟨after, hread⟩ :=
    readExactAtInto_answers steady patient (validateRange_chunk hchunk hmore) hfront
  have hfits : min (reader.length - state.offset) chunkSize ≤ state.buffer.length := by omega
  have husize : min (reader.length - state.offset) chunkSize ≤ usizeMax := by omega
  rw [hashFront, ensure, if_pos husize, except_ok_bind, readFront, ensure, if_pos hfits,
    except_ok_bind, hread, checkedAdd_of_le (by omega)]
  exact ⟨_, rfl⟩

theorem hashData_answers {cancellation : Nat → Nat → Bool} {granted : Nat → Bool}
    {state : DataState} (steady : reader.file.Steady reader.length)
    (patient : ∀ offset poll, cancellation offset poll = false)
    (hchunk : chunkSize ≤ reader.maxRequestBytes)
    (reserves : ∀ length ≤ chunkSize, tryReserve (granted length) 1 length = true)
    (hmore : state.offset < reader.length) :
    ∃ next, hashData reader cancellation granted chunkSize state = .ok next := by
  have hle := reader.length_le
  obtain ⟨bytes, after, hread⟩ :=
    readExactAt_answers steady (patient state.offset) (validateRange_chunk hchunk hmore)
    (reserves _ (Nat.min_le_right _ _))
  rw [hashData, checkedAdd_of_le (by omega), okOr, except_ok_bind, hread]
  exact ⟨_, rfl⟩

end Loops

/-! ### The three loops -/

/-- A file as a loop has opened it. -/
def openedWith (file : OsFile) (path : String) (recorded : Nat) (hle : recorded ≤ usizeMax)
    (maxRequestBytes : Nat) :
    PositionedReader where
  file
  path
  length := recorded
  maxRequestBytes
  length_le := hle

/-- The loops over a file, each with what it leaves of its hasher, and when nothing stops them. -/
inductive HashingLoop (file : OsFile) (recorded : Nat) (hle : recorded ≤ usizeMax) :
    Prop → (Nat → Option (Except HashError (List UInt8))) → Prop where
  | verifyFileHashes (path : String) (buffer : List UInt8)
      (hbuffer : buffer.length = integrityChunkBytes) :
      HashingLoop file recorded hle (file.Steady recorded) fun fuel =>
        (verifyFileHashesLoop (openedWith file path recorded hle integrityChunkBytes) buffer
          fuel).map (·.map HashState.hasher)
  | hashSourceFiles (path : String) (cancellation : Nat → Nat → Bool) (chunkSize : Nat)
      (hchunk : validateHashChunk chunkSize = .ok ()) :
      HashingLoop file recorded hle (file.Steady recorded ∧ ∀ offset poll,
        cancellation offset poll = false) fun fuel =>
        (hashSourceFilesLoop (openedWith file path recorded hle chunkSize) cancellation
          chunkSize fuel).map
          (·.map HashState.hasher)
  | verifyDataHash (path : String) (cancellation : Nat → Nat → Bool) (granted : Nat → Bool)
      (maxRequestBytes : Nat) (positive : 0 < maxRequestBytes) :
      HashingLoop file recorded hle
        (file.Steady recorded ∧
          (∀ offset poll, cancellation offset poll = false) ∧
          ∀ length, granted length = true) fun fuel =>
        (verifyDataHashLoop (openedWith file path recorded hle maxRequestBytes) cancellation granted
          fuel).map (·.map DataState.hasher)

/-- A loop comes to an end, and where it ends without an error its hasher was fed the file, every
byte once and in order. -/
structure HashesFile (file : OsFile) (recorded : Nat) (quiet : Prop)
    (loop : Nat → Option (Except HashError (List UInt8))) :
    Prop where
  terminates : ∀ fuel, recorded < fuel → ∃ result, loop fuel = some result
  feeds : ∀ fuel hasher, loop fuel = some (.ok hasher) → hasher = slice file.bytes 0 recorded ∧
    hasher.length = recorded
  answers : quiet → ∀ fuel, recorded < fuel → ∃ hasher, loop fuel = some (.ok hasher)

/-- A loop whose invariant says how far the file is fed. -/
theorem hashesFile_of_invariant {σ : Type} {file : OsFile} {recorded : Nat} {quiet : Prop}
    {body : σ → Except HashError σ} {invariant : σ → Prop} {hasher : σ → List UInt8}
    {offset : σ → Nat} {start : σ}
    (h : LoopInvariant (fun s => offset s < recorded) body invariant fun s => recorded - offset s)
    (hstart : invariant start) (fed : ∀ s, invariant s → Fed file recorded (hasher s) (offset s))
    (progress : quiet → ∀ {s}, invariant s → decide (offset s < recorded) = true → ∃ next,
      body s = .ok next) :
    HashesFile file recorded quiet fun fuel =>
      (whileLoop (fun s => offset s < recorded) body fuel start).map (·.map hasher) := by
  have hvariant {fuel : Nat} (hfuel : recorded < fuel) : recorded - offset start < fuel := by omega
  constructor
  case terminates =>
    intro fuel hfuel
    obtain ⟨result, hrun⟩ := h.terminates hstart (hvariant hfuel)
    exact ⟨_, congrArg (Option.map (·.map hasher)) hrun⟩
  case feeds =>
    intro fuel hashed hloop
    obtain ⟨result, hrun, hresult⟩ := Option.map_eq_some_iff.mp hloop
    obtain ⟨last, rfl, rfl⟩ := except_map_ok_iff.mp hresult
    obtain ⟨hlast, hend⟩ := h.sound hstart hrun
    exact (fed last hlast).whole hend
  case answers =>
    intro hquiet fuel hfuel
    obtain ⟨last, hrun⟩ := h.answers (progress hquiet) hstart (hvariant hfuel)
    exact ⟨_, congrArg (Option.map (·.map hasher)) hrun⟩

theorem HashingLoop.hashes {file : OsFile} {recorded : Nat} {hle : recorded ≤ usizeMax}
    {quiet : Prop} {loop : Nat → Option (Except HashError (List UInt8))}
    (h : HashingLoop file recorded hle quiet loop) :
    HashesFile file recorded quiet loop := by
  cases h with
  | verifyFileHashes path buffer hbuffer =>
      have positive : 0 < integrityChunkBytes := by decide
      have hloop := hashFront_invariant (openedWith file path recorded hle integrityChunkBytes)
          (fun _ => false) positive
      refine hashesFile_of_invariant hloop ⟨hbuffer, .start file recorded⟩
        (fun _ valid => valid.fed) ?_
      intro steady state valid hmore
      exact hashFront_answers steady (fun _ => rfl) (Nat.le_refl _) valid (of_decide_eq_true hmore)
  | hashSourceFiles path cancellation chunkSize hchunk =>
      have hrange := ensure_eq_ok.mp hchunk
      have positive : 0 < chunkSize := Nat.pos_of_ne_zero fun hzero => hrange (.inl hzero)
      have hloop :=
        hashSource_invariant (openedWith file path recorded hle chunkSize) cancellation positive
      refine hashesFile_of_invariant hloop ⟨List.length_replicate, .start file recorded⟩
        (fun _ valid => valid.fed) ?_
      rintro ⟨steady, patient⟩ state valid hmore
      obtain ⟨next, hnext⟩ := hashFront_answers steady (fun poll => patient state.offset (poll + 1))
        (Nat.le_refl chunkSize) valid
        (of_decide_eq_true hmore)
      exact ⟨next, hashSource_eq_ok.mpr ⟨patient state.offset 0, hnext⟩⟩
  | verifyDataHash path cancellation granted maxRequestBytes positive =>
      have hchunk : 0 < min maxRequestBytes (8 * 1024 * 1024) := by omega
      have hloop :=
        hashData_invariant (openedWith file path recorded hle maxRequestBytes) cancellation
          granted hchunk
      refine hashesFile_of_invariant hloop (.start file recorded) (fun _ fed => fed) ?_
      rintro ⟨steady, patient, grants⟩ state fed hmore
      refine hashData_answers steady patient (Nat.min_le_left _ _) ?_ (of_decide_eq_true hmore)
      intro length hlength
      have hsmall : 1 * length ≤ isizeMax := by
        have hwide : 8 * 1024 * 1024 ≤ isizeMax := by decide
        omega
      exact tryReserve_eq_true.mpr ⟨grants length, hsmall⟩

/-- Hashing in chunks does not depend on their size: each of the loops comes to an end, feeds its
hasher the file and nothing else, answers where nothing stops it, and has the digest of any other of
them. -/
theorem chunked_hashing (file : OsFile) (recorded : Nat) (hle : recorded ≤ usizeMax) {quiet : Prop}
    {loop : Nat → Option (Except HashError (List UInt8))}
    (h : HashingLoop file recorded hle quiet loop) :
    HashesFile file recorded quiet loop ∧
      ∀ {quiet' : Prop} {loop' : Nat → Option (Except HashError (List UInt8))},
      HashingLoop file recorded hle quiet' loop' →
        ∀ (sha : Sha256) (fuel fuel' : Nat) (hasher hasher' : List UInt8),
        loop fuel = some (.ok hasher) →
          loop' fuel' = some (.ok hasher') → hex (sha hasher).val = hex (sha hasher').val := by
  refine ⟨h.hashes, ?_⟩
  intro quiet' loop' h' sha fuel fuel' hasher hasher' hrun hrun'
  rw [(h.hashes.feeds fuel hasher hrun).1, (h'.hashes.feeds fuel' hasher' hrun').1]

/-- Seven bytes, read two at a time at most. -/
def sevenBytes : OsFile where
  bytes := [1, 2, 3, 4, 5, 6, 7]
  answer _ offset length := .ok (min (min length 2) (7 - offset))
  bounded := by
    intro call offset length n h
    have hn := Except.ok.inj h
    have hsize : ([1, 2, 3, 4, 5, 6, 7] : List UInt8).length = 7 := rfl
    omega

theorem chunked_hashing_seven : ∃ hasher hasher',
    (hashSourceFilesLoop (openedWith sevenBytes "a" 7 (by decide) 3) (fun _ _ => false) 3 8).map
      (·.map HashState.hasher) = some (.ok hasher) ∧
      (verifyDataHashLoop (openedWith sevenBytes "b" 7 (by decide) 5) (fun _ _ => false)
        (fun _ => true) 8).map
        (·.map DataState.hasher) = some (.ok hasher') ∧
      hasher = [1, 2, 3, 4, 5, 6, 7] ∧ ∀ sha : Sha256,
      hex (sha hasher).val = hex (sha hasher').val := by
  have hle : 7 ≤ usizeMax := by decide
  have hsteady : sevenBytes.Steady 7 := by
    intro call offset length hlength hinside
    refine ⟨min (min length 2) (7 - offset) - 1, congrArg Except.ok ?_⟩
    omega
  have hsource : HashingLoop sevenBytes 7 hle _ _ := .hashSourceFiles "a" (fun _ _ => false) 3 rfl
  have hdata : HashingLoop sevenBytes 7 hle _ _ :=
    .verifyDataHash "b" (fun _ _ => false) (fun _ => true) 5 (by decide)
  obtain ⟨hashes, agrees⟩ := chunked_hashing sevenBytes 7 hle hsource
  obtain ⟨hashes', -⟩ := chunked_hashing sevenBytes 7 hle hdata
  obtain ⟨hasher, hrun⟩ := hashes.answers ⟨hsteady, fun _ _ => rfl⟩ 8 (by decide)
  obtain ⟨hasher', hrun'⟩ := hashes'.answers ⟨hsteady, fun _ _ => rfl, fun _ => rfl⟩ 8 (by decide)
  exact ⟨hasher, hasher', hrun, hrun', (hashes.feeds 8 hasher hrun).1, fun sha =>
    agrees hdata sha 8 8 hasher hasher' hrun hrun'⟩

/-- The loops feed what the bindings of a sidecar and of a session feed. -/
theorem HashingLoop.eq_hashChunks {file : OsFile} {recorded : Nat} {hle : recorded ≤ usizeMax}
    {quiet : Prop} {loop : Nat → Option (Except HashError (List UInt8))}
    (h : HashingLoop file recorded hle quiet loop) (same : file.bytes.length = recorded)
    {fuel : Nat} {hasher : List UInt8} (hrun : loop fuel = some (.ok hasher)) {ε : Type}
    {check : Nat → Except ε Unit} {read : ReadError → ε} {overflow : ε} {reader : PositionedFile}
    {chunkSize : Nat} {hashed : List UInt8} (positive : 0 < chunkSize)
    (hcontent : reader.content = file.bytes)
    (hchunks : hashChunks check read overflow reader chunkSize reader.content.length 0 [] =
      .ok hashed) : hashed = hasher := by
  have hfed := (h.hashes.feeds fuel hasher hrun).1
  rw [slice, List.drop_zero, ← same, List.take_length] at hfed
  rw [hashChunks_eq_ok positive (Nat.sub_le _ _) hchunks, List.nil_append, List.drop_zero,
    hcontent, hfed]

/-- A sidecar is accepted with no other digest than that of its bytes. -/
theorem verifyDataHash_eq_ok {sha : Sha256} {expected : String} {file : OsFile} {path : String}
    {recorded : Nat} {hle : recorded ≤ usizeMax} {maxRequestBytes : Nat}
    {cancellation : Nat → Nat → Bool} {granted : Nat → Bool} {fuel : Nat}
    (positive : 0 < maxRequestBytes)
    (h : verifyDataHash sha expected (openedWith file path recorded hle maxRequestBytes)
      cancellation granted fuel = some (.ok ())) :
    expected = hex (sha (slice file.bytes 0 recorded)).val := by
  obtain ⟨result, hrun, hresult⟩ := Option.map_eq_some_iff.mp h
  obtain ⟨state, hstate, hdigest⟩ := except_bind_ok_iff.mp hresult
  rw [wrap_eq_ok] at hstate
  subst hstate
  have hloop : HashingLoop file recorded hle _ _ :=
    .verifyDataHash path cancellation granted maxRequestBytes positive
  obtain ⟨hfed, -⟩ := hloop.hashes.feeds fuel state.hasher (by rw [hrun]; rfl)
  rw [← hfed, ensure_eq_ok.mp hdigest]

end LightBridge.Prepare

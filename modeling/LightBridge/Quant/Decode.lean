import LightBridge.Foundation.Ends
import LightBridge.Kernels.Gemv
import LightBridge.Quant.Tables

/-! Block decoding of `bridge-quant-layout`: what each packed type stands for, and the
decoders that write into their caller's output. -/
namespace LightBridge.Quant
open Foundation Kernels

/-- The conversions to `f32`, of half precision, of a byte or a length, and of an `i32`. -/
structure Floats extends Arithmetic where
  ofHalf : BitVec 16 → F32
  ofInt : Int → F32

/-- `bytes[index]`. -/
def byteAt (bytes : List UInt8) (index : Nat) : UInt8 := bytes.getD index 0

def readU16 (bytes : List UInt8) (offset : Nat) : BitVec 16 :=
  BitVec.ofNat 16 (ofLeBytes (slice bytes offset 2))

/-- `f16::from_bits(..).to_f32()` of the two bytes at an offset. -/
def readF16 (A : Floats) (bytes : List UInt8) (offset : Nat) : F32 :=
  A.ofHalf (readU16 bytes offset)

def readF32 (bytes : List UInt8) (offset : Nat) : F32 :=
  F32.fromBits (ofLeBytes (slice bytes offset 4))

def half : F32 := .fromBits 0x3f000000
def quarter : F32 := .fromBits 0x3e800000
def minusOne : F32 := .fromBits 0xbf800000

/-! ### Blocks -/

/-- The scale and minimum of a group of 32 elements. -/
def scaleMin (scales : List UInt8) (index : Nat) : UInt8 × UInt8 :=
  if index < 4 then (byteAt scales index &&& 0x3f, byteAt scales (index + 4) &&& 0x3f)
  else
    ((byteAt scales (index + 4) &&& (0x0f : UInt8)) ||| ((byteAt scales (index - 4) >>> 6) <<< 4),
      (byteAt scales (index + 4) >>> 4) ||| ((byteAt scales index >>> 6) <<< 4))

/-- `quants` of a `Q4_K` block: in each group, 32 low halves of its bytes and 32 high ones. -/
def q4Quants (encoded : List UInt8) : List UInt8 :=
  (List.range 4).flatMap fun group =>
    (List.range 32).map (fun lane => byteAt encoded (16 + group * 32 + lane) &&& (0x0f : UInt8)) ++
      (List.range 32).map fun lane => byteAt encoded (16 + group * 32 + lane) >>> 4

/-- The fifth bit of a quant, under the mask of its half group. -/
def highBit (encoded : List UInt8) (lane : Nat) (mask : UInt8) : UInt8 :=
  if byteAt encoded (16 + lane) &&& mask ≠ 0 then 16 else 0

def q5Quants (encoded : List UInt8) : List UInt8 :=
  (List.range 4).flatMap fun group =>
    (List.range 32).map (fun lane => (byteAt encoded (48 + group * 32 + lane) &&& (0x0f : UInt8)) +
        highBit encoded lane (1 <<< UInt8.ofNat (2 * group))) ++
      (List.range 32).map fun lane => (byteAt encoded (48 + group * 32 + lane) >>> 4) +
        highBit encoded lane (2 <<< UInt8.ofNat (2 * group))

/-- `decode_q4_k_validated` and `decode_q5_k_validated`, which differ in their quants: half
groups of 32 elements, each with a scale and a minimum of its own. -/
def decodeScaled (A : Floats) (quants : List UInt8) (encoded : List UInt8) : List F32 :=
  let d := readF16 A encoded 0
  let dmin := readF16 A encoded 2
  let scales := slice encoded 4 12
  (List.range 8).flatMap fun index =>
    let scale := A.mul d (A.ofNat (scaleMin scales index).1.toNat)
    let minimum := A.mul dmin (A.ofNat (scaleMin scales index).2.toNat)
    (List.range 32).map fun lane =>
      A.sub (A.mul scale (A.ofNat (byteAt quants (index * 32 + lane)).toNat)) minimum

def decodeQ4K (A : Floats) (encoded : List UInt8) : List F32 :=
  decodeScaled A (q4Quants encoded) encoded

def decodeQ5K (A : Floats) (encoded : List UInt8) : List F32 :=
  decodeScaled A (q5Quants encoded) encoded

/-- The sign of a lane: a set bit negates. -/
def negated (signs : UInt8) (lane : Nat) : Bool := signs &&& byteAt kmaskIq2xs lane ≠ 0

def signOf (signs : UInt8) (lane : Nat) : F32 := if negated signs lane then minusOne else one

/-- The codebook entry of eight lanes of an `IQ2_S` block. -/
def iq2sIndex (encoded : List UInt8) (group laneGroup : Nat) : Nat :=
  (byteAt encoded (2 + group * 4 + laneGroup)).toNat |||
    (((byteAt encoded (66 + group)).toNat <<< (8 - 2 * laneGroup)) &&& 0x300)

def iq2sSigns (encoded : List UInt8) (group laneGroup : Nat) : UInt8 :=
  byteAt encoded (34 + group * 4 + laneGroup)

/-- The two scales of a group of 32 elements, as nibbles of one byte. -/
def nibble (packed : UInt8) (index : Nat) : Nat := if index = 0 then (packed &&& 0x0f).toNat
      else (packed >>> 4).toNat

def decodeIq2S (A : Floats) (encoded : List UInt8) : List F32 :=
  let d := readF16 A encoded 0
  (List.range 8).flatMap fun group => (List.range 4).flatMap fun laneGroup =>
    let scale :=
      A.mul (A.mul d (A.add half (A.ofNat (nibble (byteAt encoded (74 + group)) (laneGroup / 2)))))
        quarter
    (List.range 8).map fun lane =>
      A.mul (A.mul scale (A.ofNat (gridByte iq2sGrid (iq2sIndex encoded group laneGroup) lane)))
        (signOf (iq2sSigns encoded group laneGroup) lane)

/-- The codebook entry of four lanes of an `IQ3_S` block; `side` is 0 for the first four. -/
def iq3sIndex (encoded : List UInt8) (group laneGroup side : Nat) : Nat :=
  (byteAt encoded (2 + group * 8 + (laneGroup * 2 + side))).toNat |||
    (((byteAt encoded (66 + group)).toNat <<< (8 - side - 2 * laneGroup)) &&& 0x100)

def iq3sSigns (encoded : List UInt8) (group laneGroup : Nat) : UInt8 :=
  byteAt encoded (74 + group * 4 + laneGroup)

def decodeIq3S (A : Floats) (encoded : List UInt8) : List F32 :=
  let d := readF16 A encoded 0
  (List.range 8).flatMap fun group =>
    let scale := A.mul d (A.ofNat (1 + 2 * nibble (byteAt encoded (106 + group / 2)) (group % 2)))
    (List.range 4).flatMap fun laneGroup => (List.range 2).flatMap fun side =>
      (List.range 4).map fun lane =>
      A.mul (A.mul scale
        (A.ofNat (gridByte iq3sGrid (iq3sIndex encoded group laneGroup side) lane)))
        (signOf (iq3sSigns encoded group laneGroup) (side * 4 + lane))

/-- What `decode_validated_block` writes. -/
def decodeValidatedBlock (A : Floats) (ty : GgmlType) (encoded : List UInt8) :
    Except QuantError (List F32) :=
  match ty with
  | .f32 => .ok [readF32 encoded 0]
  | .q4K => .ok (decodeQ4K A encoded)
  | .q5K => .ok (decodeQ5K A encoded)
  | .iq2S => .ok (decodeIq2S A encoded)
  | .iq3S => .ok (decodeIq3S A encoded)
  | _ => .error (.unsupportedType ty)

def validateLengths (ty : GgmlType)
    (encodedActual encodedExpected outputActual outputExpected : Nat) :
    Except QuantError Unit := do
  ensure (encodedActual = encodedExpected) (.encodedLengthMismatch ty encodedExpected encodedActual)
  ensure (outputActual = outputExpected) (.outputLengthMismatch ty outputExpected outputActual)

def decodeBlockInto (A : Floats) (ty : GgmlType) (encoded : List UInt8) :
    Command (List F32) QuantError Unit := do
  let output ← Command.read
  let (blockElements, blockBytes) ← Command.lift (layout ty)
  Command.lift (validateLengths ty encoded.length blockBytes output.length blockElements)
  Command.lift (validateScales ty encoded blockBytes (List.range 1))
  let values ← Command.lift (decodeValidatedBlock A ty encoded)
  Command.update fun output => overwrite output 0 values

/-- The loop of `decode_row_into` over the blocks. -/
def decodeBlocks (A : Floats) (ty : GgmlType) (encoded : List UInt8)
    (blockElements blockBytes : Nat) :
    List Nat → Command (List F32) QuantError Unit
  | [] => pure ()
  | block :: blocks => do
      let values ← Command.lift
        (decodeValidatedBlock A ty (slice encoded (block * blockBytes) blockBytes))
      Command.update fun output => overwrite output (block * blockElements) values
      decodeBlocks A ty encoded blockElements blockBytes blocks

def decodeRowInto (A : Floats) (ty : GgmlType) (encoded : List UInt8) (logicalElements : Nat) :
    Command (List F32) QuantError Unit := do
  let output ← Command.read
  let (blockElements, blockBytes) ← Command.lift (layout ty)
  Command.lift (ensure (logicalElements ≠ 0) .zeroLogicalElements)
  Command.lift (ensure (logicalElements % blockElements = 0)
    (.logicalElementsNotDivisible ty logicalElements blockElements))
  let blockCount := logicalElements / blockElements
  let expectedEncoded ← Command.lift
    (okOr (checkedMul blockCount blockBytes) (.arithmeticOverflow "encoded row length"))
  let expectedOutput ← Command.lift
    (okOr (checkedMul blockCount blockElements) (.arithmeticOverflow "logical row length"))
  Command.lift (validateLengths ty encoded.length expectedEncoded output.length expectedOutput)
  Command.lift (validateScales ty encoded blockBytes (List.range blockCount))
  decodeBlocks A ty encoded blockElements blockBytes (List.range blockCount)

/-- What `decode_block_into` writes into an output of one block. -/
def decodeBlock (A : Floats) (ty : GgmlType) (encoded : List UInt8) :
    Except QuantError (List F32) := do
  let (blockElements, blockBytes) ← layout ty
  validateLengths ty encoded.length blockBytes blockElements blockElements
  validateScales ty encoded blockBytes (List.range 1)
  decodeValidatedBlock A ty encoded

/-! ### Every block fills its place -/

theorem length_decodeScaled (A : Floats) (quants encoded : List UInt8) :
    (decodeScaled A quants encoded).length = 256 := by
  simp [decodeScaled, List.length_flatMap]

theorem length_decodeIq2S (A : Floats) (encoded : List UInt8) :
    (decodeIq2S A encoded).length = 256 := by
  simp [decodeIq2S, List.length_flatMap]

theorem length_decodeIq3S (A : Floats) (encoded : List UInt8) :
    (decodeIq3S A encoded).length = 256 := by
  simp [decodeIq3S, List.length_flatMap]

theorem decodeValidatedBlock_length {A : Floats} {ty : GgmlType} {encoded : List UInt8}
    {values : List F32}
    (h : decodeValidatedBlock A ty encoded = .ok values) : values.length = ty.blockSize := by
  unfold decodeValidatedBlock at h
  split at h
  case h_1 => cases h; rfl
  case h_2 => cases h; exact length_decodeScaled A _ encoded
  case h_3 => cases h; exact length_decodeScaled A _ encoded
  case h_4 => cases h; exact length_decodeIq2S A encoded
  case h_5 => cases h; exact length_decodeIq3S A encoded
  case h_6 => cases h

theorem layout_eq_ok {ty : GgmlType} {sizes : Nat × Nat} : layout ty = .ok sizes ↔
    ty ∈ [GgmlType.f32, .q4K, .q5K, .iq2S, .iq3S] ∧ sizes = (ty.blockSize, ty.typeSize) :=
  ensure_pure_eq_ok

/-- A type with a layout has a decoder. -/
theorem decodeValidatedBlock_of_layout (A : Floats) {ty : GgmlType} {sizes : Nat × Nat}
    (h : layout ty = .ok sizes)
    (encoded : List UInt8) : ∃ values, decodeValidatedBlock A ty encoded = .ok values := by
  have hty := (layout_eq_ok.mp h).1
  simp only [List.mem_cons, List.not_mem_nil, or_false] at hty
  rcases hty with rfl | rfl | rfl | rfl | rfl
  all_goals exact ⟨_, rfl⟩

/-! ### Scales of a row and of its blocks -/

theorem validateBlockScales_eq_ok {ty : GgmlType} {encoded : List UInt8} {blockBytes block : Nat}
    {fields : List (String × Nat)} {u : Unit} :
    validateBlockScales ty encoded blockBytes block fields = .ok u ↔
      ∀ field ∈ fields, f16Finite (readU16 encoded (block * blockBytes + field.2)) = true := by
  induction fields with
  | nil => simp [validateBlockScales]
  | cons field fields ih =>
      simp only [validateBlockScales, except_bind_ok_iff, ensure_eq_ok, ih,
        List.forall_mem_cons, readU16]
      constructor
      · rintro ⟨_, hfield, hrest⟩
        exact ⟨hfield, hrest⟩
      · rintro ⟨hfield, hrest⟩
        exact ⟨(), hfield, hrest⟩

theorem validateScales_eq_ok {ty : GgmlType} (hty : ty ≠ .f32) {fields : List (String × Nat)}
    (hfields : scaleFields ty = .ok fields) {encoded : List UInt8} {blockBytes : Nat}
    {blocks : List Nat} {u : Unit} :
    validateScales ty encoded blockBytes blocks = .ok u ↔
      ∀ block ∈ blocks, ∀ field ∈ fields,
      f16Finite (readU16 encoded (block * blockBytes + field.2)) = true := by
  induction blocks with
  | nil => simp [validateScales]
  | cons block blocks ih =>
      simp only [validateScales, if_neg hty, hfields, except_bind_ok_iff,
        validateBlockScales_eq_ok, ih, List.forall_mem_cons, Except.ok.injEq]
      exact ⟨fun ⟨_, rfl, _, hblock, hrest⟩ => ⟨hblock, hrest⟩, fun ⟨hblock, hrest⟩ =>
        ⟨_, rfl, (), hblock, hrest⟩⟩

theorem validateScales_f32 (encoded : List UInt8) (blockBytes : Nat) (blocks : List Nat) :
    validateScales .f32 encoded blockBytes blocks = .ok () := by
  cases blocks with
  | nil => rfl
  | cons block blocks => rfl

/-- The scales of a row are the scales of its blocks. -/
theorem validateScales_slice {ty : GgmlType} (hty : ty ∈ [GgmlType.f32, .q4K, .q5K, .iq2S, .iq3S])
    {encoded : List UInt8} {count : Nat}
    (h : validateScales ty encoded ty.typeSize (List.range count) = .ok ()) {block : Nat}
    (hblock : block < count) :
    validateScales ty (slice encoded (block * ty.typeSize) ty.typeSize) ty.typeSize (List.range 1) =
      .ok () := by
  by_cases hf32 : ty = .f32
  · subst hf32
    exact validateScales_f32 _ _ _
  · obtain ⟨fields, hfields, hinside⟩ : ∃ fields, scaleFields ty = .ok fields ∧
        ∀ field ∈ fields, field.2 + 2 ≤ ty.typeSize := by
      simp only [List.mem_cons, List.not_mem_nil, or_false] at hty
      rcases hty with rfl | rfl | rfl | rfl | rfl
      · exact absurd rfl hf32
      all_goals exact ⟨_, rfl, by decide⟩
    rw [validateScales_eq_ok hf32 hfields] at h ⊢
    intro first hfirst field hfield
    have hzero : first = 0 := by simpa using hfirst
    have hrow := h block (List.mem_range.mpr hblock) field hfield
    subst hzero
    rw [readU16, Nat.zero_mul, Nat.zero_add, slice_slice _ _ _ _ _ (hinside field hfield)]
    exact hrow

/-! ### Outputs -/

/-- The block loop writes block after block and never fails on a supported type. -/
theorem decodeBlocks_run {A : Floats} {ty : GgmlType} {encoded : List UInt8} {rows : Nat → List F32}
    (hrows : ∀ block, decodeValidatedBlock A ty (slice encoded (block * ty.typeSize) ty.typeSize) =
      .ok (rows block))
    {start count : Nat} {output : List F32}
    (hlength : output.length = (start + count) * ty.blockSize) :
    decodeBlocks A ty encoded ty.blockSize ty.typeSize (List.range' start count) output =
      (.ok (), output.take (start * ty.blockSize) ++ (List.range' start count).flatMap rows) := by
  induction count generalizing start output with
  | zero =>
      rw [Nat.add_zero] at hlength
      rw [List.range'_zero, decodeBlocks, Command.pure_run, List.flatMap_nil,
        List.append_nil, ← hlength, List.take_length]
  | succ count ih =>
      have hwidth := decodeValidatedBlock_length (hrows start)
      have hroom : start * ty.blockSize + (rows start).length ≤ output.length := by
        rw [hlength, hwidth]
        exact row_end_le (by omega)
      rw [List.range'_succ, decodeBlocks, hrows, Command.bind_of_ok (Command.lift_run _ _),
        Command.bind_of_ok (Command.update_run _ _), ih]
      · have htake : (overwrite output (start * ty.blockSize) (rows start)).take
            ((start + 1) * ty.blockSize) = output.take (start * ty.blockSize) ++ rows start := by
          apply List.take_left'
          rw [List.length_append, List.length_take, hwidth, Nat.succ_mul]
          omega
        rw [htake, List.flatMap_cons, List.append_assoc]
      · rw [length_overwrite hroom, hlength, Nat.add_right_comm, Nat.add_assoc]

theorem decodeBlock_eq_ok {A : Floats} {ty : GgmlType} {encoded : List UInt8} {values : List F32} :
    decodeBlock A ty encoded = .ok values ↔ ty ∈ [GgmlType.f32, .q4K, .q5K, .iq2S, .iq3S] ∧
      encoded.length = ty.typeSize ∧ validateScales ty encoded ty.typeSize (List.range 1) = .ok () ∧
      decodeValidatedBlock A ty encoded = .ok values := by
  simp only [decodeBlock, except_bind_ok_iff, layout_eq_ok, validateLengths, ensure_eq_ok]
  constructor
  · rintro ⟨_, ⟨hty, rfl⟩, _, ⟨_, hlength, -⟩, _, hscales, hvalues⟩
    exact ⟨hty, hlength, hscales, hvalues⟩
  · rintro ⟨hty, hlength, hscales, hvalues⟩
    exact ⟨_, ⟨hty, rfl⟩, (), ⟨(), hlength, trivial⟩, (), hscales, hvalues⟩

theorem decodeBlock_length {A : Floats} {ty : GgmlType} {encoded : List UInt8} {values : List F32}
    (h : decodeBlock A ty encoded = .ok values) : values.length = ty.blockSize :=
  decodeValidatedBlock_length (decodeBlock_eq_ok.mp h).2.2.2

/-- A single value is its own block. -/
theorem decodeBlock_f32 (A : Floats) {encoded values : List _}
    (h : decodeBlock A .f32 encoded = .ok values) :
    values = [readF32 encoded 0] := by
  obtain ⟨-, -, -, hvalues⟩ := decodeBlock_eq_ok.mp h
  cases hvalues
  rfl

/-- The output holds the decodings of the blocks of a row, one after the other. -/
structure DecodedRow (A : Floats) (ty : GgmlType) (encoded : List UInt8) (logicalElements : Nat)
    (output : List F32) : Prop where
  divides : logicalElements / ty.blockSize * ty.blockSize = logicalElements
  encoded_length : encoded.length = logicalElements / ty.blockSize * ty.typeSize
  blocks : ∃ rows : Nat → List F32,
    output = (List.range (logicalElements / ty.blockSize)).flatMap rows ∧
    ∀ block, block < logicalElements / ty.blockSize →
      decodeBlock A ty (slice encoded (block * ty.typeSize) ty.typeSize) = .ok (rows block)

/-- `decode_row_into` writes the blocks of the row or leaves its output alone. -/
theorem decodeRowInto_ends (A : Floats) (ty : GgmlType) (encoded : List UInt8)
    (logicalElements : Nat) (output : List F32) :
    Command.Ends (fun _ output' => DecodedRow A ty encoded logicalElements output')
      (fun _ output' => output' = output) (decodeRowInto A ty encoded logicalElements output) := by
  unfold decodeRowInto
  refine .read_bind (.lift_bind (fun _ _ => rfl) fun sizes hlayout => ?_)
  obtain ⟨hty, rfl⟩ := layout_eq_ok.mp hlayout
  refine .lift_bind (fun _ _ => rfl) fun _ _ => .lift_bind (fun _ _ => rfl) fun _ hdivides => ?_
  refine .lift_bind (fun _ _ => rfl) fun expectedEncoded hencoded =>
    .lift_bind (fun _ _ => rfl) fun expectedOutput houtput => ?_
  refine .lift_bind (fun _ _ => rfl) fun _ hlengths =>
    .lift_bind (fun _ _ => rfl) fun _ hscales => ?_
  obtain ⟨-, rfl⟩ := checkedMul_eq_some.mp (okOr_eq_ok.mp hencoded)
  obtain ⟨-, rfl⟩ := checkedMul_eq_some.mp (okOr_eq_ok.mp houtput)
  simp only [validateLengths, except_bind_ok_iff, ensure_eq_ok] at hlengths hdivides
  obtain ⟨_, hbytes, hlength⟩ := hlengths
  choose rows hrows using fun block => decodeValidatedBlock_of_layout A hlayout
    (slice encoded (block * ty.typeSize) ty.typeSize)
  have hrun : decodeBlocks A ty encoded ty.blockSize ty.typeSize
      (List.range' 0 (logicalElements / ty.blockSize)) output = _ :=
    decodeBlocks_run hrows (by rw [hlength, Nat.zero_add])
  rw [List.range_eq_range', hrun]
  refine .answered () _ ⟨Nat.div_mul_cancel (Nat.dvd_of_mod_eq_zero hdivides), hbytes, rows, ?_,
    fun block hblock => ?_⟩
  · rw [Nat.zero_mul, List.take_zero, List.nil_append, List.range_eq_range']
  · refine decodeBlock_eq_ok.mpr ⟨hty, ?_, validateScales_slice hty hscales hblock, hrows block⟩
    apply length_slice
    rw [hbytes]
    exact row_end_le hblock

end LightBridge.Quant

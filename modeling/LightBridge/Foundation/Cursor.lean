import Mathlib.Data.Nat.ModEq
import LightBridge.Foundation.Command
import LightBridge.Foundation.Slices

/-! Readers over a byte slice. A reader is exact for an encoding when it reads the
encodings of its values, each as its value, and nothing else. -/
namespace Foundation

/-- `width` little-endian bytes of a number. -/
def leBytes : Nat → Nat → List UInt8
  | 0, _ => []
  | width + 1, n => UInt8.ofNat n :: leBytes width (n / 256)

/-- `from_le_bytes`. -/
def ofLeBytes : List UInt8 → Nat
  | [] => 0
  | byte :: bytes => byte.toNat + 256 * ofLeBytes bytes

@[simp] theorem length_leBytes (width n : Nat) : (leBytes width n).length = width := by
  induction width generalizing n with
  | zero => rfl
  | succ width ih => rw [leBytes, List.length_cons, ih]

theorem ofLeBytes_leBytes {width n : Nat} (h : n < 256 ^ width) :
    ofLeBytes (leBytes width n) = n := by
  induction width generalizing n with
  | zero => simp only [pow_zero, Nat.lt_one_iff] at h; rw [h]; rfl
  | succ width ih =>
      rw [pow_succ] at h
      rw [leBytes, ofLeBytes, ih (Nat.div_lt_of_lt_mul (by omega)), UInt8.toNat_ofNat']
      omega

theorem ofLeBytes_lt (bytes : List UInt8) : ofLeBytes bytes < 256 ^ bytes.length := by
  induction bytes with
  | nil => simp [ofLeBytes]
  | cons byte bytes ih =>
      have hbyte := byte.toNat_lt
      rw [ofLeBytes, List.length_cons, pow_succ]
      omega

theorem leBytes_ofLeBytes (bytes : List UInt8) :
    leBytes bytes.length (ofLeBytes bytes) = bytes := by
  induction bytes with
  | nil => rfl
  | cons byte bytes ih =>
      have hbyte := byte.toNat_lt
      have hdiv : (byte.toNat + 256 * ofLeBytes bytes) / 256 = ofLeBytes bytes := by omega
      have hlow : UInt8.ofNat (byte.toNat + 256 * ofLeBytes bytes) = byte := by
        apply UInt8.toNat_inj.mp
        rw [UInt8.toNat_ofNat']
        omega
      rw [List.length_cons, leBytes, ofLeBytes, hdiv, ih, hlow]

/-- Bytes and the offset of the first one not read. -/
structure Cursor where
  bytes : List UInt8
  offset : Nat
  deriving DecidableEq, Repr

namespace Cursor
variable {ε α β : Type}

/-- `bytes.get(offset..offset + length)` after the end was computed without passing `limit`. -/
def take (limit : Nat) (overflow : ε) (truncated : Nat → Nat → ε) (length : Nat) :
    Command Cursor ε (List UInt8) := fun cursor =>
  let stop := cursor.offset + length
  if limit < stop then (.error overflow, cursor)
  else if cursor.bytes.length < stop then
    (.error (truncated cursor.offset (stop - cursor.bytes.length)), cursor)
  else (.ok (slice cursor.bytes cursor.offset length), { cursor with offset := stop })

def remaining (cursor : Cursor) : Nat := cursor.bytes.length - cursor.offset

/-- The offset is inside the bytes and no offset passes `limit`. -/
structure Fits (limit : Nat) (cursor : Cursor) : Prop where
  offset_le : cursor.offset ≤ cursor.bytes.length
  length_le : cursor.bytes.length ≤ limit

/-- `next` is the cursor after reading exactly `bs`. -/
def Consumes (cursor : Cursor) (bs : List UInt8) (next : Cursor) : Prop :=
  bs <+: cursor.bytes.drop cursor.offset ∧
    next = { cursor with offset := cursor.offset + bs.length }

theorem Consumes.nil (cursor : Cursor) : cursor.Consumes [] cursor := ⟨List.nil_prefix, rfl⟩

theorem Consumes.offset_le {cursor next : Cursor} {bs : List UInt8} (h : cursor.Consumes bs next)
    (hc : cursor.offset ≤ cursor.bytes.length) : next.offset ≤ next.bytes.length := by
  obtain ⟨hpre, rfl⟩ := h
  have := hpre.length_le
  rw [List.length_drop] at this
  show cursor.offset + bs.length ≤ cursor.bytes.length
  omega

theorem Fits.consumes {limit : Nat} {cursor next : Cursor} {bs : List UInt8} (h : Fits limit cursor)
    (hc : cursor.Consumes bs next) : Fits limit next :=
  ⟨hc.offset_le h.offset_le, by rw [hc.2]; exact h.length_le⟩

theorem consumes_append {cursor last : Cursor} {xs ys : List UInt8} :
    cursor.Consumes (xs ++ ys) last ↔ ∃ next, cursor.Consumes xs next ∧ next.Consumes ys last := by
  constructor
  · rintro ⟨hbytes, rfl⟩
    obtain ⟨hfirst, hsecond⟩ := append_prefix_drop_iff.mp hbytes
    refine ⟨{ cursor with offset := cursor.offset + xs.length }, ⟨hfirst, rfl⟩, hsecond, ?_⟩
    rw [List.length_append, Nat.add_assoc]
  · rintro ⟨next, ⟨hfirst, rfl⟩, hsecond, rfl⟩
    refine ⟨append_prefix_drop_iff.mpr ⟨hfirst, hsecond⟩, ?_⟩
    rw [List.length_append, Nat.add_assoc]

/-- Reading two things from one place reads the same bytes when they are equally long. -/
theorem Consumes.inj {cursor a b : Cursor} {xs ys : List UInt8} (hx : cursor.Consumes xs a)
    (hy : cursor.Consumes ys b) (hlen : xs.length = ys.length) : xs = ys :=
  (List.prefix_of_prefix_length_le hx.1 hy.1 hlen.le).eq_of_length hlen

/-- A whole slice is consumed exactly by its own bytes. -/
theorem consumes_all {bytes bs : List UInt8} {next : Cursor}
    (h : (⟨bytes, 0⟩ : Cursor).Consumes bs next) : next.remaining = 0 ↔ bytes = bs := by
  obtain ⟨⟨rest, hrest⟩, rfl⟩ := h
  change bs ++ rest = bytes at hrest
  subst hrest
  simp only [remaining, List.length_append, Nat.zero_add, Nat.add_sub_cancel_left,
    List.length_eq_zero_iff]
  exact ⟨fun h => by rw [h, List.append_nil], fun h => List.append_right_eq_self.mp h⟩

/-- The reader answers exactly the encodings of the values in `ok`. -/
def Exact (limit : Nat) (p : Command Cursor ε α) (enc : α → List UInt8) (ok : α → Prop) : Prop :=
  ∀ cursor, Fits limit cursor → ∀ a next, p cursor = (.ok a, next) ↔ ok a ∧
    cursor.Consumes (enc a) next

theorem exact_take (limit : Nat) (overflow : ε) (truncated : Nat → Nat → ε) (length : Nat) :
    Exact limit (take limit overflow truncated length) id (·.length = length) := by
  intro cursor hfits a next
  have hlimit := hfits.length_le
  simp only [take, Consumes, id]
  split
  · refine ⟨fun h => (by cases h), ?_⟩
    rintro ⟨rfl, hpre, -⟩
    have := hpre.length_le
    have := hfits.offset_le
    rw [List.length_drop] at *
    omega
  · split
    · refine ⟨fun h => (by cases h), ?_⟩
      rintro ⟨rfl, hpre, -⟩
      have := hpre.length_le
      have := hfits.offset_le
      rw [List.length_drop] at *
      omega
    · constructor
      · intro h
        cases h
        have hlen : (slice cursor.bytes cursor.offset length).length = length :=
          length_slice (by omega)
        exact ⟨hlen, List.take_prefix _ _, by rw [hlen]⟩
      · rintro ⟨rfl, hpre, rfl⟩
        rw [slice, ← List.prefix_iff_eq_take.mp hpre]

theorem Exact.pure (limit : Nat) (a : α) :
    Exact limit (pure a : Command Cursor ε α) (fun _ => []) (· = a) := by
  intro cursor _ b next
  constructor
  · intro h; cases h; exact ⟨rfl, .nil _⟩
  · rintro ⟨rfl, -, rfl⟩; rfl

/-- Sequencing: the last value determines the first. -/
theorem Exact.bind {limit : Nat} {p : Command Cursor ε α} {k : α → Command Cursor ε β}
    {encA : α → List UInt8} {okA : α → Prop} {encB : α → β → List UInt8} {okB : α → β → Prop}
    (first : β → α) (hp : Exact limit p encA okA)
    (hk : ∀ a, okA a → Exact limit (k a) (encB a) (okB a)) (hfirst : ∀ a b, okB a b → first b = a) :
    Exact limit (p >>= k) (fun b => encA (first b) ++ encB (first b) b)
      (fun b => okA (first b) ∧ okB (first b) b) := by
  intro cursor hfits b last
  rw [Command.bind_ok_iff, consumes_append]
  constructor
  · rintro ⟨a, next, ha, hb⟩
    obtain ⟨hokA, hconsA⟩ := (hp cursor hfits a next).mp ha
    obtain ⟨hokB, hconsB⟩ := (hk a hokA next (hfits.consumes hconsA) b last).mp hb
    have hab := hfirst a b hokB
    subst hab
    exact ⟨⟨hokA, hokB⟩, next, hconsA, hconsB⟩
  · rintro ⟨⟨hokA, hokB⟩, next, hconsA, hconsB⟩
    exact ⟨first b, next, (hp cursor hfits _ next).mpr ⟨hokA, hconsA⟩,
      (hk _ hokA next (hfits.consumes hconsA) b last).mpr ⟨hokB, hconsB⟩⟩

theorem Exact.congr {limit : Nat} {p : Command Cursor ε α} {enc enc' : α → List UInt8}
    {ok ok' : α → Prop} (h : Exact limit p enc ok) (hok : ∀ a, ok a ↔ ok' a)
    (henc : ∀ a, ok a → enc a = enc' a) :
    Exact limit p enc' ok' := by
  intro cursor hfits a next
  rw [h cursor hfits a next, hok a]
  exact and_congr_right fun ha => by rw [henc a ((hok a).mpr ha)]

/-- A reader whose value is checked before it is answered. -/
theorem Exact.check {limit : Nat} {p : Command Cursor ε α} {enc : α → List UInt8} {ok Q : α → Prop}
    (hp : Exact limit p enc ok) (test : α → Except ε β) (f : α → β) (g : β → α)
    (htest : ∀ a b, test a = .ok b ↔ Q a ∧ b = f a) (hgf : ∀ a, ok a → Q a → g (f a) = a) :
    Exact limit (p >>= fun a => Command.lift (test a)) (fun b => enc (g b))
      (fun b => ok (g b) ∧ Q (g b) ∧ f (g b) = b) := by
  intro cursor hfits b last
  rw [Command.bind_ok_iff]
  constructor
  · rintro ⟨a, next, ha, hb⟩
    obtain ⟨hok, hcons⟩ := (hp cursor hfits a next).mp ha
    simp only [Command.lift_run, Prod.mk.injEq, htest] at hb
    obtain ⟨⟨hQ, rfl⟩, rfl⟩ := hb
    have hga := hgf a hok hQ
    simp only [hga]
    exact ⟨⟨hok, hQ, trivial⟩, hcons⟩
  · rintro ⟨⟨hok, hQ, hb⟩, hcons⟩
    refine ⟨g b, last, (hp cursor hfits _ last).mpr ⟨hok, hcons⟩, ?_⟩
    simp only [Command.lift_run, Prod.mk.injEq, htest]
    exact ⟨⟨hQ, hb.symm⟩, trivial⟩

/-- A check in front of a reader. -/
theorem Exact.guard {limit : Nat} {p : Command Cursor ε α} {enc : α → List UInt8} {ok : α → Prop}
    {Q : Prop} (test : Except ε Unit) (htest : test = .ok () ↔ Q) (hp : Exact limit p enc ok) :
    Exact limit (Command.lift test >>= fun _ => p) enc (fun a => Q ∧ ok a) := by
  intro cursor hfits a next
  rw [Command.bind_ok_iff, ← htest, and_assoc, ← hp cursor hfits a next]
  constructor
  · rintro ⟨_, _, hguard, hrun⟩
    obtain ⟨rfl, rfl⟩ := Prod.mk.inj hguard
    exact ⟨rfl, hrun⟩
  · rintro ⟨rfl, hrun⟩
    exact ⟨(), cursor, rfl, hrun⟩

/-- A reader that must leave nothing of a slice. -/
theorem Exact.whole {limit : Nat} {p : Command Cursor ε α} {enc : α → List UInt8} {ok : α → Prop}
    (hp : Exact limit p enc ok) {test : Cursor → Except ε Unit}
    (htest : ∀ cursor, test cursor = .ok () ↔ cursor.remaining = 0) {bytes : List UInt8}
    (hbytes : bytes.length ≤ limit) (a : α) :
    ((do let a ← p; let cursor ← Command.read; Command.lift (test cursor); return a : Command Cursor
      ε α) ⟨bytes, 0⟩).1 = .ok a ↔ ok a ∧ bytes = enc a := by
  have hfits : Fits limit ⟨bytes, 0⟩ := ⟨Nat.zero_le _, hbytes⟩
  constructor
  · intro h
    obtain ⟨b, next, hread, hrest⟩ := Command.bind_ok_iff.mp (Prod.ext h rfl)
    obtain ⟨_, _, hcursor, hrest⟩ := Command.bind_ok_iff.mp hrest
    cases hcursor
    obtain ⟨_, _, hcheck, hlast⟩ := Command.bind_ok_iff.mp hrest
    have htested := congrArg Prod.fst hcheck
    cases hlast
    obtain ⟨hok, hcons⟩ := (hp _ hfits a next).mp hread
    exact ⟨hok, (consumes_all hcons).mp ((htest next).mp htested)⟩
  · rintro ⟨hok, rfl⟩
    have hcons : (⟨enc a, 0⟩ : Cursor).Consumes (enc a) ⟨enc a, (enc a).length⟩ := by
      refine ⟨List.prefix_rfl, ?_⟩
      rw [Nat.zero_add]
    rw [Command.bind_of_ok ((hp _ hfits a _).mpr ⟨hok, hcons⟩),
      Command.bind_of_ok (Command.read_run _), (htest _).mpr ((consumes_all hcons).mpr rfl)]
    rfl

/-- Reading a list element by element. -/
theorem Exact.collect {limit : Nat} {body : Nat → Command Cursor ε α} {enc : α → List UInt8}
    {ok : α → Prop} (h : ∀ i, Exact limit (body i) enc ok) (i n : Nat) :
    Exact limit (Command.collect body i n) (fun xs => xs.flatMap enc)
      (fun xs => xs.length = n ∧ ∀ x ∈ xs, ok x) := by
  induction n generalizing i with
  | zero =>
      intro cursor _ xs next
      constructor
      · intro h; cases h; exact ⟨⟨rfl, by simp⟩, .nil _⟩
      · rintro ⟨⟨hlen, -⟩, hcons⟩
        obtain rfl := List.length_eq_zero_iff.mp hlen
        obtain ⟨-, rfl⟩ := hcons
        rfl
  | succ n ih =>
      intro cursor hfits xs last
      simp only [Command.collect, Command.bind_ok_iff, Command.pure_run, Prod.mk.injEq,
        Except.ok.injEq]
      constructor
      · rintro ⟨x, next, hx, ys, next', hys, rfl, rfl⟩
        obtain ⟨hok, hcons⟩ := (h i cursor hfits x next).mp hx
        obtain ⟨⟨hlen, hall⟩, hcons'⟩ := (ih (i + 1) next (hfits.consumes hcons) ys next').mp hys
        refine ⟨⟨by rw [List.length_cons, hlen], ?_⟩, ?_⟩
        · intro y hy
          rcases List.mem_cons.mp hy with rfl | hy
          · exact hok
          · exact hall y hy
        · rw [List.flatMap_cons, consumes_append]
          exact ⟨next, hcons, hcons'⟩
      · rintro ⟨⟨hlen, hall⟩, hcons⟩
        obtain ⟨x, ys, rfl⟩ := List.exists_cons_of_length_eq_add_one hlen
        rw [List.flatMap_cons, consumes_append] at hcons
        obtain ⟨next, hconsx, hconsys⟩ := hcons
        refine ⟨x, next, (h i cursor hfits x next).mpr ⟨hall x List.mem_cons_self, hconsx⟩, ys,
          last, ?_, rfl, rfl⟩
        exact (ih (i + 1) next (hfits.consumes hconsx) ys last).mpr
          ⟨⟨by simpa using hlen, fun y hy => hall y (List.mem_cons_of_mem x hy)⟩, hconsys⟩

/-- A little-endian number of `width` bytes. -/
theorem exact_number (limit : Nat) (overflow : ε) (truncated : Nat → Nat → ε) (width : Nat) :
    Exact limit (take limit overflow truncated width >>= fun bytes => pure (ofLeBytes bytes))
      (leBytes width) (· < 256 ^ width) := by
  have h := (exact_take limit overflow truncated width).check (Q := fun _ => True)
    (fun bytes => .ok (ofLeBytes bytes)) ofLeBytes (leBytes width)
    (fun a b => by simp [eq_comm])
      (fun bytes hlen _ => by rw [← hlen]; exact leBytes_ofLeBytes bytes)
  refine h.congr (fun n => ?_) fun _ _ => rfl
  simp only [length_leBytes, true_and]
  exact ⟨fun h => by rw [← h]; simpa using ofLeBytes_lt (leBytes width n), ofLeBytes_leBytes⟩

end Cursor
end Foundation

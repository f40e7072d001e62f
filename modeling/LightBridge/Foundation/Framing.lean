import LightBridge.Foundation.Cursor

/-! Encodings that are told apart by how a text begins: where a text begins with the encoding of a
value, it begins with no other's, and what follows is told apart as well. -/
namespace Foundation
variable {α β : Type}

/-- Among the values in `P`, a text begins with the encoding of one at most. -/
def Framed (code : α → List β) (P : α → Prop) : Prop :=
  ∀ a b rest rest', P a → P b → code a ++ rest = code b ++ rest' → a = b ∧ rest = rest'

namespace Framed
variable {code : α → List β} {P : α → Prop}

theorem injective (h : Framed code P) {a b : α} (ha : P a) (hb : P b)
    (heq : code a = code b) : a = b :=
  (h a b [] [] ha hb (by rw [heq])).1

/-- Encodings of one length. -/
theorem of_length {width : Nat} (length : ∀ a, P a → (code a).length = width)
    (injective : ∀ a b, P a → P b → code a = code b → a = b) : Framed code P := by
  intro a b rest rest' ha hb h
  obtain ⟨hcode, hrest⟩ := List.append_inj h ((length a ha).trans (length b hb).symm)
  exact ⟨injective a b ha hb hcode, hrest⟩

/-- As many values as are known to be there. -/
theorem counted (h : Framed code P) (count : Nat) :
    Framed (fun values : List α => values.flatMap code) fun values => values.length = count ∧
      ∀ a ∈ values, P a := by
  intro values
  induction values generalizing count with
  | nil =>
      rintro others rest rest' ⟨rfl, -⟩ ⟨hlength, -⟩ heq
      rw [List.eq_nil_of_length_eq_zero hlength] at heq ⊢
      exact ⟨rfl, heq⟩
  | cons a values ih =>
      rintro others rest rest' ⟨rfl, hvalues⟩ ⟨hlength, hothers⟩ heq
      cases others with
      | nil => cases hlength
      | cons b others =>
          obtain ⟨ha, hvaluesTail⟩ := List.forall_mem_cons.mp hvalues
          obtain ⟨hb, hothersTail⟩ := List.forall_mem_cons.mp hothers
          simp only [List.flatMap_cons, List.append_assoc] at heq
          obtain ⟨rfl, htail⟩ := h a b _ _ ha hb heq
          obtain ⟨rfl, hrest⟩ := ih values.length others rest rest' ⟨rfl, hvaluesTail⟩
            ⟨Nat.succ.inj hlength, hothersTail⟩ htail
          exact ⟨rfl, hrest⟩

/-- As many values as there are up to the end of the text. -/
theorem flatMap_injective (h : Framed code P) (nonempty : ∀ a, P a → code a ≠ [])
    {values others : List α} (hvalues : ∀ a ∈ values, P a) (hothers : ∀ b ∈ others, P b)
    (heq : values.flatMap code = others.flatMap code) :
    values = others := by
  induction values generalizing others with
  | nil =>
      cases others with
      | nil => rfl
      | cons b others =>
          rw [List.flatMap_nil, List.flatMap_cons] at heq
          exact absurd (List.append_eq_nil_iff.mp heq.symm).1
            (nonempty b (hothers b List.mem_cons_self))
  | cons a values ih =>
      cases others with
      | nil =>
          rw [List.flatMap_nil, List.flatMap_cons] at heq
          exact absurd (List.append_eq_nil_iff.mp heq).1 (nonempty a (hvalues a List.mem_cons_self))
      | cons b others =>
          obtain ⟨ha, hvaluesTail⟩ := List.forall_mem_cons.mp hvalues
          obtain ⟨hb, hothersTail⟩ := List.forall_mem_cons.mp hothers
          rw [List.flatMap_cons, List.flatMap_cons] at heq
          obtain ⟨rfl, htail⟩ := h a b _ _ ha hb heq
          rw [ih hvaluesTail hothersTail htail]

end Framed

/-- A number of a fixed width. -/
theorem framed_leBytes (width : Nat) : Framed (leBytes width) (· < 256 ^ width) := by
  apply Framed.of_length (fun n _ => length_leBytes width n)
  intro a b ha hb h
  rw [← ofLeBytes_leBytes ha, h, ofLeBytes_leBytes hb]

/-- Bytes behind their number. -/
def lengthPrefixed (width : Nat) (bytes : List UInt8) : List UInt8 :=
  leBytes width bytes.length ++ bytes

theorem framed_lengthPrefixed (width : Nat) : Framed (lengthPrefixed width)
    (·.length < 256 ^ width) := by
  intro a b rest rest' ha hb h
  rw [lengthPrefixed, lengthPrefixed, List.append_assoc, List.append_assoc] at h
  obtain ⟨hlength, h⟩ := framed_leBytes width _ _ _ _ ha hb h
  exact List.append_inj h hlength

/-! ### Text -/

/-- `as_bytes`. -/
def asBytes (text : String) : List UInt8 := text.toByteArray.data.toList

theorem asBytes_injective : Function.Injective asBytes := by
  intro a b h
  exact String.toByteArray_inj.mp (ByteArray.ext (Array.toList_inj.mp h))

theorem fromUTF8_eq_some {bytes : List UInt8} {text : String} :
    String.fromUTF8? ⟨bytes.toArray⟩ = some text ↔ bytes = asBytes text := by
  rw [String.fromUTF8?]
  constructor
  · intro h
    split at h
    · cases h
      rfl
    · cases h
  · rintro rfl
    have hbytes : (⟨(asBytes text).toArray⟩ : ByteArray) = text.toByteArray := by
      rw [asBytes, Array.toArray_toList]
    rw [dif_pos (hbytes ▸ text.isValidUTF8)]
    exact congrArg some (String.toByteArray_inj.mp hbytes)

/-- A text of ASCII has as many bytes as characters. -/
theorem length_asBytes {text : String} (h : ∀ c ∈ text.toList, c.val ≤ 127) :
    (asBytes text).length = text.toList.length := by
  have hbytes : asBytes text = text.toList.flatMap String.utf8EncodeChar := by
    rw [asBytes, ← String.utf8Encode_toList, List.utf8Encode, List.data_toByteArray]
  rw [hbytes, List.length_flatMap]
  clear hbytes
  generalize text.toList = chars at h
  induction chars with
  | nil => rfl
  | cons c chars ih =>
      obtain ⟨hc, hchars⟩ := List.forall_mem_cons.mp h
      rw [List.map_cons, List.sum_cons, ih hchars, String.length_utf8EncodeChar,
        Char.utf8Size_eq_one_iff.mpr hc, List.length_cons, Nat.add_comm]

/-- A byte by its two hexadecimal digits. -/
def hexByte (byte : UInt8) : List Char := [(byte.toNat / 16).digitChar, (byte.toNat % 16).digitChar]

/-- Bytes in lowercase hexadecimal. -/
def hex (bytes : List UInt8) : String := String.ofList (bytes.flatMap hexByte)

theorem digitChar_injective {m n : Nat} (hm : m < 16) (hn : n < 16)
    (h : m.digitChar = n.digitChar) : m = n := by
  have hall : ∀ a < 16, ∀ b < 16, a.digitChar = b.digitChar → a = b := by decide
  exact hall m hm n hn h

theorem framed_hexByte : Framed hexByte fun _ => True := by
  refine Framed.of_length (fun _ _ => (rfl : _ = 2)) ?_
  intro a b _ _ h
  obtain ⟨hhigh, hlow⟩ := List.cons_eq_cons.mp h
  have ha := a.toNat_lt
  have hb := b.toNat_lt
  have hdiv := digitChar_injective (by omega) (by omega) hhigh
  have hmod := digitChar_injective (by omega) (by omega) (List.cons_eq_cons.mp hlow).1
  apply UInt8.toNat_inj.mp
  omega

theorem hex_injective : Function.Injective hex := by
  intro bytes others h
  exact framed_hexByte.flatMap_injective (fun _ _ => List.cons_ne_nil _ _) (fun _ _ => trivial)
    (fun _ _ => trivial)
    (String.ofList_injective h)

theorem length_hex (bytes : List UInt8) : (hex bytes).toList.length = 2 * bytes.length := by
  rw [hex, String.toList_ofList, List.length_flatMap]
  induction bytes with
  | nil => rfl
  | cons byte bytes ih =>
      rw [List.map_cons, List.sum_cons, ih, List.length_cons, Nat.mul_succ, Nat.add_comm]
      rfl

end Foundation

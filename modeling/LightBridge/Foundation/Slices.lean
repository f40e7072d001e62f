import Mathlib.Data.List.Basic

/-! Slices of flat lists, overwriting a slice, and the addresses of rows of a
fixed width. -/
namespace Foundation
variable {α : Type}

/-- `xs[start..start + count]`. -/
def slice (xs : List α) (start count : Nat) : List α := (xs.drop start).take count

/-- `xs[start..start + row.len()].copy_from_slice(row)`. -/
def overwrite (xs : List α) (start : Nat) (row : List α) : List α :=
  xs.take start ++ row ++ xs.drop (start + row.length)

/-- A buffer that is overwritten as a whole. -/
theorem zipWith_overwrite {β γ : Type} (f : β → γ) {xs : List α} {ys : List β}
    (h : xs.length = ys.length) :
    xs.zipWith (fun _ y => f y) ys = ys.map f := by
  induction xs generalizing ys with
  | nil => rw [List.eq_nil_of_length_eq_zero h.symm]; rfl
  | cons x xs ih =>
      cases ys with
      | nil => cases h
      | cons y ys => rw [List.zipWith_cons_cons, ih (Nat.succ.inj h), List.map_cons]

theorem length_slice {xs : List α} {start count : Nat} (h : start + count ≤ xs.length) :
    (slice xs start count).length = count := by
  simp only [slice, List.length_take, List.length_drop]
  omega

theorem length_overwrite {xs : List α} {start : Nat} {row : List α}
    (h : start + row.length ≤ xs.length) : (overwrite xs start row).length = xs.length := by
  simp only [overwrite, List.length_append, List.length_take, List.length_drop]
  omega

theorem getElem?_slice (xs : List α) (start count i : Nat) :
    (slice xs start count)[i]? = if i < count then xs[start + i]? else none := by
  simp only [slice, List.getElem?_take, List.getElem?_drop]

theorem getElem?_overwrite {xs : List α} {start : Nat} {row : List α}
    (h : start + row.length ≤ xs.length) (i : Nat) :
    (overwrite xs start row)[i]? =
      if start ≤ i ∧ i < start + row.length then row[i - start]? else xs[i]? := by
  have htake : (xs.take start).length = start := by simp only [List.length_take]; omega
  simp only [overwrite, List.append_assoc]
  rcases Nat.lt_or_ge i start with hi | hi
  · rw [List.getElem?_append_left (by omega), List.getElem?_take, if_pos hi, if_neg (by omega)]
  · rw [List.getElem?_append_right (by omega), htake]
    by_cases hrow : i < start + row.length
    · rw [List.getElem?_append_left (by omega), if_pos ⟨hi, hrow⟩]
    · rw [List.getElem?_append_right (by omega), List.getElem?_drop, if_neg (by omega)]
      congr 1
      omega

theorem slice_overwrite_same {xs : List α} {start : Nat} {row : List α}
    (h : start + row.length ≤ xs.length) :
    slice (overwrite xs start row) start row.length = row := by
  apply List.ext_getElem?
  intro i
  rw [getElem?_slice, getElem?_overwrite h]
  by_cases hi : i < row.length
  · rw [if_pos hi, if_pos (by omega), Nat.add_sub_cancel_left]
  · rw [if_neg hi, List.getElem?_eq_none (by omega)]

theorem slice_overwrite_disjoint {xs : List α} {start : Nat} {row : List α} {first count : Nat}
    (h : start + row.length ≤ xs.length)
    (apart : first + count ≤ start ∨ start + row.length ≤ first) :
    slice (overwrite xs start row) first count = slice xs first count := by
  apply List.ext_getElem?
  intro i
  rw [getElem?_slice, getElem?_slice, getElem?_overwrite h]
  by_cases hi : i < count
  · rw [if_pos hi, if_pos hi, if_neg (by omega)]
  · rw [if_neg hi, if_neg hi]

theorem slice_drop (xs : List α) (n start length : Nat) :
    slice (xs.drop n) start length = slice xs (n + start) length := by
  unfold slice
  rw [List.drop_drop]

/-- Two slices, one behind the other. -/
theorem slice_add (xs : List α) (start first second : Nat) :
    slice xs start (first + second) = slice xs start first ++ slice xs (start + first) second := by
  rw [slice, List.take_add, slice, slice, List.drop_drop]

/-- A list goes on with two lists where it goes on with the second behind the first. -/
theorem append_prefix_drop_iff {xs ys zs : List α} {n : Nat} :
    xs ++ ys <+: zs.drop n ↔ xs <+: zs.drop n ∧ ys <+: zs.drop (n + xs.length) := by
  rw [← List.drop_drop]
  constructor
  · rintro ⟨rest, hrest⟩
    rw [List.append_assoc] at hrest
    rw [← hrest, List.drop_left]
    exact ⟨List.prefix_append _ _, List.prefix_append _ _⟩
  · rintro ⟨⟨rest, hrest⟩, h⟩
    rw [← hrest, List.drop_left] at h
    rw [← hrest]
    exact (List.prefix_append_right_inj xs).mpr h

/-- Two slices at one place agree when the lists do there. -/
theorem slice_slice (xs : List α) (start count first width : Nat) (h : first + width ≤ count) :
    slice (slice xs start count) first width = slice xs (start + first) width := by
  apply List.ext_getElem?
  intro i
  simp only [getElem?_slice]
  by_cases hi : i < width
  · rw [if_pos hi, if_pos hi, if_pos (by omega), Nat.add_assoc]
  · rw [if_neg hi, if_neg hi]

theorem slice_append_left {xs : List α} {start count : Nat} (h : start + count ≤ xs.length)
    (ys : List α) : slice (xs ++ ys) start count = slice xs start count := by
  rw [slice, slice, List.drop_append_of_le_length (by omega),
    List.take_append_of_le_length (by rw [List.length_drop]; omega)]

theorem slice_append_right (xs ys : List α) : slice (xs ++ ys) xs.length ys.length = ys := by
  rw [slice, List.drop_left, List.take_length]

theorem slice_zero_length (xs : List α) : slice xs 0 xs.length = xs := by
  simp only [slice, List.drop_zero, List.take_length]

/-- Row `i` of a flattened table of rows of one width. -/
theorem slice_flatten {rows : List (List α)} {d i : Nat} (hd : ∀ row ∈ rows, row.length = d)
    (hi : i < rows.length) : slice rows.flatten (i * d) d = rows[i] := by
  induction rows generalizing i with
  | nil => exact absurd hi (Nat.not_lt_zero i)
  | cons row rows ih =>
      have hrow := hd row List.mem_cons_self
      have hrest := fun r hr => hd r (List.mem_cons_of_mem row hr)
      cases i with
      | zero =>
          simp only [slice, List.flatten_cons, Nat.zero_mul, List.drop_zero, List.getElem_cons_zero,
          ← hrow, List.take_left]
      | succ i =>
          have hlt : i < rows.length := Nat.lt_of_succ_lt_succ hi
          rw [List.getElem_cons_succ, ← ih hrest hlt, slice, slice, List.flatten_cons, Nat.succ_mul,
            Nat.add_comm, ← List.drop_drop, ← hrow, List.drop_left]

theorem length_flatten_of_forall {rows : List (List α)} {d : Nat}
    (hd : ∀ row ∈ rows, row.length = d) :
    rows.flatten.length = rows.length * d := by
  induction rows with
  | nil => simp
  | cons row rows ih =>
      rw [List.flatten_cons, List.length_append, hd row List.mem_cons_self,
        ih fun r hr => hd r (List.mem_cons_of_mem row hr), List.length_cons, Nat.succ_mul,
        Nat.add_comm]

/-- Writing the next element lengthens the part that is done. -/
theorem take_set_append {xs done : List α} {x : α} (h : xs.take done.length = done)
    (hlt : done.length < xs.length) :
    (xs.set done.length x).take (done ++ [x]).length = done ++ [x] := by
  have hlength : (done ++ [x]).length = done.length + 1 := List.length_append
  rw [hlength, List.take_add_one, List.take_set_of_le (Nat.le_refl _), h,
    List.getElem?_set_self hlt]
  rfl

/-- Rows of width `d` at different indices do not overlap. -/
theorem rows_disjoint {i j d : Nat} (h : i ≠ j) : i * d + d ≤ j * d ∨ j * d + d ≤ i * d := by
  rcases Nat.lt_or_gt_of_ne h with hlt | hgt
  · have hle := Nat.mul_le_mul_right d (Nat.succ_le_of_lt hlt)
    rw [Nat.succ_mul] at hle
    exact Or.inl hle
  · have hle := Nat.mul_le_mul_right d (Nat.succ_le_of_lt hgt)
    rw [Nat.succ_mul] at hle
    exact Or.inr hle

/-- Row `i < n` of width `d` lies inside `n * d` elements. -/
theorem row_end_le {i n d : Nat} (h : i < n) : i * d + d ≤ n * d := by
  have hle := Nat.mul_le_mul_right d (Nat.succ_le_of_lt h)
  rwa [Nat.succ_mul] at hle

/-- A row-major index determines its coordinates. -/
theorem rowMajor_inj {i j w a b : Nat} (ha : a < w) (hb : b < w) (h : i * w + a = j * w + b) :
    i = j ∧ a = b := by
  have hw : 0 < w := Nat.lt_of_le_of_lt (Nat.zero_le a) ha
  have hdiv := congrArg (· / w) h
  have hmod := congrArg (· % w) h
  simp only [Nat.mul_comm _ w, Nat.mul_add_div hw, Nat.div_eq_of_lt ha, Nat.div_eq_of_lt hb,
    Nat.add_zero, Nat.mul_add_mod, Nat.mod_eq_of_lt ha, Nat.mod_eq_of_lt hb] at hdiv hmod
  exact ⟨hdiv, hmod⟩

theorem rowMajor_lt {i n w a : Nat} (hi : i < n) (ha : a < w) : i * w + a < n * w := by
  have := row_end_le (d := w) hi
  omega

end Foundation

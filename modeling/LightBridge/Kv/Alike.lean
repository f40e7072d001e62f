import LightBridge.Foundation.Ends
import LightBridge.Kv.Trace

/-! Caches with the same committed tokens. Callers cannot tell them apart by reading, nor by
appending a token while the allocator grants every request, whatever pages either holds. -/
namespace LightBridge.Kv
open Foundation
namespace PagedKvCache

structure Alike (c d : PagedKvCache) : Prop where
  left : c.WellFormed
  right : d.WellFormed
  config : d.toKvConfig = c.toKvConfig
  view : d.view = c.view

theorem Alike.refl {c : PagedKvCache} (h : c.WellFormed) : Alike c c := ⟨h, h, rfl, rfl⟩

theorem Alike.storedLength {c d : PagedKvCache} (h : Alike c d) (layer : Nat) :
    d.storedLength layer = c.storedLength layer := by
  rw [← length_view, h.view, length_view]

theorem Alike.storedTokens {c d : PagedKvCache} (h : Alike c d) (layer : Nat) :
    d.storedTokens layer = c.storedTokens layer := by
  simp only [PagedKvCache.storedTokens, validateLayer, h.config, h.storedLength]

/-- Every read is answered alike. -/
theorem Alike.readRow {c d : PagedKvCache} (h : Alike c d) (side : Lane) (layer token head : Nat) :
    d.readRow side layer token head = c.readRow side layer token head := by
  have hcheck : d.validateIndices layer token head = c.validateIndices layer token head := by
    simp only [validateIndices, validateLayer, h.config, h.storedLength]
  rcases h.left.readRow side layer token head with ⟨hr, hok⟩ | ⟨hr, -⟩
  · have hr' : d.Readable d.view layer token head := by rw [h.config, h.view]; exact hr
    rw [hok, ((h.right.readRow side layer token head).resolve_right fun hn => hn.1 hr').2, h.view]
  · rw [readRow_eq, readRow_eq, hcheck]
    cases hv : c.validateIndices layer token head with
    | ok u => exact absurd (validateIndices_eq_ok.mp hv) hr
    | error e => rfl

/-! ### Appending one token -/

/-- `ensure_pages` for one token needs one page at most. -/
theorem ensurePages_one (c : PagedKvCache) (layer start : Nat) :
    (ensurePages (fun _ => true) layer start (start + 1) c).1 =
      if (c.pageAt layer (start / c.pageTokens)).isSome then .ok ()
      else (KvPage.new true true c.toKvConfig).map fun _ => () := by
  have hmissing : c.missingPages layer (start / c.pageTokens) ((start + 1 - 1) / c.pageTokens) =
      if (c.pageAt layer (start / c.pageTokens)).isSome then [] else [start / c.pageTokens] := by
    rw [Nat.add_sub_cancel, missingPages, Nat.add_sub_cancel_left]
    cases hpage : c.pageAt layer (start / c.pageTokens) <;> simp [hpage]
  simp only [ensurePages, hmissing]
  cases hpage : c.pageAt layer (start / c.pageTokens) with
  | some page => simp
  | none =>
      have hreserve : tryReserve true 56 1 = true := rfl
      cases KvPage.new true true c.toKvConfig <;> simp [hreserve, Except.map]

theorem Alike.ensurePages {c d : PagedKvCache} (h : Alike c d) (layer start : Nat) :
    (PagedKvCache.ensurePages (fun _ => true) layer start (start + 1) d).1 =
      (PagedKvCache.ensurePages (fun _ => true) layer start (start + 1) c).1 := by
  rw [ensurePages_one, ensurePages_one, h.config]
  cases hnew : KvPage.new true true c.toKvConfig with
  | ok page => simp [Except.map]
  | error e =>
      -- a page that cannot be built is in neither cache
      have hnone : ∀ b : PagedKvCache, b.WellFormed → b.toKvConfig = c.toKvConfig → ∀ index,
          b.pageAt layer index = none := by
        intro b hb hconfig index
        cases hpage : b.pageAt layer index with
        | none => rfl
        | some page =>
            obtain ⟨built, hbuilt⟩ := KvPage.new_granted hb.width_pos
              fun side => hb.shaped.fits side layer index page hpage
            rw [hconfig, hnew] at hbuilt
            cases hbuilt
      rw [hnone c h.left rfl, hnone d h.right h.config]

/-- A token that may be appended is, where every request is granted and a page is not too large. -/
theorem WellFormed.append_granted {c : PagedKvCache} (h : c.WellFormed)
    (fits : ∀ side, 4 * c.storage side ≤ isizeMax) {layer : Nat} {key value : List F32}
    (admissible : c.Admissible c.view layer 1 key value) :
    ∃ c', PagedKvCache.append (fun _ => true) layer key value c =
      (.ok (c.view layer).length, c') ∧ Appended c c' layer 1 key value := by
  rcases h.append (fun _ => true) layer key value with happended | ⟨e, hrun, -, -⟩
  · exact happended
  · have hcheck : c.checkAppend layer 1 key value = .ok (c.storedLength layer + 1) :=
      h.checkAppend_eq_ok.mpr ⟨admissible, rfl⟩
    obtain ⟨page, hpage⟩ := KvPage.new_granted h.width_pos fits
    have hpages := ensurePages_one c layer (c.storedLength layer)
    rw [hpage, Except.map, ite_self] at hpages
    obtain ⟨c', happend, -⟩ := h.appendTokens_ok hcheck (Prod.ext hpages rfl)
    rw [PagedKvCache.append, Command.bind_of_ok happend,
      Command.bind_of_ok (Command.read_run c'), Command.pure_run] at hrun
    cases hrun

/-- Appending one token answers alike and leaves the caches alike. -/
theorem Alike.appendToken {c d : PagedKvCache} (h : Alike c d) (layer : Nat)
    (keys values : List F32) :
    Command.Paired (fun _ => Alike) Alike (appendTokens (fun _ => true) layer 1 keys values c)
      (appendTokens (fun _ => true) layer 1 keys values d) := by
  have hcheck : d.checkAppend layer 1 keys values = c.checkAppend layer 1 keys values := by
    simp only [checkAppend, validateLayer, h.config, h.storedLength]
  cases hc : c.checkAppend layer 1 keys values with
  | error e =>
      rw [appendTokens_error (Or.inl hc), appendTokens_error (Or.inl (hcheck.trans hc))]
      exact .failed e c d h
  | ok newLength =>
      obtain ⟨-, hlength⟩ := h.left.checkAppend_eq_ok.mp hc
      have hpages := h.ensurePages layer (c.storedLength layer)
      rw [← hlength, ← h.storedLength] at hpages
      rcases hleft : PagedKvCache.ensurePages (fun _ => true) layer
        (c.storedLength layer) newLength c with ⟨r, c₁⟩
      rcases hright : PagedKvCache.ensurePages (fun _ => true) layer
        (d.storedLength layer) newLength d with ⟨r', d₁⟩
      rw [← h.storedLength] at hleft
      rw [hleft, hright] at hpages
      dsimp only at hpages
      subst hpages
      rw [h.storedLength] at hleft
      cases r' with
      | error e =>
          rw [appendTokens_error (Or.inr ⟨newLength, hc, by rw [hleft]⟩),
            appendTokens_error (Or.inr ⟨newLength, hcheck.trans hc, by rw [hright]⟩)]
          exact .failed e c d h
      | ok u =>
          obtain ⟨c', hrun, happ⟩ := h.left.appendTokens_ok hc hleft
          obtain ⟨d', hrun', happ'⟩ := h.right.appendTokens_ok (hcheck.trans hc) hright
          rw [hrun, hrun']
          refine .answered () c' d' ⟨happ.wellFormed, happ'.wellFormed, ?_, ?_⟩
          · rw [happ'.config, h.config, happ.config]
          · rw [happ'.view, happ.view, h.view, h.config]

end PagedKvCache
end LightBridge.Kv

import LightBridge.Kv.Paging

/-! Page allocation: what `KvPage::new`, the constructors and `ensure_pages` leave
behind when they answer and when the allocator refuses. -/
namespace LightBridge.Kv
open Foundation

theorem zeroedVec_eq_ok {α : Type} {granted : Bool} {size : Nat} {zero : α} {elements : Nat}
    {field : String} {xs : List α} :
    zeroedVec granted size zero elements field = .ok xs ↔
      tryReserve granted size elements = true ∧ xs = List.replicate elements zero := by
  unfold zeroedVec
  by_cases h : tryReserve granted size elements = true <;> simp [h, eq_comm]

theorem zeroedVec_error {α : Type} {granted : Bool} {size : Nat} {zero : α} {elements : Nat}
    {field : String} {e : KvError} (h : zeroedVec granted size zero elements field = .error e) :
    e = .allocationFailed field elements := by
  unfold zeroedVec at h
  split at h
  · cases h
  · cases h; rfl

/-- The storage of a page, counted as `KvPage::new` counts it. -/
def KvConfig.storage (config : KvConfig) (side : Lane) : Nat :=
  config.pageTokens * config.kvHeadCount * config.width side

theorem checkedStorage_eq_some {a b c n : Nat} :
    (checkedMul a b).bind (checkedMul · c) = some n ↔
      a * b ≤ usizeMax ∧ a * b * c ≤ usizeMax ∧ n = a * b * c := by
  simp only [Option.bind_eq_some_iff, checkedMul_eq_some]
  constructor
  · rintro ⟨_, ⟨h, rfl⟩, h', rfl⟩
    exact ⟨h, h', rfl⟩
  · rintro ⟨h, h', rfl⟩
    exact ⟨a * b, ⟨h, rfl⟩, h', rfl⟩

namespace KvPage

/-- A new page has its full storage, of a size that can be allocated. -/
theorem new_ok {keysGranted valuesGranted : Bool} {config : KvConfig} {page : KvPage}
    (h : KvPage.new keysGranted valuesGranted config = .ok page) (side : Lane) :
    (page.lane side).length = config.storage side ∧ 4 * config.storage side ≤ isizeMax := by
  simp only [KvPage.new, except_bind_ok_iff, okOr_eq_ok, checkedStorage_eq_some,
    zeroedVec_eq_ok] at h
  obtain ⟨_, ⟨-, -, rfl⟩, _, ⟨-, -, rfl⟩, _, ⟨hk, rfl⟩, _, ⟨hv, rfl⟩, hp⟩ := h
  cases hp
  cases side with
  | key => exact ⟨List.length_replicate, (tryReserve_eq_true.mp hk).2⟩
  | value => exact ⟨List.length_replicate, (tryReserve_eq_true.mp hv).2⟩

/-- A page whose storage is counted without overflow fails only in the allocator. -/
theorem new_error {keysGranted valuesGranted : Bool} {config : KvConfig} {e : KvError}
    (h : KvPage.new keysGranted valuesGranted config = .error e) :
    (∃ field n, e = .allocationFailed field n) ∨ e = .arithmeticOverflow "key page storage" ∨
      e = .arithmeticOverflow "value page storage" := by
  simp only [KvPage.new, except_bind_error_iff, okOr_eq_error] at h
  rcases h with ⟨-, rfl⟩ | ⟨_, -, ⟨-, rfl⟩ | ⟨_, -, h | ⟨_, -, h | ⟨_, -, h⟩⟩⟩⟩
  · exact Or.inr (Or.inl rfl)
  · exact Or.inr (Or.inr rfl)
  · exact Or.inl ⟨_, _, zeroedVec_error h⟩
  · exact Or.inl ⟨_, _, zeroedVec_error h⟩
  · cases h

theorem new_error_ne {keysGranted valuesGranted : Bool} {config : KvConfig} {e : KvError}
    (h : KvPage.new keysGranted valuesGranted config = .error e) :
    e ≠ PagedKvCache.missingPage := by
  rcases new_error h with ⟨_, _, rfl⟩ | rfl | rfl <;> simp [PagedKvCache.missingPage]

/-- Storage that fits leaves only allocation failures. -/
theorem new_error_of_fits {keysGranted valuesGranted : Bool} {config : KvConfig} {e : KvError}
    (fits : ∀ side, config.storage side ≤ usizeMax) (hpos : ∀ side, 0 < config.width side)
    (h : KvPage.new keysGranted valuesGranted config = .error e) :
    ∃ field n, e = .allocationFailed field n := by
  have hrows : config.pageTokens * config.kvHeadCount ≤ usizeMax :=
    Nat.le_trans (Nat.le_mul_of_pos_right _ (hpos .key)) (fits .key)
  have hk : (checkedMul config.pageTokens config.kvHeadCount).bind
      (checkedMul · config.keyDimension) =
      some (config.storage .key) := checkedStorage_eq_some.mpr ⟨hrows, fits .key, rfl⟩
  have hv : (checkedMul config.pageTokens config.kvHeadCount).bind
      (checkedMul · config.valueDimension) =
      some (config.storage .value) := checkedStorage_eq_some.mpr ⟨hrows, fits .value, rfl⟩
  simp only [KvPage.new, hk, hv, okOr, except_bind_error_iff] at h
  rcases h with h | ⟨_, -, h | ⟨_, -, h | ⟨_, -, h | ⟨_, -, h⟩⟩⟩⟩
  · cases h
  · cases h
  · exact ⟨_, _, zeroedVec_error h⟩
  · exact ⟨_, _, zeroedVec_error h⟩
  · cases h

/-- Storage that can be allocated is, when every request is granted. -/
theorem new_granted {config : KvConfig} (hpos : ∀ side, 0 < config.width side)
    (fits : ∀ side, 4 * config.storage side ≤ isizeMax) :
    ∃ page, KvPage.new true true config = .ok page := by
  cases h : KvPage.new true true config with
  | ok page => exact ⟨page, rfl⟩
  | error e =>
      have hcount : ∀ side, config.storage side ≤ usizeMax := by
        intro side
        have := fits side
        simp only [isizeMax, usizeMax] at *
        omega
      have hrows : config.pageTokens * config.kvHeadCount ≤ usizeMax :=
        Nat.le_trans (Nat.le_mul_of_pos_right _ (hpos .key)) (hcount .key)
      have hk : (checkedMul config.pageTokens config.kvHeadCount).bind
          (checkedMul · config.keyDimension) =
          some (config.storage .key) := checkedStorage_eq_some.mpr ⟨hrows, hcount .key, rfl⟩
      have hv : (checkedMul config.pageTokens config.kvHeadCount).bind
          (checkedMul · config.valueDimension) =
          some (config.storage .value) := checkedStorage_eq_some.mpr ⟨hrows, hcount .value, rfl⟩
      have hreserve : ∀ side, tryReserve true 4 (config.storage side) = true := fun side =>
        tryReserve_eq_true.mpr ⟨rfl, fits side⟩
      simp only [KvPage.new, hk, hv, okOr, zeroedVec, hreserve, if_true, except_ok_bind] at h
      cases h

end KvPage

namespace PagedKvCache

/-- Installing sized pages of one layer keeps the shape and touches no other slot. -/
theorem Shaped.install {c : PagedKvCache} (h : Shaped c) {layer : Nat} (hl : layer < c.layerCount)
    (entries : List (Nat × KvPage)) (hi : ∀ entry ∈ entries, entry.1 < c.pageCount)
    (hs : ∀ entry ∈ entries, ∀ side, (entry.2.lane side).length = c.storage side ∧
      4 * c.storage side ≤ isizeMax) :
    let c' := entries.foldl (fun c entry => c.setPage layer entry.1 entry.2) c
    Shaped c' ∧ Frame c c' ∧ (∀ entry ∈ entries, (c'.pageAt layer entry.1).isSome) ∧
      ∀ l i, ¬ (l = layer ∧ i ∈ entries.map Prod.fst) → c'.pageAt l i = c.pageAt l i := by
  induction entries generalizing c with
  | nil => exact ⟨h, Frame.refl c, by simp, fun _ _ _ => rfl⟩
  | cons entry entries ih =>
      have hix := hi entry List.mem_cons_self
      have hsz := hs entry List.mem_cons_self
      have hone := h.setPage hl hix entry.2 (fun side => (hsz side).1) fun side => (hsz side).2
      have hframe := h.frame_setPage hl hix entry.2
      obtain ⟨hshape, hframe', hsome, hkept⟩ := ih hone hl
        (fun e he => hi e (List.mem_cons_of_mem _ he))
          (fun e he => hs e (List.mem_cons_of_mem _ he))
      have hat := h.pageAt_setPage hl hix entry.2
      refine ⟨hshape, hframe.trans hframe', ?_, ?_⟩
      · intro e he
        rcases List.mem_cons.mp he with rfl | he
        · exact hframe'.present _ _ (by rw [hat, if_pos ⟨rfl, rfl⟩]; rfl)
        · exact hsome e he
      · intro l i hli
        rw [List.map_cons, List.mem_cons] at hli
        rw [List.foldl_cons, hkept l i fun e => hli ⟨e.1, Or.inr e.2⟩, hat,
          if_neg fun e => hli ⟨e.1, Or.inl e.2⟩]

theorem mem_missingPages {c : PagedKvCache} {layer first last index : Nat} :
    index ∈ c.missingPages layer first last ↔
      first ≤ index ∧ index ≤ last ∧ c.pageAt layer index = none := by
  simp only [missingPages, List.mem_filter, List.mem_range'_1, Option.isNone_iff_eq_none]
  constructor
  · rintro ⟨⟨h1, h2⟩, h3⟩
    exact ⟨h1, by omega, h3⟩
  · rintro ⟨h1, h2, h3⟩
    exact ⟨⟨h1, by omega⟩, h3⟩

/-- What `ensure_pages` guarantees when it answers: the range is backed, and no page
that was there has changed. -/
structure Backed (c c' : PagedKvCache) (layer start stop : Nat) : Prop where
  shaped : Shaped c'
  frame : Frame c c'
  backed : ∀ token, start ≤ token → token < stop → (c'.pageAt layer (token / c.pageTokens)).isSome
  kept : ∀ l i page, c.pageAt l i = some page → c'.pageAt l i = some page

/-- Pages built for the missing indices, in order. -/
theorem newPages_ok {alloc : Allocator} {config : KvConfig} {missing : List Nat}
    {allocated : List (Nat × KvPage)}
    (h : missing.mapM (fun index => Prod.mk index <$>
      KvPage.new (alloc (.pageKeys index)) (alloc (.pageValues index)) config) = .ok allocated) :
    allocated.map Prod.fst = missing ∧ ∀ entry ∈ allocated, ∀ side,
      (entry.2.lane side).length = config.storage side ∧ 4 * config.storage side ≤ isizeMax := by
  have hall := except_mapM_ok_iff.mp h
  clear h
  induction hall with
  | nil => exact ⟨rfl, by simp⟩
  | cons hx hxs ih =>
      obtain ⟨page, hpage, rfl⟩ := except_map_ok_iff.mp hx
      refine ⟨by rw [List.map_cons, ih.1], fun entry he => ?_⟩
      rcases List.mem_cons.mp he with rfl | he
      · exact KvPage.new_ok hpage
      · exact ih.2 entry he

theorem newPages_error {alloc : Allocator} {config : KvConfig} {missing : List Nat} {e : KvError}
    (h : missing.mapM (fun index => Prod.mk index <$>
      KvPage.new (alloc (.pageKeys index)) (alloc (.pageValues index)) config) = .error e) :
    ∃ keysGranted valuesGranted, KvPage.new keysGranted valuesGranted config = .error e := by
  induction missing with
  | nil => cases h
  | cons index missing ih =>
      rw [List.mapM_cons, except_bind_error_iff] at h
      rcases h with h | ⟨_, -, h⟩
      · cases hp : KvPage.new (alloc (.pageKeys index)) (alloc (.pageValues index)) config with
        | ok page => rw [hp] at h; cases h
        | error e' => rw [hp] at h; cases h; exact ⟨_, _, hp⟩
      · rcases except_bind_error_iff.mp h with h | ⟨_, -, h⟩
        · exact ih h
        · cases h

theorem Shaped.ensurePages_ok {c c' : PagedKvCache} (h : Shaped c) {alloc : Allocator}
    {layer start stop : Nat} (hl : layer < c.layerCount)
    (hfit : (stop - 1) / c.pageTokens < c.pageCount)
    (hrun : ensurePages alloc layer start stop c = (.ok (), c')) :
    Backed c c' layer start stop := by
  have hrange : ∀ token, start ≤ token → token < stop →
      start / c.pageTokens ≤ token / c.pageTokens ∧
        token / c.pageTokens ≤ (stop - 1) / c.pageTokens := fun token h1 h2 =>
    ⟨Nat.div_le_div_right h1, Nat.div_le_div_right (by omega)⟩
  simp only [ensurePages] at hrun
  split at hrun
  · rename_i hnone
    cases hrun
    refine ⟨h, Frame.refl c, fun token h1 h2 => ?_, fun _ _ _ hp => hp⟩
    cases hp : c.pageAt layer (token / c.pageTokens) with
    | some page => rfl
    | none =>
        have hmem := mem_missingPages.mpr ⟨(hrange token h1 h2).1, (hrange token h1 h2).2, hp⟩
        rw [List.length_eq_zero_iff.mp hnone] at hmem
        cases hmem
  · split at hrun
    · split at hrun
      · rename_i allocated hnew
        cases hrun
        obtain ⟨hfst, hsized⟩ := newPages_ok hnew
        have hix : ∀ entry ∈ allocated, c.pageAt layer entry.1 = none ∧ entry.1 < c.pageCount := by
          intro entry he
          have hmem : entry.1 ∈ c.missingPages layer (start / c.pageTokens)
              ((stop - 1) / c.pageTokens) := by
            rw [← hfst]; exact List.mem_map_of_mem he
          obtain ⟨-, hle, hnone⟩ := mem_missingPages.mp hmem
          exact ⟨hnone, by omega⟩
        obtain ⟨hshape, hframe, hsome, hkept⟩ :=
          h.install hl allocated (fun e he => (hix e he).2) hsized
        refine ⟨hshape, hframe, fun token h1 h2 => ?_, fun l i page hp => ?_⟩
        · cases hp : c.pageAt layer (token / c.pageTokens) with
          | some page => exact hframe.present _ _ (by rw [hp]; rfl)
          | none =>
              have hmem := mem_missingPages.mpr ⟨(hrange token h1 h2).1, (hrange token h1 h2).2, hp⟩
              rw [← hfst] at hmem
              obtain ⟨entry, he, heq⟩ := List.mem_map.mp hmem
              rw [← heq]
              exact hsome entry he
        · rw [hkept l i fun e => ?_, hp]
          obtain ⟨rfl, hmem⟩ := e
          obtain ⟨entry, he, rfl⟩ := List.mem_map.mp hmem
          rw [(hix entry he).1] at hp
          cases hp
      · cases hrun
    · cases hrun

/-- A refused page leaves the cache as it was, and is never reported as a missing page. -/
theorem ensurePages_error {c c' : PagedKvCache} {alloc : Allocator} {layer start stop : Nat}
    {e : KvError} (hrun : ensurePages alloc layer start stop c = (.error e, c')) :
    c' = c ∧ ((∃ field n, e = .allocationFailed field n) ∨
      ∃ keysGranted valuesGranted, KvPage.new keysGranted valuesGranted c.toKvConfig =
      .error e) := by
  simp only [ensurePages] at hrun
  split at hrun
  · cases hrun
  · split at hrun
    · split at hrun
      · cases hrun
      · rename_i hnew
        cases hrun
        exact ⟨rfl, Or.inr (newPages_error hnew)⟩
    · cases hrun
      exact ⟨rfl, Or.inl ⟨_, _, rfl⟩⟩

end PagedKvCache
end LightBridge.Kv

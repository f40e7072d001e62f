import LightBridge.Tokenizer.Assistant

/-! `TextStopFilter`: text is let through up to the first stop sequence, and an end that may
become one is held back. Chunk by chunk it lets through what one cut of the whole text does. -/
namespace LightBridge.Runtime
open Foundation Tokenizer

/-- `truncate_at_first_stop`. -/
def truncateAtFirstStop (text : Text) (stopSequences : List Text) : Text := cutAt stopSequences text

structure TextStopFilter where
  stopSequences : List Text
  pending : Text
  deriving DecidableEq, Repr

structure TextStopUpdate where
  text : Text
  stopped : Bool
  deriving DecidableEq, Repr

namespace TextStopFilter

def new (stopSequences : List Text) : TextStopFilter := { stopSequences, pending := [] }

def push (chunk : Text) (filter : TextStopFilter) : TextStopUpdate × TextStopFilter :=
  let pending := filter.pending ++ chunk
  match findAny filter.stopSequences pending with
  | some stopAt => ({ text := pending.take stopAt, stopped := true }, { filter with pending := [] })
  | none =>
      let emitLength := pending.length - held filter.stopSequences pending
      ({ text := pending.take emitLength, stopped := false },
        { filter with pending := pending.drop emitLength })

def finish (filter : TextStopFilter) : Text × TextStopFilter :=
  (filter.pending, { filter with pending := [] })

theorem push_stopSequences (filter : TextStopFilter) {chunk : Text} {update : TextStopUpdate}
    {filter' : TextStopFilter}
    (h : push chunk filter = (update, filter')) : filter'.stopSequences = filter.stopSequences := by
  unfold push at h
  dsimp only at h
  split at h <;> cases h <;> rfl

/-- The filter has seen a text without a stop sequence and let through all of it that no
later chunk can make part of one. -/
structure Passed (filter : TextStopFilter) (seen visible : Text) : Prop where
  split : visible ++ filter.pending = seen
  unstopped : findAny filter.stopSequences seen = none
  clear : ∀ more start, start < visible.length →
    ¬ BeginsAt filter.stopSequences (seen ++ more) start

theorem findAny_nil_of_nonempty {stopSequences : List Text}
    (nonempty : ∀ stop ∈ stopSequences, stop ≠ []) :
    findAny stopSequences [] = none := by
  apply findAny_eq_none_iff.mpr
  rintro start - ⟨stop, hmem, hpre⟩
  rw [List.drop_nil, List.prefix_nil] at hpre
  exact nonempty stop hmem hpre

theorem Passed.new {stopSequences : List Text} (nonempty : ∀ stop ∈ stopSequences, stop ≠ []) :
    Passed (new stopSequences) [] [] :=
  ⟨rfl, findAny_nil_of_nonempty nonempty, fun _ _ h => absurd h (Nat.not_lt_zero _)⟩

/-- A chunk with which the text has a stop sequence lets through the rest before it. -/
theorem Passed.push_stopped {filter filter' : TextStopFilter} {seen visible chunk : Text}
    {update : TextStopUpdate} (h : Passed filter seen visible)
    (hpush : push chunk filter = (update, filter')) (hstopped : update.stopped = true) :
    findAny filter.stopSequences (seen ++ chunk) ≠ none ∧
      visible ++ update.text = truncateAtFirstStop (seen ++ chunk) filter.stopSequences := by
  have hclear := h.clear chunk
  rw [← h.split, List.append_assoc] at hclear ⊢
  unfold push at hpush
  dsimp only at hpush
  cases hfind : findAny filter.stopSequences (filter.pending ++ chunk) with
  | none =>
      rw [hfind] at hpush
      cases hpush
      cases hstopped
  | some stopAt =>
      rw [hfind] at hpush
      cases hpush
      constructor
      · rw [findAny_append hclear, hfind]
        exact nofun
      · rw [truncateAtFirstStop, cutAt_append hclear, cutAt, hfind]
        rfl

/-- Any other chunk is let through but for the end that is held back. -/
theorem Passed.push_passed {filter filter' : TextStopFilter} {seen visible chunk : Text}
    {update : TextStopUpdate} (h : Passed filter seen visible)
    (hpush : push chunk filter = (update, filter')) (hstopped : update.stopped = false) :
    Passed filter' (seen ++ chunk) (visible ++ update.text) ∧
      filter'.stopSequences = filter.stopSequences := by
  have hclear := h.clear chunk
  rw [← h.split, List.append_assoc] at hclear ⊢
  unfold push at hpush
  dsimp only at hpush
  cases hfind : findAny filter.stopSequences (filter.pending ++ chunk) with
  | some stopAt =>
      rw [hfind] at hpush
      cases hpush
      cases hstopped
  | none =>
      rw [hfind] at hpush
      cases hpush
      refine ⟨⟨?_, ?_, ?_⟩, rfl⟩
      · rw [List.append_assoc, List.take_append_drop]
      · change findAny filter.stopSequences _ = none
        rw [findAny_append hclear, hfind]
        rfl
      · intro more start hstart
        change ¬ BeginsAt filter.stopSequences _ _
        by_cases hvisible : start < visible.length
        · have hlater := h.clear (chunk ++ more) start hvisible
          rw [← h.split] at hlater
          simpa only [List.append_assoc] using hlater
        · obtain ⟨inner, rfl⟩ := Nat.exists_eq_add_of_le (Nat.le_of_not_lt hvisible)
          change visible.length + inner < (visible ++ _).length at hstart
          rw [List.length_append, List.length_take] at hstart
          have hfree : ¬ BeginsAt filter.stopSequences (filter.pending ++ chunk ++ more) inner :=
            not_beginsAt_of_lt_held hfind more (by omega)
          unfold BeginsAt at hfree ⊢
          rwa [List.append_assoc visible, ← List.drop_drop, List.drop_left]

/-- At the end of the text the held end is let through too. -/
theorem Passed.finish {filter : TextStopFilter} {seen visible : Text}
    (h : Passed filter seen visible) :
    visible ++ filter.finish.1 = truncateAtFirstStop seen filter.stopSequences := by
  rw [truncateAtFirstStop, cutAt_of_none h.unstopped]
  exact h.split

end TextStopFilter
end LightBridge.Runtime

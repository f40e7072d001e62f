import LightBridge.Runtime.StopBytes

/-! A filter pushed chunk after chunk until it stops or the chunks are at an end. It lets through
the text cut at its first stop sequence, and where no stop sequence lies inside another the
chunks do not matter. -/
namespace LightBridge.Runtime
open Foundation Tokenizer

/-- The chunks a filter was pushed, what it let through of them and whether it stopped. -/
structure Filtered (β : Type) where
  pushed : List Text
  emitted : List (List β)
  stopped : Bool
  deriving DecidableEq, Repr

namespace TextStopFilter

def run (filter : TextStopFilter) : List Text → Filtered Char
  | [] => { pushed := [], emitted := [filter.finish.1], stopped := false }
  | chunk :: chunks =>
      let (update, filter) := filter.push chunk
      if update.stopped then { pushed := [chunk], emitted := [update.text], stopped := true }
      else
        let later := run filter chunks
        { pushed := chunk :: later.pushed, emitted := update.text :: later.emitted,
          stopped := later.stopped }

/-- The text let through is the text pushed up to its first stop sequence. -/
theorem Passed.run {filter : TextStopFilter} {seen visible : Text} (h : Passed filter seen visible)
    (chunks : List Text) :
    visible ++ (filter.run chunks).emitted.flatten =
        truncateAtFirstStop (seen ++ (filter.run chunks).pushed.flatten) filter.stopSequences ∧
      ((filter.run chunks).stopped = true ↔
        findAny filter.stopSequences (seen ++ (filter.run chunks).pushed.flatten) ≠ none) := by
  induction chunks generalizing filter seen visible with
  | nil =>
      change visible ++ (filter.finish.1 ++ []) = truncateAtFirstStop (seen ++ []) _ ∧
        (false = true ↔ findAny _ (seen ++ []) ≠ none)
      rw [List.append_nil, List.append_nil]
      exact ⟨h.finish, ⟨nofun, fun hstopped => absurd h.unstopped hstopped⟩⟩
  | cons chunk chunks ih =>
      rcases hpush : filter.push chunk with ⟨update, filter'⟩
      unfold TextStopFilter.run
      rw [hpush]
      dsimp only
      cases hstopped : update.stopped with
      | true =>
          obtain ⟨hfound, htext⟩ := h.push_stopped hpush hstopped
          rw [if_pos rfl, List.flatten_singleton, List.flatten_singleton]
          exact ⟨htext, ⟨fun _ => hfound, fun _ => rfl⟩⟩
      | false =>
          obtain ⟨hpassed, hstops⟩ := h.push_passed hpush hstopped
          have hlater := ih hpassed
          rw [hstops] at hlater
          rw [if_neg Bool.false_ne_true, List.flatten_cons,
            List.flatten_cons, ← List.append_assoc, ← List.append_assoc]
          exact hlater

theorem run_pushed (filter : TextStopFilter) (chunks : List Text) :
    (filter.run chunks).pushed <+: chunks ∧
      ((filter.run chunks).stopped = false → (filter.run chunks).pushed = chunks) := by
  induction chunks generalizing filter with
  | nil => exact ⟨List.prefix_refl _, fun _ => rfl⟩
  | cons chunk chunks ih =>
      rcases hpush : filter.push chunk with ⟨update, filter'⟩
      unfold TextStopFilter.run
      rw [hpush]
      dsimp only
      cases update.stopped with
      | true =>
          rw [if_pos rfl]
          exact ⟨List.cons_prefix_cons.mpr ⟨rfl, List.nil_prefix⟩, nofun⟩
      | false =>
          rw [if_neg Bool.false_ne_true]
          exact ⟨List.cons_prefix_cons.mpr ⟨rfl, (ih filter').1⟩, fun h =>
            congrArg (chunk :: ·) ((ih filter').2 h)⟩

/-- Where no stop sequence lies inside another, the chunks after the one it stopped at make no
difference. -/
theorem Passed.run_whole {filter : TextStopFilter} {seen visible : Text}
    (h : Passed filter seen visible) (unnested : Unnested filter.stopSequences)
    (chunks : List Text) :
    visible ++ (filter.run chunks).emitted.flatten =
      truncateAtFirstStop (seen ++ chunks.flatten) filter.stopSequences ∧
      ((filter.run chunks).stopped = true ↔
        findAny filter.stopSequences (seen ++ chunks.flatten) ≠ none) := by
  obtain ⟨htext, hstopped⟩ := h.run chunks
  obtain ⟨⟨rest, hrest⟩, hall⟩ := filter.run_pushed chunks
  cases hflag : (filter.run chunks).stopped with
  | false =>
      rw [hall hflag] at htext hstopped
      exact ⟨htext, hflag ▸ hstopped⟩
  | true =>
      have hfound := hstopped.mp hflag
      have hwhole : seen ++ chunks.flatten = seen ++ (filter.run chunks).pushed.flatten ++
          rest.flatten := by
        rw [List.append_assoc, ← List.flatten_append, hrest]
      rw [hwhole]
      constructor
      · rw [htext]
        exact (unnested.cutAt_append hfound rest.flatten).symm
      · refine ⟨fun _ => ?_, fun _ => rfl⟩
        obtain ⟨start, hstart⟩ := Option.ne_none_iff_exists'.mp hfound
        rw [unnested.findAny_append hstart rest.flatten]
        exact nofun

end TextStopFilter

def Filtered.coded (filtered : Filtered Char) : Filtered UInt8 :=
  { pushed := filtered.pushed, emitted := filtered.emitted.map utf8, stopped := filtered.stopped }

namespace ByteStopFilter

def run (filter : ByteStopFilter) : List Text → Option (Filtered UInt8)
  | [] => some { pushed := [], emitted := [filter.finish.1], stopped := false }
  | chunk :: chunks => do
      let (update, filter) ← filter.push chunk
      if update.stopped then some { pushed := [chunk], emitted := [update.text], stopped := true }
      else
        let later ← run filter chunks
        some { pushed := chunk :: later.pushed, emitted := update.text :: later.emitted,
               stopped := later.stopped }

theorem run_coded (filter : TextStopFilter) (nonempty : ∀ stop ∈ filter.stopSequences, stop ≠ [])
    (chunks : List Text) :
    run filter.coded chunks = some (filter.run chunks).coded := by
  induction chunks generalizing filter with
  | nil => rfl
  | cons chunk chunks ih =>
      unfold run TextStopFilter.run
      rw [push_coded filter nonempty]
      rcases hpush : filter.push chunk with ⟨update, filter'⟩
      dsimp only [Option.bind_eq_bind, Option.bind_some]
      have hstops : filter'.stopSequences = filter.stopSequences := filter.push_stopSequences hpush
      cases hstopped : update.stopped with
      | true =>
          change (if update.stopped = true then _ else _) = _
          rw [hstopped]
          rfl
      | false =>
          change (if update.stopped = true then _ else _) = _
          rw [hstopped, if_neg Bool.false_ne_true, ih filter' (hstops ▸ nonempty)]
          rfl

theorem run_new_coded {stopSequences : List Text} (nonempty : ∀ stop ∈ stopSequences, stop ≠ [])
    (chunks : List Text) :
    (new stopSequences).run chunks = some ((TextStopFilter.new stopSequences).run chunks).coded :=
  run_coded (TextStopFilter.new stopSequences) nonempty chunks

theorem emitted_coded (filtered : Filtered Char) :
    filtered.coded.emitted.flatten = utf8 filtered.emitted.flatten :=
  (encode_flatten _).symm

/-- The text let through chunk by chunk is the pushed text cut at its first stop sequence. No slice
panics, every piece is a whole number of characters, and the filter stops just when there is one. -/
theorem online_truncation {stopSequences : List Text} (nonempty : ∀ stop ∈ stopSequences, stop ≠ [])
    (chunks : List Text) :
    ∃ filtered, (new stopSequences).run chunks = some filtered ∧
      filtered.pushed <+: chunks ∧ (filtered.stopped = false → filtered.pushed = chunks) ∧
      truncateAtFirstStop (utf8 filtered.pushed.flatten) stopSequences =
      some filtered.emitted.flatten ∧
      (filtered.stopped = true ↔ ∃ stop ∈ stopSequences, stop <:+: filtered.pushed.flatten) ∧
      ∀ piece ∈ filtered.emitted, ∃ text : Text, piece = utf8 text := by
  obtain ⟨htext, hstopped⟩ := (TextStopFilter.Passed.new nonempty).run chunks
  obtain ⟨hpushed, hall⟩ := (TextStopFilter.new stopSequences).run_pushed chunks
  refine ⟨_, run_new_coded nonempty chunks, hpushed, hall, ?_, ?_, ?_⟩
  · rw [emitted_coded, truncateAtFirstStop_utf8 nonempty]
    exact congrArg (fun text => some (utf8 text)) htext.symm
  · exact hstopped.trans findAny_ne_none_iff
  · intro piece hpiece
    obtain ⟨text, -, rfl⟩ := List.mem_map.mp hpiece
    exact ⟨text, rfl⟩

/-- A stop sequence over two chunks, behind an end of the first that begins none. -/
theorem online_truncation_straddling :
    ∃ filtered, (new ["aé".toList]).run ["xaa".toList, "éy".toList, "z".toList] = some filtered ∧
      filtered.pushed <+: ["xaa".toList, "éy".toList, "z".toList] ∧
      (filtered.stopped = false → filtered.pushed = ["xaa".toList, "éy".toList, "z".toList]) ∧
      truncateAtFirstStop (utf8 filtered.pushed.flatten)
        ["aé".toList] = some filtered.emitted.flatten ∧
      (filtered.stopped = true ↔ ∃ stop ∈ ["aé".toList], stop <:+: filtered.pushed.flatten) ∧
      ∀ piece ∈ filtered.emitted, ∃ text : Text, piece = utf8 text :=
  online_truncation (by decide) ["xaa".toList, "éy".toList, "z".toList]

/-- Where no stop sequence lies inside another, two ways of cutting a text into chunks let the same
of it through, the text cut at its first stop sequence, and stop alike. -/
theorem chunks_alike {stopSequences : List Text} (nonempty : ∀ stop ∈ stopSequences, stop ≠ [])
    (unnested : Unnested stopSequences) {chunks chunks' : List Text}
    (same : chunks.flatten = chunks'.flatten) :
    ∃ filtered filtered', (new stopSequences).run chunks = some filtered ∧
      (new stopSequences).run chunks' = some filtered' ∧
      filtered.emitted.flatten = filtered'.emitted.flatten ∧ filtered.stopped = filtered'.stopped ∧
      truncateAtFirstStop (utf8 chunks.flatten) stopSequences = some filtered.emitted.flatten := by
  have hpassed := TextStopFilter.Passed.new nonempty
  obtain ⟨htext, hstopped⟩ := hpassed.run_whole unnested chunks
  obtain ⟨htext', hstopped'⟩ := hpassed.run_whole unnested chunks'
  rw [← same] at htext' hstopped'
  refine ⟨_, _, run_new_coded nonempty chunks, run_new_coded nonempty chunks', ?_, ?_, ?_⟩
  · rw [emitted_coded, emitted_coded]
    exact congrArg utf8 (htext.trans htext'.symm)
  · exact Bool.eq_iff_iff.mpr (hstopped.trans hstopped'.symm)
  · rw [emitted_coded, truncateAtFirstStop_utf8 nonempty]
    exact congrArg (fun text => some (utf8 text)) htext.symm

/-- Two overlapping stop sequences. -/
theorem chunks_alike_overlapping :
    ∃ filtered filtered',
      (new ["ab".toList, "ba".toList]).run ["xa".toList, "".toList, "ba".toList] = some filtered ∧
      (new ["ab".toList, "ba".toList]).run ["x".toList, "aba".toList] = some filtered' ∧
      filtered.emitted.flatten = filtered'.emitted.flatten ∧ filtered.stopped = filtered'.stopped ∧
      truncateAtFirstStop (utf8 ["xa".toList, "".toList, "ba".toList].flatten)
        ["ab".toList, "ba".toList] = some filtered.emitted.flatten :=
  chunks_alike (by decide)
    (Unnested.of_length_eq (by decide : ∀ stop ∈ ["ab".toList, "ba".toList], stop.length = 2)) rfl

end ByteStopFilter
end LightBridge.Runtime

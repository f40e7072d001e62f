import LightBridge.Kernels.Batch
import LightBridge.Kv.Eager

/-! Attention on its buffers: everything before the append is written to scratch. -/
namespace LightBridge.Kernels
open Foundation Kv

/-- What one call works on: the cache, its output, and the scores and the output of its scratch. -/
structure AttentionBuffers where
  cache : PagedKvCache
  output : List F32
  scores : List F32
  attended : List F32

namespace AttentionBuffers

def scratch (buffers : AttentionBuffers) : AttentionScratch :=
  ⟨buffers.scores.length, buffers.attended.length⟩

def reader (buffers : AttentionBuffers) (layer : Nat) : RowReader :=
  fun side => buffers.cache.readRow side layer

end AttentionBuffers

/-- One score; it is written before it is checked. -/
def writeScore (N : Numerics) (layer : Nat) (input : AttentionInput) (baseToken kvHead : Nat)
    (query : List F32)
    (sourceToken : Nat) : Command AttentionBuffers KernelError Unit := do
  let buffers ← Command.read
  let key ← Command.lift
    (sourceLane buffers.cache.toKvConfig (buffers.reader layer) input baseToken .key
      sourceToken kvHead)
  let score :=
    N.mul (dotLanes N .zero query key) (N.div one (N.sqrt (N.ofNat buffers.cache.keyDimension)))
  Command.update fun buffers => { buffers with scores := buffers.scores.set sourceToken score }
  Command.lift (validateFiniteValue "attention score" sourceToken score)

/-- The scores become exponentials; answers their sum. -/
def writeExponentials (N : Numerics) (allowed : Nat) :
    Command AttentionBuffers KernelError F32 := do
  let buffers ← Command.read
  let scores := buffers.scores.take allowed
  let maximum := scores.foldl N.max negInfinity
  let exponentials := scores.map fun score => N.exp (N.sub score maximum)
  Command.update fun buffers =>
    { buffers with scores := exponentials ++ buffers.scores.drop allowed }
  let denominator := exponentials.foldl N.add .zero
  Command.lift (validateFiniteValue "attention softmax denominator" 0 denominator)
  pure denominator

def writeLane (N : Numerics) (layer : Nat) (input : AttentionInput) (baseToken kvHead allowed : Nat)
    (denominator : F32)
    (start lane : Nat) : Command AttentionBuffers KernelError Unit := do
  let buffers ← Command.read
  let attended ← Command.lift
    (attendLane N buffers.cache.toKvConfig (buffers.reader layer) input baseToken kvHead
    (buffers.scores.take allowed) denominator start lane)
  Command.update fun buffers =>
    { buffers with attended := buffers.attended.set (start + lane) attended }

def writeHead (N : Numerics) (layer : Nat) (input : AttentionInput)
    (baseToken token queryHead : Nat) :
    Command AttentionBuffers KernelError Unit := do
  let buffers ← Command.read
  let kvHead := queryHead / (input.queryHeadCount / buffers.cache.kvHeadCount)
  let row := token * input.queryHeadCount + queryHead
  let query := slice input.queries (row * buffers.cache.keyDimension) buffers.cache.keyDimension
  let allowed := baseToken + token + 1
  Command.loop (writeScore N layer input baseToken kvHead query) 0 allowed
  let denominator ← writeExponentials N allowed
  Command.loop
    (writeLane N layer input baseToken kvHead allowed denominator
      (row * buffers.cache.valueDimension)) 0
    buffers.cache.valueDimension

/-- `causal_gqa_attention_into`. -/
def causalGqaAttentionInto (N : Numerics) (alloc : Allocator) (layer : Nat)
    (input : AttentionInput) :
    Command AttentionBuffers KernelError Unit := do
  let buffers ← Command.read
  let baseToken ← Command.lift
    (validateAttention buffers.cache.toKvConfig layer input buffers.output.length buffers.scratch
    (buffers.cache.storedTokens layer))
  Command.loop
    (fun token => Command.loop (writeHead N layer input baseToken token) 0 input.queryHeadCount) 0
      input.tokenCount
  ((PagedKvCache.appendTokens alloc layer input.tokenCount input.keys input.values).mapError
    .kv).zoom
    AttentionBuffers.cache fun cache buffers => { buffers with cache }
  Command.update fun buffers =>
    { buffers with output := buffers.attended.take buffers.output.length }

/-! ### The loops on the scratch -/

/-- The cache and the output are those of the call, and the scratch holds the values computed so
far. -/
structure Holds (start : AttentionBuffers) (done : List F32)
    (buffers : AttentionBuffers) : Prop where
  cache : buffers.cache = start.cache
  output : buffers.output = start.output
  scores : buffers.scores.length = start.scores.length
  length : buffers.attended.length = start.attended.length
  attended : buffers.attended.take done.length = done

/-- Neither the cache nor the output has been touched. -/
def Untouched (start buffers : AttentionBuffers) : Prop :=
  buffers.cache = start.cache ∧ buffers.output = start.output

section
variable {N : Numerics} {layer : Nat} {input : AttentionInput} {baseToken : Nat}
    {start : AttentionBuffers}

theorem writeScore_ends {kvHead : Nat} {query done scores : List F32} {buffers : AttentionBuffers}
    (h : Holds start done buffers) (hscores : buffers.scores.take scores.length = scores)
    (hlt : scores.length < start.scores.length) :
    Command.Ends
      (fun _ buffers' => ∃ score,
        attentionScore N start.cache.toKvConfig (start.reader layer) input baseToken kvHead query
          scores.length = .ok score ∧ Holds start done buffers' ∧
        buffers'.scores.take (scores ++ [score]).length = scores ++ [score])
      (fun e buffers' => attentionScore N start.cache.toKvConfig
        (start.reader layer) input baseToken kvHead query
        scores.length = .error e ∧ Untouched start buffers')
      (writeScore N layer input baseToken kvHead query scores.length buffers) := by
  have hreader : buffers.reader layer = start.reader layer := by
    unfold AttentionBuffers.reader
    rw [h.cache]
  unfold writeScore attentionScore
  refine .read_bind ?_
  rw [h.cache, hreader]
  refine .lift_bind (fun e he => ⟨by rw [he]; rfl, h.cache, h.output⟩) fun key hkey => ?_
  rw [hkey, Command.bind_of_ok (Command.update_run _ buffers)]
  dsimp only
  refine .lift
    (fun _ hvalid =>
      ⟨_, by rw [except_ok_bind, hvalid]; rfl, ⟨h.cache, h.output, ?_, h.length, h.attended⟩, ?_⟩)
    fun e he => ⟨by rw [except_ok_bind, he]; rfl, h.cache, h.output⟩
  · rw [← h.scores]
    exact List.length_set
  · exact take_set_append hscores (by rwa [h.scores])

theorem writeLane_ends {kvHead allowed from' : Nat} {denominator : F32}
    {done lanes exponentials : List F32} {buffers : AttentionBuffers}
    (h : Holds start (done ++ lanes) buffers) (hscores : buffers.scores.take allowed = exponentials)
    (hlt : done.length + lanes.length < start.attended.length) (hfrom : done.length = from') :
    Command.Ends
      (fun _ buffers' => ∃ value,
        attendLane N start.cache.toKvConfig (start.reader layer) input baseToken kvHead exponentials
          denominator from' lanes.length = .ok value ∧
        Holds start (done ++ (lanes ++ [value])) buffers' ∧
        buffers'.scores.take allowed = exponentials)
      (fun e buffers' => attendLane N start.cache.toKvConfig
        (start.reader layer) input baseToken kvHead exponentials
        denominator from' lanes.length = .error e ∧ Untouched start buffers')
      (writeLane N layer input baseToken kvHead allowed denominator from' lanes.length
        buffers) := by
  have hreader : buffers.reader layer = start.reader layer := by
    unfold AttentionBuffers.reader
    rw [h.cache]
  unfold writeLane
  refine .read_bind ?_
  rw [h.cache, hreader, hscores]
  refine .lift_bind (fun e he => ⟨he, h.cache, h.output⟩) fun value hvalue => ?_
  rw [Command.update_run]
  have hindex : from' + lanes.length = (done ++ lanes).length := by rw [List.length_append, hfrom]
  refine .answered () _ ⟨value, hvalue, ⟨h.cache, h.output, h.scores, ?_, ?_⟩, hscores⟩
  · rw [← h.length]
    exact List.length_set
  · rw [hindex, ← List.append_assoc]
    refine take_set_append h.attended ?_
    rw [h.length, List.length_append]
    exact hlt

theorem writeExponentials_ends {allowed : Nat} {done scores : List F32} {buffers : AttentionBuffers}
    (h : Holds start done buffers) (hscores : buffers.scores.take allowed = scores)
    (hlength : scores.length = allowed) :
    let exponentials := scores.map fun score => N.exp (N.sub score (scores.foldl N.max negInfinity))
    let denominator := exponentials.foldl N.add .zero
    Command.Ends
      (fun answer buffers' => answer = denominator ∧
        validateFiniteValue "attention softmax denominator" 0 denominator = .ok () ∧
        Holds start done buffers' ∧
        buffers'.scores.take allowed = exponentials)
      (fun e buffers' => validateFiniteValue "attention softmax denominator" 0 denominator =
        .error e ∧
        Untouched start buffers')
      (writeExponentials N allowed buffers) := by
  intro exponentials denominator
  have hcount : exponentials.length = allowed := by rw [List.length_map, hlength]
  have hroom : allowed ≤ buffers.scores.length := by
    rw [← hlength, ← hscores, List.length_take]
    exact Nat.min_le_right _ _
  unfold writeExponentials
  refine .read_bind ?_
  rw [hscores, Command.bind_of_ok (Command.update_run _ buffers)]
  refine .lift_bind (fun e he => ⟨he, h.cache, h.output⟩) fun _ hvalid => ?_
  refine .answered _ _ ⟨rfl, hvalid, ⟨h.cache, h.output, ?_, h.length, h.attended⟩, ?_⟩
  · change (exponentials ++ buffers.scores.drop allowed).length = start.scores.length
    rw [List.length_append, hcount, List.length_drop, ← h.scores]
    omega
  · exact List.take_left' hcount

/-- One head, from the values of the heads before it. -/
theorem writeHead_ends {token queryHead : Nat} {done : List F32} {buffers : AttentionBuffers}
    (h : Holds start done buffers) (hscores : baseToken + token + 1 ≤ start.scores.length)
    (hdone : done.length = (token * input.queryHeadCount + queryHead) * start.cache.valueDimension)
    (hroom : done.length + start.cache.valueDimension ≤ start.attended.length) :
    Command.Ends
      (fun _ buffers' => ∃ head,
        attendHead N start.cache.toKvConfig (start.reader layer) input baseToken token queryHead =
        .ok head ∧ Holds start (done ++ head) buffers')
      (fun e buffers' => attendHead N start.cache.toKvConfig
        (start.reader layer) input baseToken token queryHead = .error e ∧
        Untouched start buffers')
      (writeHead N layer input baseToken token queryHead buffers) := by
  unfold writeHead attendHead
  refine .read_bind ?_
  rw [h.cache]
  dsimp only
  have hinit : Holds start done buffers ∧ buffers.scores.take ([] : List F32).length = [] :=
    ⟨h, rfl⟩
  refine ((Command.Ends.loop (I := fun scores s => Holds start done s ∧
    s.scores.take scores.length = scores)
    (fun scores s hs hlt => writeScore_ends hs.1 hs.2 (by omega)) hinit).mono
    (fun _ _ h => h) ?_).bind ?_
  · rintro e s' ⟨he, hE⟩
    exact ⟨by rw [he]; rfl, hE⟩
  · rintro _ s ⟨scores, hmade, hs, htake⟩
    have hlength : scores.length = baseToken + token + 1 := by
      rw [← (except_mapM_ok_iff.mp hmade).length_eq, List.length_range]
    rw [hlength] at htake
    rw [hmade, except_ok_bind]
    refine ((writeExponentials_ends hs htake hlength).mono (fun _ _ h => h) ?_).bind ?_
    · rintro e s' ⟨he, hE⟩
      exact ⟨by rw [he]; rfl, hE⟩
    · rintro _ t ⟨rfl, hvalid, ht, hexponentials⟩
      rw [hvalid, except_ok_bind]
      have hlanes : Holds start (done ++ []) t ∧ t.scores.take (baseToken + token + 1) =
          scores.map fun score => N.exp (N.sub score (scores.foldl N.max negInfinity)) :=
        ⟨by rwa [List.append_nil], hexponentials⟩
      refine (Command.Ends.loop (I := fun lanes s => Holds start (done ++ lanes) s ∧
        s.scores.take (baseToken + token + 1) =
          scores.map fun score => N.exp (N.sub score (scores.foldl N.max negInfinity)))
        (fun lanes s hs hlt => writeLane_ends hs.1 hs.2 (by omega) hdone) hlanes).mono ?_
        (fun _ _ h => h)
      rintro _ u ⟨head, hhead, hu, -⟩
      exact ⟨head, hhead, hu⟩

theorem length_attendHead {config : KvConfig} {read : RowReader} {token queryHead : Nat}
    {head : List F32}
    (h : attendHead N config read input baseToken token queryHead = .ok head) :
    head.length = config.valueDimension := by
  unfold attendHead at h
  obtain ⟨_, -, h⟩ := except_bind_ok_iff.mp h
  obtain ⟨_, -, h⟩ := except_bind_ok_iff.mp h
  rw [← (except_mapM_ok_iff.mp h).length_eq, List.length_range]

/-- The position of a head in the output lies before the end of its token. -/
theorem head_room {token queryHead tokenCount queryHeadCount valueDimension : Nat}
    (ht : token < tokenCount) (hh : queryHead < queryHeadCount) :
    (token * queryHeadCount + queryHead) * valueDimension + valueDimension ≤
      tokenCount * queryHeadCount * valueDimension := by
  have hrow : token * queryHeadCount + queryHead + 1 ≤ tokenCount * queryHeadCount := by
    calc token * queryHeadCount + queryHead + 1 ≤ token * queryHeadCount +
      queryHeadCount := by omega
      _ = (token + 1) * queryHeadCount := (Nat.succ_mul token queryHeadCount).symm
      _ ≤ tokenCount * queryHeadCount := Nat.mul_le_mul_right _ ht
  calc (token * queryHeadCount + queryHead) * valueDimension + valueDimension
      = (token * queryHeadCount + queryHead + 1) * valueDimension := (Nat.succ_mul _ _).symm
    _ ≤ tokenCount * queryHeadCount * valueDimension := Nat.mul_le_mul_right _ hrow

/-- The heads of one token. -/
theorem writeToken_ends {token : Nat} {done : List F32} {buffers : AttentionBuffers}
    (h : Holds start done buffers) (ht : token < input.tokenCount)
    (hscores : baseToken + input.tokenCount ≤ start.scores.length)
    (hdone : done.length = token * (input.queryHeadCount * start.cache.valueDimension))
    (hroom : input.tokenCount * input.queryHeadCount * start.cache.valueDimension ≤
      start.attended.length) :
    Command.Ends
      (fun _ buffers' => ∃ heads,
        (List.range input.queryHeadCount).mapM
          (attendHead N start.cache.toKvConfig (start.reader layer) input baseToken token) =
          .ok heads ∧
        Holds start (done ++ heads.flatten) buffers' ∧
        heads.flatten.length = input.queryHeadCount * start.cache.valueDimension)
      (fun e buffers' =>
        (List.range input.queryHeadCount).mapM
          (attendHead N start.cache.toKvConfig (start.reader layer) input baseToken token) =
          .error e ∧
        Untouched start buffers')
      (Command.loop (writeHead N layer input baseToken token) 0 input.queryHeadCount buffers) := by
  have hinit : Holds start (done ++ ([] : List (List F32)).flatten) buffers ∧
      ([] : List (List F32)).flatten.length = ([] : List (List F32)).length *
        start.cache.valueDimension := by
    constructor
    · rwa [List.flatten_nil, List.append_nil]
    · rw [List.length_nil, Nat.zero_mul]
      rfl
  refine (Command.Ends.loop (I := fun heads s => Holds start (done ++ heads.flatten) s ∧
    heads.flatten.length = heads.length * start.cache.valueDimension) ?_ hinit).mono ?_
    (fun _ _ h => h)
  · rintro heads s ⟨hs, hheads⟩ hlt
    have hposition : (done ++ heads.flatten).length =
        (token * input.queryHeadCount + heads.length) * start.cache.valueDimension := by
      rw [List.length_append, hdone, hheads, Nat.add_mul, Nat.mul_assoc]
    have hend : (token * input.queryHeadCount + heads.length) * start.cache.valueDimension +
        start.cache.valueDimension ≤
        input.tokenCount * input.queryHeadCount * start.cache.valueDimension := head_room ht hlt
    refine (writeHead_ends hs (by omega) hposition (by omega)).mono ?_ (fun _ _ h => h)
    rintro _ s' ⟨head, hhead, hs'⟩
    refine ⟨head, hhead, ?_, ?_⟩
    · rwa [List.flatten_append, List.flatten_singleton, ← List.append_assoc]
    · rw [List.flatten_append, List.flatten_singleton, List.length_append, hheads,
        length_attendHead hhead, List.length_append, List.length_singleton,
        Nat.add_mul, Nat.one_mul]
  · rintro _ s ⟨heads, hmade, hs, hheads⟩
    have hcount : heads.length = input.queryHeadCount := by
      rw [← (except_mapM_ok_iff.mp hmade).length_eq, List.length_range]
    exact ⟨heads, hmade, hs, by rw [hheads, hcount]⟩

variable (N layer) in
/-- The tokens of the call, on its scratch. -/
theorem writeTokens_ends (hscores : baseToken + input.tokenCount ≤ start.scores.length)
    (hroom : input.tokenCount * input.queryHeadCount * start.cache.valueDimension ≤
      start.attended.length) :
    Command.Ends
      (fun _ buffers' => ∃ attended,
        attend N start.cache.toKvConfig (start.reader layer) input baseToken = .ok attended ∧
        Holds start attended buffers' ∧
        attended.length = input.tokenCount * input.queryHeadCount * start.cache.valueDimension)
      (fun e buffers' => attend N start.cache.toKvConfig (start.reader layer) input baseToken =
        .error e ∧
        Untouched start buffers')
      (Command.loop
        (fun token =>
        Command.loop (writeHead N layer input baseToken token) 0 input.queryHeadCount) 0
        input.tokenCount start) := by
  have hinit : Holds start ([] : List (List F32)).flatten start ∧
      ([] : List (List F32)).flatten.length =
      ([] : List (List F32)).length * (input.queryHeadCount * start.cache.valueDimension) := by
    constructor
    · exact ⟨rfl, rfl, rfl, rfl, rfl⟩
    · rw [List.length_nil, Nat.zero_mul]
      rfl
  unfold attend
  refine (Command.Ends.loop (f := fun token => do
      let heads ← (List.range input.queryHeadCount).mapM
        (attendHead N start.cache.toKvConfig (start.reader layer) input baseToken token)
      pure heads.flatten)
    (I := fun tokens s => Holds start tokens.flatten s ∧
      tokens.flatten.length = tokens.length * (input.queryHeadCount * start.cache.valueDimension))
    (F := Untouched start) ?_ hinit).mono ?_ ?_
  · rintro tokens s ⟨hs, htokens⟩ hlt
    refine (writeToken_ends hs hlt hscores htokens hroom).mono ?_ ?_
    · rintro _ s' ⟨heads, hheads, hs', hlength⟩
      refine ⟨heads.flatten, by rw [hheads]; rfl, ?_, ?_⟩
      · rwa [List.flatten_append, List.flatten_singleton]
      · rw [List.flatten_append, List.flatten_singleton, List.length_append, htokens, hlength,
          List.length_append, List.length_singleton, Nat.add_mul, Nat.one_mul]
    · rintro e s' ⟨he, hE⟩
      exact ⟨by rw [he]; rfl, hE⟩
  · rintro _ s ⟨tokens, hmade, hs, htokens⟩
    have hcount : tokens.length = input.tokenCount := by
      rw [← (except_mapM_ok_iff.mp hmade).length_eq, List.length_range]
    exact ⟨tokens.flatten, by rw [hmade]; rfl, hs, by rw [htokens, hcount, Nat.mul_assoc]⟩
  · rintro e s ⟨he, hE⟩
    exact ⟨by rw [he]; rfl, hE⟩

end

/-! ### The whole call -/

/-- On its buffers, the call ends as `causalGqaAttention` does: its answer is copied to the
output, and its error leaves the output alone. -/
theorem causalGqaAttentionInto_computes (N : Numerics) (alloc : Allocator) (layer : Nat)
    (input : AttentionInput) (buffers : AttentionBuffers) :
    Command.Ends
      (fun _ buffers' =>
        causalGqaAttention N alloc layer input buffers.output.length buffers.scratch buffers.cache =
        (.ok buffers'.output, buffers'.cache))
      (fun e buffers' =>
        causalGqaAttention N alloc layer input buffers.output.length buffers.scratch buffers.cache =
        (.error e, buffers'.cache) ∧ buffers'.output = buffers.output)
      (causalGqaAttentionInto N alloc layer input buffers) := by
  unfold causalGqaAttentionInto causalGqaAttention
  rw [Command.bind_of_ok (Command.read_run buffers),
    Command.bind_of_ok (Command.read_run buffers.cache)]
  refine .lift_bind (fun e he => ⟨by rw [he]; rfl, rfl⟩) fun baseToken hvalid => ?_
  obtain ⟨-, hcall⟩ := validateAttention_eq_ok.mp hvalid
  have houtput := hcall.output
  rw [hvalid, Command.bind_of_ok (Command.lift_run _ buffers.cache)]
  have htokens := writeTokens_ends N layer hcall.scores (houtput ▸ hcall.staging)
  refine (htokens.mono (fun _ _ h => h) ?_).bind ?_
  · rintro e buffers' ⟨he, hcache, hout⟩
    change attend N buffers.cache.toKvConfig (fun side => buffers.cache.readRow side layer) input
      baseToken = .error e at he
    exact ⟨by rw [he, Command.bind_of_error (Command.lift_run _ buffers.cache), hcache], hout⟩
  · rintro _ scratched ⟨attended, hattend, hs, hlength⟩
    change attend N buffers.cache.toKvConfig (fun side => buffers.cache.readRow side layer)
      input baseToken = .ok attended at hattend
    rw [hattend, Command.bind_of_ok (Command.lift_run _ buffers.cache)]
    rcases happend : (PagedKvCache.appendTokens alloc layer input.tokenCount input.keys
      input.values).mapError
      KernelError.kv buffers.cache with ⟨r, cache'⟩
    have hzoom :
        ((PagedKvCache.appendTokens alloc layer input.tokenCount input.keys input.values).mapError
          KernelError.kv).zoom
          AttentionBuffers.cache (fun cache buffers => { buffers with cache }) scratched =
        (r, { scratched with cache := cache' }) := by
      rw [Command.zoom, hs.cache, happend]
    cases r with
    | error e =>
        rw [Command.bind_of_error hzoom, Command.bind_of_error happend]
        exact .failed e _ ⟨rfl, hs.output⟩
    | ok _ =>
        rw [Command.bind_of_ok hzoom, Command.bind_of_ok happend, Command.update_run]
        refine .answered () _ ?_
        have hcopied : scratched.attended.take scratched.output.length = attended := by
          rw [hs.output, houtput, ← hlength]
          exact hs.attended
        dsimp only
        rw [hcopied]
        rfl

/-- Attention is atomic: an error leaves the cache and the output as they were, and an answer has
appended the rows of the call to its layer and nothing to any other. -/
theorem attention_atomic (N : Numerics) (alloc : Allocator) (layer : Nat) (input : AttentionInput)
    {buffers : AttentionBuffers} (h : PagedKvCache.Reachable buffers.cache) :
    (∀ e buffers', causalGqaAttentionInto N alloc layer input buffers = (.error e, buffers') →
      buffers'.cache = buffers.cache ∧ buffers'.output = buffers.output) ∧
    ∀ buffers', causalGqaAttentionInto N alloc layer input buffers = (.ok (), buffers') →
      buffers'.cache.toKvConfig = buffers.cache.toKvConfig ∧
      buffers'.cache.view =
        buffers.cache.view.append layer
          (buffers.cache.rowsOf input.tokenCount input.keys input.values) ∧
      ∀ other, buffers'.cache.storedLength other =
        if other = layer then buffers.cache.storedLength layer + input.tokenCount
        else buffers.cache.storedLength other := by
  have hends :=
    causalGqaAttention_ends N alloc layer input buffers.output.length buffers.scratch h.wellFormed
  have hcomputes := causalGqaAttentionInto_computes N alloc layer input buffers
  constructor
  · intro e buffers' hrun
    obtain ⟨hvalue, houtput⟩ := hcomputes.of_error hrun
    exact ⟨hends.of_error hvalue, houtput⟩
  · intro buffers' hrun
    have happended := hends.of_ok (hcomputes.of_ok hrun)
    refine ⟨happended.config, happended.view, fun other => ?_⟩
    by_cases hother : other = layer
    · rw [if_pos hother, hother]
      exact happended.storedLength
    · rw [if_neg hother]
      exact happended.storedLength_of_ne hother

/-- One token with one head in an empty cache of one row. -/
theorem attention_atomic_single :
    ∃ buffers', causalGqaAttentionInto zeroNumerics (fun _ => true) 0
      ⟨1, 1, [.zero], [.zero], [.zero]⟩
        ⟨⟨⟨1, 1, 1, 1, 1, 1⟩, 1, [0], [[none]]⟩, [one], [.zero], [.zero]⟩ = (.ok (), buffers') ∧
      buffers'.cache.storedLength 0 = 1 := by
  have hanswered : (causalGqaAttentionInto zeroNumerics (fun _ => true) 0
      ⟨1, 1, [.zero], [.zero], [.zero]⟩
      ⟨⟨⟨1, 1, 1, 1, 1, 1⟩, 1, [0], [[none]]⟩, [one], [.zero], [.zero]⟩).1 = .ok () := by
      decide +kernel
  have hrun := Prod.ext hanswered rfl
  have hreachable : PagedKvCache.Reachable ⟨⟨1, 1, 1, 1, 1, 1⟩, 1, [0], [[none]]⟩ :=
    .built (fun _ => true) ⟨1, 1, 1, 1, 1, 1⟩ (Or.inr rfl)
  exact ⟨_, hrun,
    ((attention_atomic zeroNumerics (fun _ => true) 0
    ⟨1, 1, [.zero], [.zero], [.zero]⟩ hreachable).2 _ hrun).2.2 0⟩

end LightBridge.Kernels

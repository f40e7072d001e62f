import LightBridge.Runtime.Generation

/-! What a stream preserves, from what one evaluation preserves. -/
namespace LightBridge.Runtime
open Foundation Command

variable {Ω S E R W τ : Type}

/-- Every evaluation of a known token in a session with room keeps `I`, or fails in `J`. -/
structure Generator.Preserved (model : CausalModel Ω S E) (fine : Ω → Prop)
    (I J : GenerationSession S → Prop) :
    Prop where
  position : ∀ session, I session → model.position session.model = session.history.length
  failed : ∀ session, I session → J session
  evaluated : ∀ env tokenId session, fine env → I session →
    session.history.length < model.contextLength →
    tokenId < model.vocabularySize →
    Ends (fun _ last => I last ∧ last.history = session.history ++ [tokenId]) (fun _ last => J last)
      (Generator.evaluate model env tokenId session)

namespace Generator
variable {model : CausalModel Ω S E} {session : GenerationSession S}

/-- What `prepare` checks, with the limit it answers. -/
structure Admitted (model : CausalModel Ω S E) (alloc : GenerationSite → Bool)
    (config : SamplingConfig) (promptTokens : List Nat) (session : GenerationSession S)
    (generationLimit : Nat) : Prop where
  valid : config.validate model.vocabularySize = .ok ()
  healthy : session.healthy = true
  known : ∀ tokenId ∈ promptTokens, tokenId < model.vocabularySize
  room : model.position session.model ≤ model.contextLength ∧
    promptTokens.length ≤ model.contextLength - model.position session.model
  prompt : promptTokens ≠ [] ∨ session.hasLogits = true
  limit : generationLimit =
    min config.maxNewTokens
      (model.contextLength - model.position session.model - promptTokens.length)
  history : tryReserve (alloc .history) 4
    (session.history.length + (promptTokens.length + generationLimit)) = true
  generated : tryReserve (alloc .generated) 4 generationLimit = true

theorem Admitted.length_le {alloc : GenerationSite → Bool} {config : SamplingConfig}
    {promptTokens : List Nat} {generationLimit : Nat}
    (h : Admitted model alloc config promptTokens session generationLimit) :
    model.position session.model + promptTokens.length + generationLimit ≤ model.contextLength := by
  have hroom := h.room
  have hlimit := h.limit
  omega

theorem prepare_eq_ok_iff {alloc : GenerationSite → Bool} {config : SamplingConfig}
    {promptTokens : List Nat} {generationLimit : Nat} :
    prepare model alloc config promptTokens session = .ok generationLimit ↔
      Admitted model alloc config promptTokens session generationLimit := by
  have hfind : (promptTokens.find? fun tokenId => decide (model.vocabularySize ≤ tokenId)) = none ↔
      ∀ tokenId ∈ promptTokens, tokenId < model.vocabularySize := by
    rw [List.find?_eq_none]
    simp
  have hcontext := model.contextLength_le
  unfold prepare
  constructor
  · intro h
    obtain ⟨_, hconfig, h⟩ := except_bind_ok_iff.mp h
    obtain ⟨_, hhealthy, h⟩ := except_bind_ok_iff.mp h
    cases hfound : promptTokens.find? fun tokenId => decide (model.vocabularySize ≤ tokenId) with
    | some tokenId =>
        rw [hfound] at h
        cases h
    | none =>
        rw [hfound] at h
        dsimp only at h
        obtain ⟨_, hroom, h⟩ := except_bind_ok_iff.mp h
        obtain ⟨_, hprompt, h⟩ := except_bind_ok_iff.mp h
        obtain ⟨requested, hrequested, h⟩ := except_bind_ok_iff.mp h
        obtain ⟨_, hhistory, h⟩ := except_bind_ok_iff.mp h
        obtain ⟨_, hgenerated, h⟩ := except_bind_ok_iff.mp h
        cases h
        obtain ⟨-, rfl⟩ := checkedAdd_eq_some.mp (okOr_eq_ok.mp hrequested)
        exact ⟨wrap_eq_ok.mp hconfig, ensure_eq_ok.mp hhealthy, hfind.mp hfound,
          ensure_eq_ok.mp hroom, ensure_eq_ok.mp hprompt, rfl, ensure_eq_ok.mp hhistory,
          ensure_eq_ok.mp hgenerated⟩
  · intro h
    have hroom := h.room
    have hlimit := h.limit
    rw [hfind.mpr h.known]
    refine except_bind_ok_iff.mpr ⟨(), wrap_eq_ok.mpr h.valid, ?_⟩
    refine except_bind_ok_iff.mpr ⟨(), ensure_eq_ok.mpr h.healthy, ?_⟩
    refine except_bind_ok_iff.mpr ⟨(), ensure_eq_ok.mpr h.room, ?_⟩
    refine except_bind_ok_iff.mpr ⟨(), ensure_eq_ok.mpr h.prompt, ?_⟩
    rw [← h.limit]
    refine except_bind_ok_iff.mpr ⟨_, okOr_eq_ok.mpr (checkedAdd_of_le ?_), ?_⟩
    · omega
    refine except_bind_ok_iff.mpr ⟨(), ensure_eq_ok.mpr h.history, ?_⟩
    exact except_bind_ok_iff.mpr ⟨(), ensure_eq_ok.mpr h.generated, rfl⟩

namespace Preserved
variable {fine : Ω → Prop} {I J : GenerationSession S → Prop}

theorem prefill (preserved : Preserved model fine I J) (env : CallEnvironment Ω)
    (hfine : ∀ n, fine (env.world n)) (tokens : List Nat) :
    ∀ (index : Nat) (session : GenerationSession S), I session →
      session.history.length + tokens.length ≤ model.contextLength →
      (∀ tokenId ∈ tokens, tokenId < model.vocabularySize) →
      Ends (fun absorbed last => I last ∧
        (absorbed = true → last.history = session.history ++ tokens))
        (fun _ last => J last) (Generator.prefill model env index tokens session) := by
  induction tokens with
  | nil =>
      intro index session hI _ _
      refine .answered true session ⟨hI, ?_⟩
      intro _
      rw [List.append_nil]
  | cons tokenId rest ih =>
      intro index session hI room known
      rw [List.length_cons] at room
      unfold Generator.prefill
      split
      · exact .answered false session ⟨hI, fun habsorbed => by cases habsorbed⟩
      · have hstep :=
          preserved.evaluated (env.world index) tokenId session (hfine index) hI (by omega)
          (known tokenId List.mem_cons_self)
        apply hstep.bind
        rintro _ next ⟨hnext, hhistory⟩
        have hlength : next.history.length = session.history.length + 1 := by
          rw [hhistory, List.length_append, List.length_singleton]
        apply (ih (index + 1) next hnext (by omega) fun t ht =>
          known t (List.mem_cons_of_mem _ ht)).mono
        · rintro absorbed last ⟨hlast, hfull⟩
          refine ⟨hlast, ?_⟩
          intro habsorbed
          rw [hfull habsorbed, hhistory, List.append_assoc]
          rfl
        · intro _ _ hlast
          exact hlast

/-- The decoding loop has room for the tokens that remain. -/
theorem decode (preserved : Preserved model fine I J) (host : SamplerHost R W)
    (env : CallEnvironment Ω) (hfine : ∀ n, fine (env.world n)) (config : SamplingConfig)
    (emit : Callback τ) (promptLength : Nat) (exhausted : StopReason) (remaining : Nat) :
    ∀ (index : Nat) (sampler : Sampler R) (generated : List Nat) (state : GenerationSession S × τ),
      sampler.vocabularySize = model.vocabularySize → I state.1 →
      state.1.history.length + remaining ≤ model.contextLength →
      Ends (fun _ last => I last.1) (fun _ last => J last.1)
        (Generator.decode model host env config emit promptLength exhausted remaining index sampler
          generated state) := by
  induction remaining with
  | zero =>
      intro index sampler generated state _ hI _
      exact .answered _ state hI
  | succ remaining ih =>
      intro index sampler generated state hsize hI room
      unfold Generator.decode
      split
      · exact .answered _ state hI
      · apply Ends.read_bind
        apply Ends.lift_bind
        · intro _ _
          exact preserved.failed _ hI
        · intro tokenId hdrawn
          have hknown : tokenId < model.vocabularySize := by
            rw [← hsize]
            exact Sampler.sample_lt host (Prod.ext (wrap_eq_ok.mp hdrawn) rfl)
          have hstep := preserved.evaluated (env.world (promptLength + index)) tokenId state.1
              (hfine _) hI (by omega) hknown
          apply Ends.bind (Q := fun _ next => I next.1 ∧
            next.1.history.length + remaining ≤ model.contextLength)
          · apply Ends.zoom
            apply hstep.mono
            · rintro _ next ⟨hnext, hhistory⟩
              refine ⟨hnext, ?_⟩
              change next.history.length + remaining ≤ _
              rw [hhistory, List.length_append, List.length_singleton]
              omega
            · intro _ _ hlast
              exact hlast
          · rintro _ next ⟨hnext, hroom⟩
            apply Ends.bind (Q := fun _ after => I after.1 ∧
              after.1.history.length + remaining ≤ model.contextLength)
            · apply Ends.zoom
              unfold emitToken
              dsimp only
              split
              · exact .answered _ _ ⟨hnext, hroom⟩
              · exact .answered _ _ ⟨hnext, hroom⟩
            · rintro ⟨generated, reason⟩ after ⟨hafter, hroom⟩
              cases reason with
              | some reason => exact .answered _ after hafter
              | none => exact ih (index + 1) _ generated after hsize hafter hroom

theorem generateStream (preserved : Preserved model fine I J) (host : SamplerHost R W)
    (env : CallEnvironment Ω) (hfine : ∀ n, fine (env.world n)) (config : SamplingConfig)
    (promptTokens : List Nat) (emit : Callback τ) (state : GenerationSession S × τ)
    (hI : I state.1) :
    Ends (fun _ last => I last.1) (fun _ last => J last.1)
      (Generator.generateStream model host env config promptTokens emit state) := by
  unfold Generator.generateStream
  apply Ends.read_bind
  apply Ends.lift_bind
  · intro _ _
    exact preserved.failed _ hI
  · intro generationLimit hprepared
    have hadmitted := prepare_eq_ok_iff.mp hprepared
    have hknown := hadmitted.known
    have hroom := hadmitted.length_le
    rw [preserved.position _ hI] at hroom
    split
    · exact .answered _ state hI
    · apply Ends.bind (Q := fun absorbed next => I next.1 ∧
        (absorbed = true → next.1.history.length + generationLimit ≤ model.contextLength))
      · apply Ends.zoom
        apply (preserved.prefill env hfine promptTokens 0 state.1 hI (by omega) hknown).mono
        · rintro absorbed next ⟨hnext, hfull⟩
          refine ⟨hnext, ?_⟩
          intro habsorbed
          change next.history.length + generationLimit ≤ _
          rw [hfull habsorbed, List.length_append]
          exact hroom
        · intro _ _ hlast
          exact hlast
      · rintro absorbed next ⟨hnext, hfull⟩
        cases absorbed with
        | false => exact .answered _ next hnext
        | true =>
            apply Ends.lift_bind
            · intro _ _
              exact preserved.failed _ hnext
            · intro sampler hsampler
              have hsize := Sampler.new_vocabularySize host (wrap_eq_ok.mp hsampler)
              apply (preserved.decode host env hfine config emit promptTokens.length _
                generationLimit 0 sampler [] next
                hsize hnext (hfull rfl)).bind
              rintro ⟨generated, reason⟩ last hlast
              exact .answered _ last hlast

end Preserved
end Generator

end LightBridge.Runtime

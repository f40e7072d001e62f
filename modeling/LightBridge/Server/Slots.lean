import Mathlib.Data.List.Perm.Basic
import LightBridge.Foundation.Hexadecimal
import LightBridge.Server.Faults

/-! Many clients at `chat_completions`. A request is turned away, or it takes a slot, which its
worker gives back when it ends. -/
namespace LightBridge.Server
open Foundation Tokenizer Hy3 LightBridge.Runtime

structure ServerConfig where
  maxConcurrentRequests : Nat
  maxRequestBytes : Nat
  maxNewTokens : Nat

/-- `ServerError::ZeroLimit`. -/
structure ZeroLimit where
  field : String

def ServerConfig.validate (config : ServerConfig) : Except ZeroLimit Unit :=
  [("max_concurrent_requests", config.maxConcurrentRequests),
    ("max_request_bytes", config.maxRequestBytes),
    ("max_new_tokens", config.maxNewTokens)].forM fun limit => ensure (limit.2 ≠ 0) ⟨limit.1⟩

/-- `completion_id`, when the clock says `nanos`. -/
def completionId (nanos ordinal : Nat) : Text :=
  "chatcmpl-".toList ++ (Nat.toDigits 16 nanos ++ '-' :: Nat.toDigits 16 ordinal)

theorem completionId_ordinal {nanos nanos' ordinal ordinal' : Nat}
    (h : completionId nanos ordinal = completionId nanos' ordinal') : ordinal = ordinal' := by
  have hdigits := List.append_cancel_left h
  have hsplit := (List.append_cons_inj_of_notMem (dash_notMem_toDigits nanos)
    (dash_notMem_toDigits ordinal)).mp hdigits
  exact toDigits_injective ordinal ordinal' hsplit.2.2

/-- What `chat_completions` checks before it asks for a slot. -/
def admitRequest (formatting : Formatting) (config : ServerConfig) (vocabularySize : Nat)
    (request : ChatCompletionRequest) : Except ApiError PreparedRequest := do
  ensure (∀ model ∈ request.model, model = modelId)
    (.ofNotFound s!"model {formatting.debug (request.model.getD [])} is not loaded")
  ensure (request.n.getD 1 = 1) (.ofBadRequest "only `n: 1` is supported")
  PreparedRequest.new formatting request config.maxNewTokens vocabularySize

/-- A request that holds a slot. It has its identifier once `completion_id` was called. -/
structure Worker where
  request : Nat
  prepared : PreparedRequest
  id : Option Text

inductive Reply where
  | error (error : ApiError)
  | response (response : ChatCompletionResponse)
  | events (events : List Event)

/-- The slots, `NEXT_COMPLETION_ID`, the requests that have come, the workers, the identifiers that
were given, and the replies with the numbers of their requests.

Three assumptions are made of tokio:
* semaphore: `try_acquire_owned` takes a permit exactly while one is `free`, and a permit that is
  dropped is free again;
* channel: `blocking_send` hands over the events in their order, and fails once the client has
  left, which is `Connection.remaining`;
* worker: a task of `spawn_blocking` does not panic, and its join succeeds. -/
structure Slots where
  free : Nat
  ordinal : Nat
  requests : List ChatCompletionRequest
  workers : List Worker
  issued : List Text
  replies : List (Nat × Reply)

/-- The slots of `router`. -/
def Slots.router (config : ServerConfig) : Except ZeroLimit Slots := do
  config.validate
  pure ⟨config.maxConcurrentRequests, 0, [], [], [], []⟩

/-- What may happen next: a request comes, the worker at a place gets its identifier, or it runs to
its end, where its client may leave a stream. -/
inductive Action (Ω : Type) where
  | arrive (request : ChatCompletionRequest)
  | number (place nanos : Nat)
  | finish (place : Nat) (opening : Ω) (env : CallEnvironment Ω) (leaves : Option Nat)

/-- The worlds in which workers run to their ends are among those of `Met`. -/
def Action.Meets {Ω : Type} (Met : Ω → CallEnvironment Ω → Prop) : Action Ω → Prop
  | .finish _ opening env _ => Met opening env
  | _ => True

section Steps
variable {Ω S E R W : Type} (formatting : Formatting) (host : ResponseHost E)
  (engine : Hy3ChatEngine Ω S E R W Value) (config : ServerConfig)

/-- What a worker sends back. -/
def workerReply (id : Text) (prepared : PreparedRequest) (opening : Ω) (env : CallEnvironment Ω)
    (leaves : Option Nat) : Reply :=
  if prepared.stream then
    .events (streamCompletion host id prepared engine opening env (.start leaves)).received
  else
    match (Hy3ChatEngine.completeWithStops engine opening env prepared.chat continueText ()).1 with
    | .ok completion => .response (nonStreamingResponse host 0 id completion)
    | .error error => .error (.ofInternal (host.errorText error))

namespace Slots

/-- A request comes. -/
def arrive (request : ChatCompletionRequest) (s : Slots) : Slots :=
  let requests := s.requests ++ [request]
  match admitRequest formatting config engine.model.vocabularySize request with
  | .error error =>
      { s with requests, replies := s.replies ++ [(s.requests.length, .error error)] }
  | .ok prepared =>
      match s.free with
      | 0 => { s with requests, replies := s.replies ++ [(s.requests.length, .error .ofBusy)] }
      | free + 1 =>
          { s with requests, free, workers := s.workers ++ [⟨s.requests.length, prepared, none⟩] }

def step : Action Ω → Slots → Slots
  | .arrive request, s => s.arrive formatting engine config request
  | .number place nanos, s =>
      match s.workers[place]? with
      | some ⟨request, prepared, none⟩ =>
          { s with
            ordinal := (s.ordinal + 1) % 2 ^ 64
            workers := s.workers.set place ⟨request, prepared, completionId nanos s.ordinal⟩
            issued := s.issued ++ [completionId nanos s.ordinal] }
      | _ => s
  | .finish place opening env leaves, s =>
      match s.workers[place]? with
      | some ⟨request, prepared, some id⟩ =>
          { s with
            free := s.free + 1
            workers := s.workers.eraseIdx place
            replies := s.replies ++
              [(request, workerReply host engine id prepared opening env leaves)] }
      | _ => s

def run (actions : List (Action Ω)) (s : Slots) : Slots :=
  actions.foldl (fun s action => step formatting host engine config action s) s

variable (Met : Ω → CallEnvironment Ω → Prop)

/-- What one action does. -/
inductive Moved (s : Slots) : Slots → Prop where
  | same : Moved s s
  | refused (request : ChatCompletionRequest) (error : ApiError)
      (h : admitRequest formatting config engine.model.vocabularySize request = .error error) :
      Moved s { s with
        requests := s.requests ++ [request]
        replies := s.replies ++ [(s.requests.length, .error error)] }
  | busy (request : ChatCompletionRequest) (prepared : PreparedRequest)
      (h : admitRequest formatting config engine.model.vocabularySize request = .ok prepared)
      (full : s.free = 0) :
      Moved s { s with
        requests := s.requests ++ [request]
        replies := s.replies ++ [(s.requests.length, .error .ofBusy)] }
  | admitted (request : ChatCompletionRequest) (prepared : PreparedRequest) (free : Nat)
      (h : admitRequest formatting config engine.model.vocabularySize request = .ok prepared)
      (room : s.free = free + 1) :
      Moved s { s with
        requests := s.requests ++ [request]
        free
        workers := s.workers ++ [⟨s.requests.length, prepared, none⟩] }
  | numbered (place nanos : Nat) (worker : Worker) (h : s.workers[place]? = some worker)
      (unnumbered : worker.id = none) :
      Moved s { s with
        ordinal := (s.ordinal + 1) % 2 ^ 64
        workers := s.workers.set place { worker with id := completionId nanos s.ordinal }
        issued := s.issued ++ [completionId nanos s.ordinal] }
  | finished (place : Nat) (worker : Worker) (id : Text) (opening : Ω) (env : CallEnvironment Ω)
      (leaves : Option Nat) (h : s.workers[place]? = some worker) (numbered : worker.id = some id)
      (met : Met opening env) :
      Moved s { s with
        free := s.free + 1
        workers := s.workers.eraseIdx place
        replies := s.replies ++
          [(worker.request, workerReply host engine id worker.prepared opening env leaves)] }

theorem step_moved {action : Action Ω} (meets : action.Meets Met) (s : Slots) :
    Moved formatting host engine config Met s (step formatting host engine config action s) := by
  cases action with
  | arrive request =>
      unfold step arrive
      dsimp only
      cases hvalid : admitRequest formatting config engine.model.vocabularySize request with
      | error error => exact .refused request error hvalid
      | ok prepared =>
          dsimp only
          cases hfree : s.free with
          | zero =>
              have hbusy : Moved formatting host engine config Met s _ :=
                .busy request prepared hvalid hfree
              rwa [hfree] at hbusy
          | succ free => exact .admitted request prepared free hvalid hfree
  | number place nanos =>
      unfold step
      dsimp only
      split
      · rename_i request prepared hworker
        exact .numbered place nanos ⟨request, prepared, none⟩ hworker rfl
      · exact .same
  | finish place opening env leaves =>
      unfold step
      dsimp only
      split
      · rename_i request prepared id hworker
        exact .finished place ⟨request, prepared, some id⟩ id opening env leaves hworker rfl meets
      · exact .same

/-- What an answer to a request says: why it was turned away, or what its worker sent back. -/
inductive Answered (issued : List Text) (request : ChatCompletionRequest) : Reply → Prop where
  | refused (error : ApiError)
      (h : admitRequest formatting config engine.model.vocabularySize request = .error error) :
      Answered issued request (.error error)
  | busy (prepared : PreparedRequest)
      (h : admitRequest formatting config engine.model.vocabularySize request = .ok prepared) :
      Answered issued request (.error .ofBusy)
  | served (prepared : PreparedRequest)
      (h : admitRequest formatting config engine.model.vocabularySize request = .ok prepared)
      (id : Text) (given : id ∈ issued) (opening : Ω) (env : CallEnvironment Ω)
      (leaves : Option Nat) (met : Met opening env) :
      Answered issued request (workerReply host engine id prepared opening env leaves)

/-- A worker works on the request whose number it has, under an identifier that was given. -/
structure Works (s : Slots) (worker : Worker) : Prop where
  prepared : ∃ request, s.requests[worker.request]? = some request ∧
    admitRequest formatting config engine.model.vocabularySize request = .ok worker.prepared
  given : ∀ id, worker.id = some id → id ∈ s.issued

/-- Every slot is free or has its worker, every request has its worker or its one reply, and the
identifiers have the ordinals in turn. -/
structure Served (s : Slots) : Prop where
  slots : s.free + s.workers.length = config.maxConcurrentRequests
  places : (s.workers.map Worker.request ++ s.replies.map Prod.fst).Perm
    (List.range s.requests.length)
  ordinal : s.ordinal = s.issued.length % 2 ^ 64
  issued : ∀ index id, s.issued[index]? = some id →
    ∃ nanos, id = completionId nanos (index % 2 ^ 64)
  workers : ∀ worker ∈ s.workers, Works formatting engine config s worker
  replies : ∀ reply ∈ s.replies, ∃ request, s.requests[reply.1]? = some request ∧
    Answered formatting host engine config Met s.issued request reply.2

/-! ### One action -/

theorem getElem?_concat {α : Type} {xs : List α} {index : Nat} {a : α} (h : xs[index]? = some a)
    (b : α) : (xs ++ [b])[index]? = some a := by
  rw [List.getElem?_append_left (List.getElem?_eq_some_iff.mp h).1]
  exact h

section Moves
variable {formatting : Formatting} {host : ResponseHost E}
  {engine : Hy3ChatEngine Ω S E R W Value} {config : ServerConfig}
  {Met : Ω → CallEnvironment Ω → Prop} {s s' : Slots}

theorem Answered.mono {issued issued' : List Text} {request : ChatCompletionRequest} {reply : Reply}
    (h : Answered formatting host engine config Met issued request reply)
    (hissued : ∀ id ∈ issued, id ∈ issued') :
    Answered formatting host engine config Met issued' request reply := by
  cases h with
  | refused error h => exact .refused error h
  | busy prepared h => exact .busy prepared h
  | served prepared h id given opening env leaves met =>
      exact .served prepared h id (hissued id given) opening env leaves met

theorem Works.mono {worker : Worker} (h : Works formatting engine config s worker)
    (hrequests : ∀ (index : Nat) (request : ChatCompletionRequest),
      s.requests[index]? = some request → s'.requests[index]? = some request)
    (hissued : ∀ id ∈ s.issued, id ∈ s'.issued) :
    Works formatting engine config s' worker := by
  obtain ⟨request, hrequest, hadmitted⟩ := h.prepared
  exact ⟨⟨request, hrequests _ _ hrequest, hadmitted⟩, fun id hid => hissued id (h.given id hid)⟩

/-- A request that gets its reply at once. -/
theorem Served.replied (h : Served formatting host engine config Met s)
    (request : ChatCompletionRequest) {reply : Reply}
    (hreply : Answered formatting host engine config Met s.issued request reply) :
    Served formatting host engine config Met { s with
      requests := s.requests ++ [request]
      replies := s.replies ++ [(s.requests.length, reply)] } where
  slots := h.slots
  places := by
    dsimp only
    rw [List.map_append, List.length_append, List.length_singleton, List.range_succ,
      ← List.append_assoc]
    exact h.places.append_right _
  ordinal := h.ordinal
  issued := h.issued
  workers worker hworker := (h.workers worker hworker).mono
    (fun _ _ hrequest => getElem?_concat hrequest request) fun _ hid => hid
  replies reply' hreply' := by
    rcases List.mem_append.mp hreply' with hold | hnew
    · obtain ⟨request', hrequest, hanswered⟩ := h.replies reply' hold
      exact ⟨request', getElem?_concat hrequest request, hanswered⟩
    · rw [List.mem_singleton.mp hnew]
      exact ⟨request, List.getElem?_concat_length, hreply⟩

theorem Served.admitted (h : Served formatting host engine config Met s)
    {request : ChatCompletionRequest} {prepared : PreparedRequest} {free : Nat}
    (hvalid : admitRequest formatting config engine.model.vocabularySize request = .ok prepared)
    (room : s.free = free + 1) :
    Served formatting host engine config Met { s with
      requests := s.requests ++ [request]
      free
      workers := s.workers ++ [⟨s.requests.length, prepared, none⟩] } where
  slots := by
    have hslots := h.slots
    simp only [List.length_append, List.length_singleton]
    omega
  places := by
    dsimp only
    rw [List.map_append, List.length_append, List.length_singleton, List.range_succ,
      List.append_assoc]
    refine (List.perm_append_comm.append_left _).trans ?_
    rw [← List.append_assoc]
    exact h.places.append_right _
  ordinal := h.ordinal
  issued := h.issued
  workers worker hworker := by
    rcases List.mem_append.mp hworker with hold | hnew
    · exact (h.workers worker hold).mono
        (fun _ _ hrequest => getElem?_concat hrequest request) fun _ hid => hid
    · rw [List.mem_singleton.mp hnew]
      refine ⟨⟨request, List.getElem?_concat_length, hvalid⟩, fun id hid => ?_⟩
      cases hid
  replies reply hreply := by
    obtain ⟨request', hrequest, hanswered⟩ := h.replies reply hreply
    exact ⟨request', getElem?_concat hrequest request, hanswered⟩

theorem Served.numbered (h : Served formatting host engine config Met s) {place : Nat} (nanos : Nat)
    {worker : Worker} (hworker : s.workers[place]? = some worker) :
    Served formatting host engine config Met { s with
      ordinal := (s.ordinal + 1) % 2 ^ 64
      workers := s.workers.set place { worker with id := completionId nanos s.ordinal }
      issued := s.issued ++ [completionId nanos s.ordinal] } where
  slots := by
    rw [List.length_set]
    exact h.slots
  places := by
    obtain ⟨hlt, rfl⟩ := List.getElem?_eq_some_iff.mp hworker
    have hsame : (s.workers.set place { s.workers[place] with
        id := completionId nanos s.ordinal }).map Worker.request =
        s.workers.map Worker.request := by
      rw [List.map_set, ← List.getElem_map Worker.request (h := by simpa using hlt)]
      exact List.set_getElem_self _
    dsimp only
    rw [hsame]
    exact h.places
  ordinal := by
    have hordinal := h.ordinal
    simp only [List.length_append, List.length_singleton]
    omega
  issued index id hid := by
    rcases Nat.lt_or_ge index s.issued.length with hlt | hge
    · rw [List.getElem?_append_left hlt] at hid
      exact h.issued index id hid
    · rw [List.getElem?_append_right hge] at hid
      obtain ⟨hindex, hid⟩ := List.getElem?_eq_some_iff.mp hid
      rw [List.length_singleton] at hindex
      refine ⟨nanos, ?_⟩
      rw [← hid, List.getElem_singleton, h.ordinal]
      congr 2
      omega
  workers worker' hworker' := by
    have hissued : ∀ id ∈ s.issued, id ∈ s.issued ++ [completionId nanos s.ordinal] :=
      fun _ hid => List.mem_append_left _ hid
    have hold := (h.workers worker (List.mem_of_getElem? hworker)).prepared
    rcases List.mem_or_eq_of_mem_set hworker' with hmem | rfl
    · exact (h.workers worker' hmem).mono (fun _ _ hrequest => hrequest) hissued
    · refine ⟨hold, fun id hid => ?_⟩
      cases hid
      exact List.mem_append_right _ List.mem_cons_self
  replies reply hreply := by
    obtain ⟨request, hrequest, hanswered⟩ := h.replies reply hreply
    exact ⟨request, hrequest, hanswered.mono fun _ hid => List.mem_append_left _ hid⟩

theorem Served.finished (h : Served formatting host engine config Met s) {place : Nat}
    {worker : Worker} {id : Text} (hworker : s.workers[place]? = some worker)
    (numbered : worker.id = some id) {opening : Ω} {env : CallEnvironment Ω}
    (leaves : Option Nat) (met : Met opening env) :
    Served formatting host engine config Met { s with
      free := s.free + 1
      workers := s.workers.eraseIdx place
      replies := s.replies ++
        [(worker.request, workerReply host engine id worker.prepared opening env leaves)] } where
  slots := by
    have hslots := h.slots
    have hlt := (List.getElem?_eq_some_iff.mp hworker).1
    simp only [List.length_eraseIdx_of_lt hlt]
    omega
  places := by
    obtain ⟨hlt, rfl⟩ := List.getElem?_eq_some_iff.mp hworker
    have hworkers := (List.getElem_cons_eraseIdx_perm hlt).map Worker.request
    dsimp only
    rw [List.map_append, ← List.append_assoc]
    refine List.perm_append_comm.trans ?_
    exact (hworkers.append_right (s.replies.map Prod.fst)).trans h.places
  ordinal := h.ordinal
  issued := h.issued
  workers worker' hworker' := (h.workers worker' (List.mem_of_mem_eraseIdx hworker')).mono
    (fun _ _ hrequest => hrequest) fun _ hid => hid
  replies reply hreply := by
    rcases List.mem_append.mp hreply with hold | hnew
    · exact h.replies reply hold
    · have hworks := h.workers worker (List.mem_of_getElem? hworker)
      obtain ⟨request, hrequest, hvalid⟩ := hworks.prepared
      rw [List.mem_singleton.mp hnew]
      exact ⟨request, hrequest,
        .served _ hvalid id (hworks.given id numbered) opening env leaves met⟩

theorem Moved.served (hmoved : Moved formatting host engine config Met s s')
    (h : Served formatting host engine config Met s) :
    Served formatting host engine config Met s' := by
  cases hmoved with
  | same => exact h
  | refused request error herror => exact h.replied request (.refused error herror)
  | busy request prepared hvalid full => exact h.replied request (.busy prepared hvalid)
  | admitted request prepared free hvalid room => exact h.admitted hvalid room
  | numbered place nanos worker hworker unnumbered => exact h.numbered nanos hworker
  | finished place worker id opening env leaves hworker numbered met =>
      exact h.finished hworker numbered leaves met

theorem router_served (h : router config = .ok s) : Served formatting host engine config Met s := by
  obtain ⟨_, -, hstart⟩ := except_bind_ok_iff.mp h
  cases hstart
  refine ⟨rfl, List.Perm.refl _, rfl, ?_, ?_, ?_⟩
  · intro index id hid
    cases hid
  · intro worker hworker
    cases hworker
  · intro reply hreply
    cases hreply

theorem run_served {actions : List (Action Ω)}
    (meets : ∀ action ∈ actions, action.Meets Met)
    (h : Served formatting host engine config Met s) :
    Served formatting host engine config Met (run formatting host engine config actions s) := by
  induction actions generalizing s with
  | nil => exact h
  | cons action actions ih =>
      have hmoved :=
        step_moved formatting host engine config Met (meets action List.mem_cons_self) s
      exact ih (fun action' hmem => meets action' (List.mem_cons_of_mem action hmem))
        (hmoved.served h)

/-- Identifiers repeat only when the ordinals do. -/
theorem Served.nodup (h : Served formatting host engine config Met s)
    (few : s.issued.length ≤ 2 ^ 64) : s.issued.Nodup := by
  rw [List.nodup_iff_getElem?_ne_getElem?]
  intro i j hij hj hsame
  obtain ⟨nanos, hfirst⟩ := h.issued i _ (List.getElem?_eq_getElem (hij.trans hj))
  obtain ⟨nanos', hsecond⟩ := h.issued j _ (List.getElem?_eq_getElem hj)
  rw [List.getElem?_eq_getElem (hij.trans hj), List.getElem?_eq_getElem hj] at hsame
  have hordinal := completionId_ordinal (hfirst.symm.trans ((Option.some.inj hsame).trans hsecond))
  omega

/-- A valid request is told that the server is busy just where every slot has a worker. -/
theorem Served.busy_iff (h : Served formatting host engine config Met s)
    {request : ChatCompletionRequest} {prepared : PreparedRequest}
    (hvalid : admitRequest formatting config engine.model.vocabularySize request = .ok prepared) :
    (s.arrive formatting engine config request).replies =
        s.replies ++ [(s.requests.length, .error .ofBusy)] ↔
      s.workers.length = config.maxConcurrentRequests := by
  have hslots := h.slots
  unfold arrive
  rw [hvalid]
  dsimp only
  cases hfree : s.free with
  | zero =>
      refine ⟨fun _ => ?_, fun _ => rfl⟩
      omega
  | succ free =>
      refine ⟨fun hreplies => ?_, fun hfull => ?_⟩
      · have hlength := congrArg List.length hreplies
        simp only [List.length_append, List.length_singleton] at hlength
        omega
      · omega

/-- However requests come, workers are numbered and workers end: every slot is free or has one
worker; every request has its worker or its one reply, which answers that request; identifiers do
not repeat among the first `2 ^ 64`; and a valid request is told that the server is busy just where
every slot has a worker. -/
theorem clients_served {start : Slots} (router : router config = .ok start)
    {actions : List (Action Ω)} (meets : ∀ action ∈ actions, action.Meets Met) :
    let s := run formatting host engine config actions start
    s.free + s.workers.length = config.maxConcurrentRequests ∧
      (s.workers.map Worker.request ++ s.replies.map Prod.fst).Perm
        (List.range s.requests.length) ∧
      (∀ reply ∈ s.replies, ∃ request, s.requests[reply.1]? = some request ∧
        Answered formatting host engine config Met s.issued request reply.2) ∧
      (s.issued.length ≤ 2 ^ 64 → s.issued.Nodup) ∧
      ∀ request prepared,
        admitRequest formatting config engine.model.vocabularySize request = .ok prepared →
        ((s.arrive formatting engine config request).replies =
            s.replies ++ [(s.requests.length, .error .ofBusy)] ↔
          s.workers.length = config.maxConcurrentRequests) := by
  intro s
  have hserved : Served formatting host engine config Met s :=
    run_served meets (router_served router)
  exact ⟨hserved.slots, hserved.places, hserved.replies, hserved.nodup,
    fun request prepared hvalid => hserved.busy_iff hvalid⟩

end Moves

end Slots
end Steps

/-! ### Two clients and one slot -/

def soleFormatting : Formatting := ⟨fun _ => "", fun _ => "", fun _ => .error "", fun _ => true⟩

def soleEngine :
    Hy3ChatEngine (World Unit) Hy3ScalarSession (Hy3ScalarError Unit) Unit Unit Value :=
  ⟨GenerationSession.smallCausal, GenerationSession.greedyHost, soleTokenizer, Nat.zero_lt_one⟩

def soleChat : ChatCompletionRequest where
  model := none
  messages := [⟨"user".toList, some (.string ['z']), none, []⟩]
  maxTokens := some 1
  maxCompletionTokens := none
  temperature := none
  topP := none
  topK := none
  repetitionPenalty := none
  repetitionWindow := none
  seed := none
  reasoningEffort := none
  tools := []
  stream := true
  n := none
  stop := none
  streamOptions := none

/-- The second client comes before the worker of the first has its identifier. -/
def afterTwo (start : Slots) : Slots :=
  Slots.run soleFormatting soleHost soleEngine ⟨1, 1, 1⟩
    [.arrive soleChat, .arrive soleChat, .number 0 0] start

theorem clients_served_two : ∃ start, Slots.router ⟨1, 1, 1⟩ = .ok start ∧
    (afterTwo start).free + (afterTwo start).workers.length = 1 ∧
    ((afterTwo start).workers.map Worker.request ++ (afterTwo start).replies.map Prod.fst).Perm
      (List.range (afterTwo start).requests.length) := by
  let start : Slots := ⟨1, 0, [], [], [], []⟩
  have hrouter : Slots.router ⟨1, 1, 1⟩ = .ok start := rfl
  have hmeets : ∀ action ∈ [Action.arrive soleChat, .arrive soleChat, .number 0 0],
      action.Meets fun (_ : World Unit) _ => True := by
    intro action hmem
    rcases List.mem_cons.mp hmem with rfl | hmem
    · trivial
    · rcases List.mem_cons.mp hmem with rfl | hmem
      · trivial
      · rw [List.mem_singleton.mp hmem]
        trivial
  obtain ⟨hslots, hplaces, -⟩ := @Slots.clients_served _ _ _ _ _ soleFormatting soleHost soleEngine
    _ _ _ hrouter _ hmeets
  exact ⟨start, hrouter, hslots, hplaces⟩

end LightBridge.Server

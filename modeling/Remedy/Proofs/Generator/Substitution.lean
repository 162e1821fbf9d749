import Remedy.Proofs.Generator.Traffic

/-!
# Requests in the place of others

What a transport does not look at cannot make a difference to anything but the requests themselves.
If it treats a request and the one in its place alike, then posting either leads to the same state
and the same result by the same events, with one request in the place of the other. For a client
that is so with its key, which stands in the parameters of its requests and nowhere else.
-/

set_option autoImplicit false

namespace Remedy

/-! ## Events and activities with other requests -/

def Event.mapRequest (f : Request → Request) : Event → Event
  | .post request => .post (f request)
  | event => event

def Journal.mapRequests (f : Request → Request) (journal : Journal) : Journal :=
  journal.map (Event.mapRequest f)

def Step.mapRequests {σ α : Type} (f : Request → Request) (step : Step σ α) : Step σ α :=
  { step with journal := step.journal.mapRequests f }

def Generator.mapRequests {σ : Type} (f : Request → Request) (generate : Generator σ) :
    Generator σ :=
  fun prompt asked => (generate prompt asked).mapRequests f

namespace Journal

variable (f : Request → Request)

@[simp] theorem mapRequests_nil : mapRequests f [] = [] := rfl

@[simp] theorem mapRequests_cons (event : Event) (rest : Journal) :
    mapRequests f (event :: rest) = event.mapRequest f :: rest.mapRequests f := rfl

@[simp] theorem mapRequests_append (a b : Journal) :
    (a ++ b).mapRequests f = a.mapRequests f ++ b.mapRequests f :=
  List.map_append ..

theorem requests_mapRequests (journal : Journal) :
    (journal.mapRequests f).requests = journal.requests.map f := by
  induction journal with
  | nil => rfl
  | cons event rest ih =>
    rw [mapRequests_cons]
    cases event <;> simpa [requests, Event.mapRequest] using ih

theorem others_mapRequests (journal : Journal) :
    (journal.mapRequests f).records = journal.records ∧
      (journal.mapRequests f).consultations = journal.consultations ∧
      (journal.mapRequests f).prompts = journal.prompts ∧
      (journal.mapRequests f).pauses = journal.pauses := by
  induction journal with
  | nil => exact ⟨rfl, rfl, rfl, rfl⟩
  | cons event rest ih =>
    rw [mapRequests_cons]
    cases event <;>
      simpa [records, consultations, prompts, pauses, Event.mapRequest] using ih

theorem atLeast_mapRequests (threshold : LogLevel) (journal : Journal) :
    (journal.mapRequests f).atLeast threshold = (journal.atLeast threshold).mapRequests f := by
  have shows (event : Event) :
      (event.mapRequest f).shows threshold = event.shows threshold := by
    cases event <;> rfl
  induction journal with
  | nil => rfl
  | cons event rest ih =>
    rw [mapRequests_cons, atLeast_cons, atLeast_cons, shows, ih]
    split <;> rfl

theorem mapRequests_eq_self {journal : Journal}
    (same : ∀ request ∈ journal.requests, f request = request) :
    journal.mapRequests f = journal := by
  induction journal with
  | nil => rfl
  | cons event rest ih =>
    rw [mapRequests_cons]
    cases event with
    | post request =>
      obtain ⟨here, later⟩ := List.forall_mem_cons.mp same
      rw [Event.mapRequest, here, ih later]
    | _ => exact congrArg _ (ih same)

theorem mapRequests_of_requests_nil {journal : Journal} (quiet : journal.requests = []) :
    journal.mapRequests f = journal := by
  refine mapRequests_eq_self f fun request member => ?_
  rw [quiet] at member
  cases member

theorem mapRequests_of_traffic_nil {journal : Journal} (quiet : journal.traffic = []) :
    journal.mapRequests f = journal := by
  apply mapRequests_of_requests_nil
  rw [← requests_traffic, quiet]
  rfl

end Journal

namespace Step

variable {σ α β : Type} (f : Request → Request)

@[simp] theorem mapRequests_state (step : Step σ α) :
    (step.mapRequests f).state = step.state := rfl

@[simp] theorem mapRequests_result (step : Step σ α) :
    (step.mapRequests f).result = step.result := rfl

@[simp] theorem mapRequests_done (state : σ) (value : α) :
    (done state value).mapRequests f = done state value := rfl

@[simp] theorem mapRequests_halted (state : σ) (halt : Halt) :
    (halted state halt : Step σ α).mapRequests f = halted state halt := rfl

@[simp] theorem mapRequests_attempt (state : σ) (result : Except Fault α) :
    (attempt state result).mapRequests f = attempt state result := rfl

theorem map_mapRequests (change : α → β) (step : Step σ α) :
    (step.mapRequests f).map change = (step.map change).mapRequests f := rfl

theorem mapRequests_after (journal : Journal) (step : Step σ α) :
    (step.after journal).mapRequests f = (step.mapRequests f).after (journal.mapRequests f) := by
  simp [mapRequests, after]

theorem mapRequests_andThen (step : Step σ α) (next : α → σ → Step σ β) :
    (step.andThen next).mapRequests f =
      (step.mapRequests f).andThen fun value state => (next value state).mapRequests f := by
  obtain ⟨journal, state, result⟩ := step
  cases result with
  | error halt => rfl
  | ok value => exact mapRequests_after f journal (next value state)

/-- What is said before an activity can be left as it is if no request is among it. -/
theorem mapRequests_after_quiet {journal : Journal} (quiet : journal.traffic = [])
    (step : Step σ α) :
    (step.after journal).mapRequests f = (step.mapRequests f).after journal := by
  rw [mapRequests_after, Journal.mapRequests_of_traffic_nil f quiet]

end Step

/-! ## Requests with retries -/

/-- A transport that treats a request and the one in its place alike. -/
def Transport.Blind {σ : Type} (transport : Transport σ) (f : Request → Request) : Prop :=
  ∀ request state, transport (f request) state = transport request state

namespace Retry

variable [Interpreter] {σ : Type} {transport : Transport σ} {f : Request → Request}
  (blind : transport.Blind f)
  (policy : RetryPolicy) (provider : String) (request : Request)

include blind

theorem attemptFrom_mapRequests (attempts left attempt : Nat) (state : σ) :
    attemptFrom transport policy provider (f request) attempts left attempt state =
      (attemptFrom transport policy provider request attempts left attempt
        state).mapRequests f := by
  induction left using Nat.strongRecOn generalizing attempt state with
  | ind left ih =>
    rw [attemptFrom.eq_def transport policy provider (f request),
      attemptFrom.eq_def transport policy provider request]
    simp only [blind request]
    cases judged : judge provider (transport request state).1 with
    | interrupted => rfl
    | settled result => cases result <;> rfl
    | again error =>
      cases left with
      | zero => rfl
      | succ fewer =>
        cases paused : interlude policy error attempt attempts with
        | error fault => simp only [paused]; rfl
        | ok between =>
          have kept := Journal.mapRequests_of_traffic_nil f (traffic_interlude paused)
          simp only [paused, ih fewer (Nat.lt_succ_self fewer), Step.mapRequests_after,
            Journal.mapRequests_append, kept]
          rfl

theorem post_mapRequests (state : σ) :
    post transport policy provider (f request) state =
      (post transport policy provider request state).mapRequests f := by
  unfold post
  split
  · rfl
  · exact attemptFrom_mapRequests blind policy provider request _ _ _ state

end Retry

/-! ## Keys -/

def Request.withKey (key : Value) (request : Request) : Request :=
  { request with parameters := request.parameters.map fun
      | .map entries => .map (entries.map fun
          | (.str "key", _) => (.str "key", key)
          | entry => entry)
      | parameters => parameters }

/-- A transport that does not look at the parameters of a request, as one that plays back responses
and failures. -/
def Transport.IgnoresParameters {σ : Type} (transport : Transport σ) : Prop :=
  ∀ request parameters state,
    transport { request with parameters := parameters } state = transport request state

theorem Transport.IgnoresParameters.blind {σ : Type} {transport : Transport σ}
    (ignores : transport.IgnoresParameters) (key : Value) :
    transport.Blind (Request.withKey key) :=
  fun request state => ignores request _ state

def Service.withKey (key : Value) : Service → Service
  | gemini _ model => gemini key model
  | ollama model address => ollama model address

def Client.withKey (key : Value) (client : Client) : Client :=
  { client with service := client.service.withKey key }

namespace Client

variable {σ : Type}

theorem request_withKey (client : Client) (key : Value) (prompt : String) :
    (client.withKey key).request prompt = (client.request prompt).withKey key := by
  obtain ⟨service, policy⟩ := client
  cases service <;> rfl

theorem name_withKey (client : Client) (key : Value) :
    (client.withKey key).service.name = client.service.name := by
  obtain ⟨service, policy⟩ := client
  cases service <;> rfl

theorem callRecord_withKey (client : Client) (key : Value) (prompt : String) :
    (client.withKey key).service.callRecord prompt = client.service.callRecord prompt := by
  obtain ⟨service, policy⟩ := client
  cases service <;> rfl

theorem completion_withKey (client : Client) (key : Value) (members : Reply.Members) :
    (client.withKey key).service.completion members = client.service.completion members := by
  obtain ⟨service, policy⟩ := client
  cases service <;> rfl

/-- With another key a client does the same, but for the key in its requests. -/
theorem submit_withKey [Interpreter] (client : Client) (key : Value) {transport : Transport σ}
    (ignores : transport.IgnoresParameters) (prompt : String) (asked : σ) :
    (client.withKey key).submit transport prompt asked =
      (client.submit transport prompt asked).mapRequests (Request.withKey key) := by
  have posted := Retry.post_mapRequests (ignores.blind key) client.policy client.service.name
    (client.request prompt) asked
  have called : Journal.traffic [client.service.callRecord prompt] = [] :=
    client.service.traffic_callRecord prompt
  simp only [submit, request_withKey, name_withKey, callRecord_withKey,
    completion_withKey, Step.mapRequests_after_quiet _ called, Step.mapRequests_andThen]
  congr 1
  rw [show (client.withKey key).policy = client.policy from rfl, posted]
  congr 1
  funext members state
  have quiet := client.service.traffic_completion members
  split
  · next found =>
    rw [found] at quiet
    rw [Step.mapRequests_after_quiet _ quiet, Step.mapRequests_done]
  · next found =>
    rw [found] at quiet
    rw [Step.mapRequests_after_quiet _ quiet, Step.mapRequests_halted]

theorem generator_withKey [Interpreter] (client : Client) (key : Value)
    {transport : Transport σ} (ignores : transport.IgnoresParameters) :
    (client.withKey key).generator transport =
      Generator.mapRequests (Request.withKey key) (client.generator transport) := by
  funext prompt asked
  rw [generator, submit_withKey client key ignores, Step.map_mapRequests]
  rfl

end Client

end Remedy

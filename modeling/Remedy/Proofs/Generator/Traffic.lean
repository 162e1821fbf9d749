import Remedy.Generator.Service

/-!
# Requests of a prompt

A service answers a prompt by posting one request, again and again while its deliveries tell of a
passing trouble and retries are left. So a prompt leads to one request at least, to one more than
there are retries at most, and all of them are the same. A number of retries that does not count
anything, for it is positive but not whole, leads to no request at all.
-/

set_option autoImplicit false

namespace Remedy

/-! ## What is sent -/

/-- Whether an event is a text on its way to a generator: a prompt, or a request for it. -/
def Event.isSent : Event → Bool
  | prompt _ => true
  | post _ => true
  | _ => false

namespace Journal

def traffic (journal : Journal) : Journal :=
  journal.filter Event.isSent

@[simp] theorem traffic_nil : traffic [] = [] := rfl

@[simp] theorem traffic_append (a b : Journal) : (a ++ b).traffic = a.traffic ++ b.traffic :=
  List.filter_append ..

theorem traffic_cons (event : Event) (rest : Journal) :
    traffic (event :: rest) = if event.isSent then event :: rest.traffic else rest.traffic :=
  List.filter_cons

@[simp] theorem traffic_post (request : Request) (rest : Journal) :
    traffic (.post request :: rest) = .post request :: rest.traffic := rfl

@[simp] theorem traffic_debug (message : String) (rest : Journal) :
    traffic (.debug message :: rest) = rest.traffic := rfl

@[simp] theorem traffic_error (message : String) (rest : Journal) :
    traffic (.error message :: rest) = rest.traffic := rfl

theorem prompts_traffic (journal : Journal) : journal.traffic.prompts = journal.prompts := by
  induction journal with
  | nil => rfl
  | cons event rest ih =>
    rw [traffic_cons]
    cases event <;> simpa [prompts, Event.isSent] using ih

theorem requests_traffic (journal : Journal) : journal.traffic.requests = journal.requests := by
  induction journal with
  | nil => rfl
  | cons event rest ih =>
    rw [traffic_cons]
    cases event <;> simpa [requests, Event.isSent] using ih

end Journal

/-! ## Requests with retries -/

namespace Retry

open Number

variable {σ : Type} {transport : Transport σ} {policy : RetryPolicy} {provider : String}
  {request : Request}

theorem traffic_interlude {error : GeneratorError} {attempt attempts : Nat} {between : Journal}
    (paused : interlude policy error attempt attempts = .ok between) : between.traffic = [] := by
  simp only [interlude] at paused
  split at paused
  · cases paused
  · next delay _ =>
    cases shown : oneDecimal delay with
    | error fault =>
      rw [shown] at paused
      cases paused
    | ok text =>
      rw [shown] at paused
      cases paused
      split <;> rfl

section Attempts

variable [Interpreter]

/-- One attempt: it posts the request, and that is all, or another attempt follows. -/
theorem journal_attemptFrom (attempts left attempt : Nat) (state : σ) :
    (attemptFrom transport policy provider request attempts left attempt state).journal =
        [.post request] ∨
      ∃ fewer between, left = fewer + 1 ∧ Journal.traffic between = [] ∧
        (attemptFrom transport policy provider request attempts left attempt state).journal =
          .post request :: (between ++
            (attemptFrom transport policy provider request attempts fewer (attempt + 1)
              (transport request state).2).journal) := by
  rw [attemptFrom.eq_def transport policy provider request attempts left attempt state]
  cases judged : judge provider (transport request state).1 with
  | interrupted => exact Or.inl (by simp only [judged]; rfl)
  | settled result => cases result <;> exact Or.inl (by simp only [judged]; rfl)
  | again error =>
    cases left with
    | zero => exact Or.inl (by simp only [judged]; rfl)
    | succ fewer =>
      cases paused : interlude policy error attempt attempts with
      | error fault => exact Or.inl (by simp only [judged, paused]; rfl)
      | ok between =>
        refine Or.inr ⟨fewer, between, rfl, traffic_interlude paused, ?_⟩
        simp only [judged, paused]
        rfl

/-- All attempts together post the same request, once and at most once more for each one left. -/
theorem traffic_attemptFrom (attempts left attempt : Nat) (state : σ) :
    ∃ posts, 1 ≤ posts ∧ posts ≤ left + 1 ∧
      (attemptFrom transport policy provider request attempts left attempt state).journal.traffic =
        List.replicate posts (.post request) := by
  induction left generalizing attempt state with
  | zero =>
    obtain once | ⟨fewer, between, more, -⟩ := journal_attemptFrom attempts 0 attempt state
    · rw [once]
      exact ⟨1, Nat.le_refl 1, Nat.le_refl 1, rfl⟩
    · cases more
  | succ left ih =>
    obtain once | ⟨fewer, between, more, quiet, again⟩ :=
      journal_attemptFrom attempts (left + 1) attempt state
    · rw [once]
      exact ⟨1, Nat.le_refl 1, Nat.le_add_left 1 _, rfl⟩
    · cases more
      obtain ⟨posts, one, bounded, later⟩ := ih (attempt + 1) (transport request state).2
      refine ⟨posts + 1, Nat.le_add_left 1 posts, Nat.succ_le_succ bounded, ?_⟩
      rw [again, Journal.traffic_post, Journal.traffic_append, quiet, List.nil_append, later]
      rfl

end Attempts

/-- How many requests a setting for retries allows for one prompt. If it is a whole number, one and
as many more as it says, if it is positive. Another number allows one request if it is not positive,
and none if it is, for then it counts nothing. -/
def Allows (retries : Value) (posts : Nat) : Prop :=
  match retries.quantity? with
  | some (.whole n) => 1 ≤ posts ∧ (posts : Int) ≤ max 0 n + 1
  | some (.real x) => posts = if (Quantity.whole 0).lt (.real x) then 0 else 1
  | none => False

theorem granted_eq_ok {retries allowed : Value} (grants : granted retries = .ok allowed) :
    ∃ quantity, retries.quantity? = some quantity ∧
      allowed = if (Quantity.whole 0).lt quantity then retries else .int 0 := by
  simp only [granted, Value.compare] at grants
  cases measured : retries.quantity? with
  | none =>
    rw [measured] at grants
    cases grants
  | some quantity =>
    rw [measured] at grants
    exact ⟨quantity, rfl, (Except.ok.inj grants).symm⟩

theorem count_of_granted {retries allowed : Value} {n : Int}
    (whole : retries.quantity? = some (.whole n)) (grants : granted retries = .ok allowed) :
    count allowed = .ok n.toNat := by
  obtain ⟨quantity, measured, chosen⟩ := granted_eq_ok grants
  cases whole.symm.trans measured
  by_cases positive : 0 < n
  · rw [if_pos (by simpa [Quantity.lt] using positive)] at chosen
    rw [chosen, count, whole]
  · rw [if_neg (by simpa [Quantity.lt] using positive)] at chosen
    have none : n.toNat = 0 := by omega
    rw [chosen, none]
    rfl

variable [Interpreter]

theorem traffic_post_of_count {retries : Nat} (counted : count policy.maxRetries = .ok retries)
    (state : σ) :
    ∃ posts, 1 ≤ posts ∧ posts ≤ retries + 1 ∧
      (post transport policy provider request state).journal.traffic =
        List.replicate posts (.post request) := by
  simp only [post, counted]
  exact traffic_attemptFrom (retries + 1) retries 1 state

/-- A granted number of retries leads to as many requests as the setting allows. -/
theorem traffic_post_of_granted {retries : Value}
    (grants : granted retries = .ok policy.maxRetries) (state : σ) :
    ∃ posts, Allows retries posts ∧
      (post transport policy provider request state).journal.traffic =
        List.replicate posts (.post request) := by
  obtain ⟨quantity, measured, chosen⟩ := granted_eq_ok grants
  simp only [Allows, measured]
  cases quantity with
  | whole n =>
    obtain ⟨posts, one, bounded, sent⟩ :=
      traffic_post_of_count (count_of_granted measured grants) state
    exact ⟨posts, ⟨one, by omega⟩, sent⟩
  | real x =>
    by_cases positive : (Quantity.whole 0).lt (.real x) = true
    · rw [if_pos positive] at chosen
      have counted : count policy.maxRetries = .error (.notWhole "float") := by
        rw [chosen, count, measured]
      refine ⟨0, (if_pos positive).symm, ?_⟩
      rw [post, counted]
      rfl
    · rw [if_neg positive] at chosen
      have counted : count policy.maxRetries = .ok 0 := by
        rw [chosen]
        rfl
      obtain ⟨posts, one, bounded, sent⟩ := traffic_post_of_count counted state
      exact ⟨posts, (Nat.le_antisymm bounded one).trans (if_neg positive).symm, sent⟩

end Retry

/-! ## Clients -/

variable {σ : Type}

/-- Whether a generator answers every prompt by posting the request for it, as many times as is
allowed, and sends nothing else. -/
def Generator.Posts (generate : Generator σ) (request : String → Request)
    (allowed : Nat → Prop) : Prop :=
  ∀ prompt asked, ∃ posts, allowed posts ∧
    (generate prompt asked).journal.traffic = List.replicate posts (.post (request prompt))

theorem Service.traffic_callRecord (service : Service) (prompt : String) :
    Journal.traffic [service.callRecord prompt] = [] := by
  cases service <;> rfl

theorem Service.traffic_completion (service : Service) (members : Reply.Members) :
    (service.completion members).1.traffic = [] := by
  cases service with
  | gemini key model =>
    simp only [completion]
    split
    · split <;> rfl
    · rfl
  | ollama model address =>
    simp only [completion]
    split <;> rfl

namespace Client

theorem traffic_submit [Interpreter] (client : Client) (transport : Transport σ)
    (prompt : String) (asked : σ) :
    (client.submit transport prompt asked).journal.traffic =
      (Retry.post transport client.policy client.service.name (client.request prompt)
        asked).journal.traffic := by
  simp only [submit, Step.after_journal, Journal.traffic_append, Service.traffic_callRecord,
    List.nil_append, Step.andThen]
  split
  · rfl
  · next members _ =>
    have quiet := client.service.traffic_completion members
    split
    · next found =>
      rw [found] at quiet
      simp only [Step.after_journal, Journal.traffic_append, quiet]
      simp [Step.done]
    · next found =>
      rw [found] at quiet
      simp only [Step.after_journal, Journal.traffic_append, quiet]
      simp [Step.halted]

theorem policy_of_ofSettings {settings : Settings} {client : Client}
    (served : ofSettings settings = .ok client) :
    ∃ retries, Retry.granted (settings .maxRetries) = .ok retries ∧
      client.policy = ⟨settings .requestTimeout, retries, settings .retryDelay⟩ := by
  have policed {service : Except Fault Service}
      (served : withPolicy settings service = .ok client) :
      ∃ retries, Retry.granted (settings .maxRetries) = .ok retries ∧
        client.policy = ⟨settings .requestTimeout, retries, settings .retryDelay⟩ := by
    simp only [withPolicy] at served
    split at served
    · cases served
    · next retries granted =>
      cases service with
      | error fault => cases served
      | ok service =>
        cases served
        exact ⟨retries, granted, rfl⟩
  simp only [ofSettings] at served
  split at served
  · cases served
  · split at served
    · split at served
      · exact policed served
      · cases served
    · split at served
      · exact policed served
      · cases served

theorem granted_of_ofSettings {settings : Settings} {client : Client}
    (served : ofSettings settings = .ok client) :
    Retry.granted (settings .maxRetries) = .ok client.policy.maxRetries := by
  obtain ⟨retries, granted, policy⟩ := policy_of_ofSettings served
  rw [granted, policy]

theorem generator_posts [Interpreter] {settings : Settings} {client : Client}
    (served : ofSettings settings = .ok client) (transport : Transport σ) :
    Generator.Posts (client.generator transport) client.request
      (Retry.Allows (settings .maxRetries)) := by
  intro prompt asked
  rw [generator, Step.map_journal, traffic_submit]
  exact Retry.traffic_post_of_granted (granted_of_ofSettings served) asked

end Client

end Remedy

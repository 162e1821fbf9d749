import Remedy.Proofs.Generator.Backoff

/-!
# Statuses of responses

A prompt ends with its last delivery, or in a pause that cannot be told because the delay has no
size or grew beyond that of a number (`attemptFrom_endsAt`). A status from 400 to 599 makes the last
response a failure that carries it. Every other response is read as an answer, also one whose status
is no success: that a client heeds the statuses of its responses is so exactly as long as no such
response holds an object.
-/

set_option autoImplicit false

namespace Remedy

/-- The pause after a failed attempt, counted from one, is none that can be told. -/
def RetryPolicy.Stalls (policy : RetryPolicy) (attempt : Nat) : Prop :=
  ∀ delay text, Retry.pauseAfter policy attempt = .ok delay →
    Retry.oneDecimal delay ≠ .ok text

/-- After an attempt others are left, but the pause before them cannot be told. -/
def RetryPolicy.StallsAfter (policy : RetryPolicy) (attempt : Nat) : Prop :=
  (∃ retries, Retry.count policy.maxRetries = .ok retries ∧ attempt ≤ retries) ∧
    policy.Stalls attempt

/-- A delay that is a whole number, or a real number that does not double too often for its size. -/
def RetryPolicy.Paced (policy : RetryPolicy) : Prop :=
  (∃ delay, policy.delay.quantity? = some (.whole delay) ∧ 0 ≤ delay) ∨
    ∃ x retries, policy.delay = .float x ∧ Retry.count policy.maxRetries = .ok retries ∧
      retries ≤ 1024

namespace Retry

open Number

/-- The statuses that tell of a success. -/
def IsSuccess (status : Nat) : Prop :=
  200 ≤ status ∧ status < 300

instance (status : Nat) : Decidable (IsSuccess status) :=
  inferInstanceAs (Decidable (200 ≤ status ∧ status < 300))

/-! ## Pauses that can be told -/

section Policy

variable {policy : RetryPolicy}

theorem pauseAfter_ne_generator {attempt : Nat} {fault : Fault}
    (failed : pauseAfter policy attempt = .error fault) (error : GeneratorError) :
    fault ≠ .generator error := by
  rintro rfl
  rw [pauseAfter] at failed
  cases delayed : policy.delay <;> rw [delayed] at failed <;> simp only [doubled] at failed <;>
    try cases failed
  split at failed <;> cases failed

theorem oneDecimal_ne_generator {delay : Quantity} {fault : Fault}
    (failed : oneDecimal delay = .error fault) (error : GeneratorError) :
    fault ≠ .generator error := by
  rintro rfl
  cases delay with
  | real x => cases failed
  | whole n =>
    simp only [oneDecimal] at failed
    split at failed <;> cases failed

theorem interlude_cases (policy : RetryPolicy) (error : GeneratorError) (attempt attempts : Nat) :
    (∃ between, interlude policy error attempt attempts = .ok between ∧
        Journal.requests between = []) ∨
      policy.Stalls attempt ∧ ∃ fault, (∀ cause, fault ≠ .generator cause) ∧
        interlude policy error attempt attempts = .error fault := by
  cases told : pauseAfter policy attempt with
  | error fault =>
    right
    refine ⟨fun delay text paused => ?_, fault, pauseAfter_ne_generator told, ?_⟩
    · rw [told] at paused
      cases paused
    · simp only [interlude, told]
  | ok delay =>
    cases shown : oneDecimal delay with
    | error fault =>
      right
      refine ⟨fun other text paused => ?_, fault, oneDecimal_ne_generator shown, ?_⟩
      · rw [told] at paused
        cases paused
        rw [shown]
        intro same
        cases same
      · simp only [interlude, told, shown, Except.map]
    | ok text =>
      left
      simp only [interlude, told, shown, Except.map]
      refine ⟨_, rfl, ?_⟩
      split <;> rfl

theorem not_stalls_of_whole {delay : Int} (delayed : policy.delay.quantity? = some (.whole delay))
    (nonneg : 0 ≤ delay) (attempt : Nat) : ¬ policy.Stalls attempt := by
  intro stalls
  obtain ⟨text, shown⟩ := oneDecimal_backoff nonneg attempt
  exact stalls _ text (pauseAfter_eq delayed attempt) shown

theorem not_stalls_of_real {x : Binary64} (delayed : policy.delay = .float x) {attempt : Nat}
    (early : attempt ≤ 1024) : ¬ policy.Stalls attempt := by
  intro stalls
  have grown : pauseAfter policy attempt = .ok (capped (.real (x.scale (attempt - 1)))) := by
    rw [pauseAfter, delayed, doubled, if_neg (by omega)]
    rfl
  obtain ⟨y, isReal⟩ : ∃ y, capped (.real (x.scale (attempt - 1))) = .real y := by
    unfold capped
    split <;> exact ⟨_, rfl⟩
  exact stalls _ _ grown (by rw [isReal]; rfl)

theorem not_stallsAfter (paced : policy.Paced) (attempt : Nat) : ¬ policy.StallsAfter attempt := by
  rintro ⟨⟨retries, counted, granted⟩, stalls⟩
  rcases paced with ⟨delay, whole, nonneg⟩ | ⟨x, most, real, countedToo, few⟩
  · exact not_stalls_of_whole whole nonneg attempt stalls
  · obtain rfl : most = retries := Except.ok.inj (countedToo.symm.trans counted)
    exact not_stalls_of_real real (granted.trans few) stalls

end Policy

/-! ## Where attempts end -/

variable [Interpreter] {σ : Type} {transport : Transport σ} {policy : RetryPolicy}
  {provider : String}
  {request : Request}

/-- How a request ends that came to a delivery, counted from zero: the delivery decides the result,
and a passing trouble does so only as the last one there may be, or no pause can be told. -/
inductive EndsAt (policy : RetryPolicy) (provider : String) (delivery : Nat → Delivery)
    (left attempt last : Nat) (result : Except Halt Reply.Members) : Prop where
  | decided (result_eq : result = verdict provider (delivery last))
      (final : (delivery last).isPassing = true → last = left)
  | stalled {fault : Fault} (result_eq : result = .error (.fault fault))
      (other : ∀ error, fault ≠ .generator error) (passing : (delivery last).isPassing = true)
      (more : last < left) (stalls : policy.Stalls (attempt + last))

theorem EndsAt.later {delivery : Nat → Delivery} {left attempt last : Nat}
    {result : Except Halt Reply.Members}
    (ends : EndsAt policy provider (fun n => delivery (n + 1)) left (attempt + 1) last result) :
    EndsAt policy provider delivery (left + 1) attempt (last + 1) result := by
  cases ends with
  | decided result_eq final =>
    exact .decided result_eq fun passing => congrArg (· + 1) (final passing)
  | stalled result_eq other passing more stalls =>
    refine .stalled result_eq other passing (Nat.succ_lt_succ more) ?_
    rwa [show attempt + (last + 1) = attempt + 1 + last by omega]

/-- After a passing trouble with attempts left there is another attempt, or no pause. -/
theorem attemptFrom_next (policy : RetryPolicy) (provider : String)
    (attempts left attempt : Nat) {state : σ}
    (passing : (transport request state).1.isPassing = true) :
    (∃ between, Journal.requests between = [] ∧
      attemptFrom transport policy provider request attempts (left + 1) attempt state =
        (attemptFrom transport policy provider request attempts left (attempt + 1)
          (transport request state).2).after (.post request :: between)) ∨
    policy.Stalls attempt ∧ ∃ fault, (∀ error, fault ≠ .generator error) ∧
      attemptFrom transport policy provider request attempts (left + 1) attempt state =
        ⟨[.post request], (transport request state).2, .error (.fault fault)⟩ := by
  obtain ⟨error, judged, -⟩ := verdict_of_passing provider passing
  rw [attemptFrom.eq_def transport policy provider request attempts (left + 1)]
  obtain ⟨between, paused, quiet⟩ | ⟨stalls, fault, other, paused⟩ :=
    interlude_cases policy error attempt attempts
  · left
    refine ⟨between, quiet, ?_⟩
    simp only [judged, paused]
    rfl
  · right
    refine ⟨stalls, fault, other, ?_⟩
    simp only [judged, paused]
    rfl

theorem attemptFrom_endsAt (attempts left attempt : Nat) (state : σ) :
    ∃ last ≤ left,
      (attemptFrom transport policy provider request attempts left attempt
        state).journal.requests = List.replicate (last + 1) request ∧
      EndsAt policy provider (transport.delivery request state) left attempt last
        (attemptFrom transport policy provider request attempts left attempt state).result := by
  induction left generalizing attempt state with
  | zero =>
    have alone : attemptFrom transport policy provider request attempts 0 attempt state =
        ⟨[.post request], (transport request state).2,
          verdict provider (transport request state).1⟩ := by
      cases passing : (transport request state).1.isPassing with
      | false => exact attemptFrom_of_not_passing attempts 0 attempt passing
      | true => exact attemptFrom_last attempts attempt passing
    rw [alone]
    exact ⟨0, Nat.le_refl 0, rfl, .decided rfl fun _ => rfl⟩
  | succ left ih =>
    cases passing : (transport request state).1.isPassing with
    | false =>
      rw [attemptFrom_of_not_passing attempts (left + 1) attempt passing]
      refine ⟨0, Nat.zero_le _, rfl, .decided rfl fun again => ?_⟩
      rw [Transport.delivery, passing] at again
      cases again
    | true =>
      obtain ⟨between, quiet, next⟩ | ⟨stalls, fault, other, next⟩ :=
        attemptFrom_next policy provider attempts left attempt passing
      · obtain ⟨last, reached, requests, ends⟩ := ih (attempt + 1) (transport request state).2
        refine ⟨last + 1, Nat.succ_le_succ reached, ?_, ?_⟩
        · have posted : Journal.requests (.post request :: between) = [request] :=
            congrArg (request :: ·) quiet
          rw [next, Step.after_journal, Journal.requests_append, requests, posted]
          rfl
        · rw [next, Step.after_result]
          exact EndsAt.later ends
      · rw [next]
        exact ⟨0, Nat.zero_le _, rfl, .stalled rfl other passing (Nat.succ_pos left) stalls⟩

/-- A request that was posted at all was granted a number of retries, and ends at the delivery of
its last post. -/
theorem post_endsAt {state : σ} {last : Nat}
    (posted : (post transport policy provider request state).journal.requests.length = last + 1) :
    ∃ retries, count policy.maxRetries = .ok retries ∧
      EndsAt policy provider (transport.delivery request state) retries 1 last
        (post transport policy provider request state).result := by
  simp only [post] at posted ⊢
  cases counted : count policy.maxRetries with
  | error fault =>
    rw [counted] at posted
    cases posted
  | ok retries =>
    simp only [counted] at posted ⊢
    obtain ⟨reached, -, requests, ends⟩ := @attemptFrom_endsAt _ σ transport policy provider request
      (retries + 1) retries 1 state
    rw [requests, List.length_replicate] at posted
    obtain rfl : reached = last := Nat.succ_inj.mp posted
    exact ⟨retries, rfl, ends⟩

theorem requests_of_post_ok {state : σ} {members : Reply.Members}
    (ended : (post transport policy provider request state).result = .ok members) :
    ∃ last, (post transport policy provider request state).journal.requests.length = last + 1 := by
  simp only [post] at ended ⊢
  cases counted : count policy.maxRetries with
  | error fault =>
    rw [counted] at ended
    cases ended
  | ok retries =>
    obtain ⟨last, -, requests, -⟩ := @attemptFrom_endsAt _ σ transport policy provider request
      (retries + 1) retries 1 state
    exact ⟨last, by rw [requests, List.length_replicate]⟩

theorem verdict_eq_ok {delivery : Delivery} {members : Reply.Members}
    (ended : verdict provider delivery = .ok members) :
    ∃ status body, delivery = .response status body ∧ isErrorStatus status = false ∧
      Body.members provider status body = .ok members := by
  cases delivery with
  | interrupted => cases ended
  | failure kind text => cases ended
  | response status body =>
    simp only [verdict] at ended
    split at ended
    · cases ended
    · split at ended
      · cases ended
      · next noError =>
        cases read : Body.members provider status body with
        | error fault =>
          rw [read] at ended
          cases ended
        | ok found =>
          rw [read] at ended
          cases ended
          exact ⟨status, body, rfl, eq_false_of_ne_true noError, read⟩

theorem verdict_of_isErrorStatus {status : Nat} (failed : isErrorStatus status = true)
    (body : List UInt8) : ∃ error,
      verdict provider (.response status body) = .error (.fault (.generator error)) ∧
        error.statusCode = status := by
  simp only [verdict, failed, if_true]
  split
  · exact ⟨_, rfl, rfl⟩
  · exact ⟨_, rfl, rfl⟩

theorem verdict_of_not_isErrorStatus {status : Nat} (noError : isErrorStatus status = false)
    (body : List UInt8) : verdict provider (.response status body) =
      (Body.members provider status body).mapError .fault := by
  have decisive : transientStatuses.contains status = false := by
    refine eq_false_of_ne_true fun passing => ?_
    rw [isErrorStatus_of_transient passing] at noError
    cases noError
  simp only [verdict, decisive, noError, Bool.false_eq_true, if_false]

end Retry

/-! ## Answers of a service -/

namespace Service

/-- What a service makes of a response that reports no error. -/
def reading [Interpreter] (service : Service) (status : Nat) (body : List UInt8) :
    Except Fault (Option (List Text.Point)) :=
  match Body.members service.name status body with
  | .error fault => .error fault
  | .ok members => (service.completion members).2.mapError .generator

/-- What is wrong with a candidate does not carry the status of the response. -/
theorem statusCode_of_completion {service : Service} {members : Reply.Members}
    {error : GeneratorError} (failed : (service.completion members).2 = .error error) :
    error.statusCode = 0 := by
  cases service with
  | gemini key model =>
    simp only [completion] at failed
    split at failed
    · split at failed
      · cases failed
        rfl
      · cases failed
    · cases failed
  | ollama model address =>
    simp only [completion] at failed
    split at failed <;> cases failed

end Service

namespace Client

section Submission

variable [Interpreter] {σ : Type} {client : Client} {transport : Transport σ} {prompt : String}
  {state : σ}

def ending (client : Client) :
    Except Halt Reply.Members → Except Halt (Option (List Text.Point))
  | .error halt => .error halt
  | .ok members =>
    (client.service.completion members).2.mapError fun error => .fault (.generator error)

theorem submit_result (client : Client) (transport : Transport σ) (prompt : String) (state : σ) :
    (client.submit transport prompt state).result =
      client.ending (Retry.post transport client.policy client.service.name
        (client.request prompt) state).result := by
  simp only [submit, Step.after_result, Step.andThen, ending]
  split
  · next halt ended => rw [ended]
  · next members ended =>
    rw [ended]
    simp only [Step.after_result]
    cases found : client.service.completion members with
    | mk journal result => cases result <;> rfl

/-- A prompt came to a delivery, after as many others, and to no more. -/
def Receives (client : Client) (transport : Transport σ) (prompt : String) (state : σ)
    (last : Nat) (delivery : Delivery) : Prop :=
  (client.submit transport prompt state).journal.requests.length = last + 1 ∧
    transport.delivery (client.request prompt) state last = delivery

theorem requests_submit (client : Client) (transport : Transport σ) (prompt : String)
    (state : σ) : (client.submit transport prompt state).journal.requests =
      (Retry.post transport client.policy client.service.name (client.request prompt)
        state).journal.requests := by
  rw [← Journal.requests_traffic, traffic_submit, Journal.requests_traffic]

theorem Receives.unique {first second : Nat} {a b : Delivery}
    (received : client.Receives transport prompt state first a)
    (too : client.Receives transport prompt state second b) : first = second ∧ a = b := by
  obtain rfl : first = second := Nat.succ_inj.mp (received.1.symm.trans too.1)
  exact ⟨rfl, received.2.symm.trans too.2⟩

theorem Receives.endsAt {last : Nat} {delivery : Delivery}
    (received : client.Receives transport prompt state last delivery) :
    ∃ retries, Retry.count client.policy.maxRetries = .ok retries ∧
      Retry.EndsAt client.policy client.service.name
        (transport.delivery (client.request prompt) state) retries 1 last
        (Retry.post transport client.policy client.service.name (client.request prompt)
          state).result := by
  obtain ⟨posted, -⟩ := received
  rw [requests_submit] at posted
  exact Retry.post_endsAt posted

theorem receives_of_ok {completion : Option (List Text.Point)}
    (ended : (client.submit transport prompt state).result = .ok completion) :
    ∃ last status body, client.Receives transport prompt state last (.response status body) ∧
      Retry.isErrorStatus status = false ∧
      ∃ members, Body.members client.service.name status body = .ok members := by
  rw [submit_result] at ended
  cases posted : (Retry.post transport client.policy client.service.name (client.request prompt)
      state).result with
  | error halt =>
    rw [posted] at ended
    cases ended
  | ok members =>
    obtain ⟨last, requests⟩ := Retry.requests_of_post_ok posted
    obtain ⟨retries, -, ends⟩ := Retry.post_endsAt requests
    cases ends with
    | stalled result_eq =>
      rw [posted] at result_eq
      cases result_eq
    | decided result_eq =>
      rw [posted] at result_eq
      obtain ⟨status, body, delivered, noError, read⟩ := Retry.verdict_eq_ok result_eq.symm
      exact ⟨last, status, body, ⟨by rw [requests_submit, requests], delivered⟩, noError, members,
        read⟩

/-- A response that reports an error fails with its status, unless no pause can be told. -/
theorem submit_of_isErrorStatus {last status : Nat} {body : List UInt8}
    (received : client.Receives transport prompt state last (.response status body))
    (failed : Retry.isErrorStatus status = true)
    (paced : ¬ (Retry.transientStatuses.contains status = true ∧
      client.policy.StallsAfter (last + 1))) :
    ∃ error, (client.submit transport prompt state).result = .error (.fault (.generator error)) ∧
      error.statusCode = status := by
  obtain ⟨retries, counted, ends⟩ := received.endsAt
  rw [submit_result]
  cases ends with
  | decided result_eq =>
    obtain ⟨error, ended, carried⟩ := Retry.verdict_of_isErrorStatus failed body
    rw [result_eq, received.2, ended]
    exact ⟨error, rfl, carried⟩
  | stalled _ _ passing more stalls =>
    rw [received.2] at passing
    rw [Nat.add_comm] at stalls
    exact absurd ⟨passing, ⟨retries, counted, more⟩, stalls⟩ paced

theorem submit_of_stallsAfter {last status : Nat} {body : List UInt8}
    (received : client.Receives transport prompt state last (.response status body))
    (passing : Retry.transientStatuses.contains status = true)
    (stalls : client.policy.StallsAfter (last + 1)) :
    ∃ fault, (∀ error, fault ≠ .generator error) ∧
      (client.submit transport prompt state).result = .error (.fault fault) := by
  obtain ⟨retries, counted, ends⟩ := received.endsAt
  rw [submit_result]
  cases ends with
  | decided _ final =>
    obtain ⟨⟨most, countedToo, left⟩, -⟩ := stalls
    obtain rfl : most = retries := Except.ok.inj (countedToo.symm.trans counted)
    rw [received.2] at final
    exact absurd (final passing) (Nat.ne_of_lt left)
  | stalled result_eq other =>
    rw [result_eq]
    exact ⟨_, other, rfl⟩

theorem submit_of_not_isErrorStatus {last status : Nat} {body : List UInt8}
    (received : client.Receives transport prompt state last (.response status body))
    (noError : Retry.isErrorStatus status = false) :
    (client.submit transport prompt state).result =
      (client.service.reading status body).mapError .fault := by
  obtain ⟨retries, -, ends⟩ := received.endsAt
  rw [submit_result]
  cases ends with
  | stalled _ _ passing =>
    rw [received.2] at passing
    rw [Retry.isErrorStatus_of_transient passing] at noError
    cases noError
  | decided result_eq =>
    rw [result_eq, received.2, Retry.verdict_of_not_isErrorStatus noError, Service.reading]
    cases Body.members client.service.name status body with
    | error fault => rfl
    | ok members =>
      show client.ending (.ok members) =
        ((client.service.completion members).2.mapError .generator).mapError .fault
      rw [ending]
      cases (client.service.completion members).2 <;> rfl

/-- A client heeds statuses: a completion, or none, comes from a response of success, and a last
response of any other status is a failure that carries it. -/
def HeedsStatus (client : Client) (transport : Transport σ) (prompt : String) (state : σ) : Prop :=
  (∀ completion, (client.submit transport prompt state).result = .ok completion →
    ∃ last status body, client.Receives transport prompt state last (.response status body) ∧
      Retry.IsSuccess status) ∧
  ∀ last status body, client.Receives transport prompt state last (.response status body) →
    ¬ Retry.IsSuccess status →
    ∃ error, (client.submit transport prompt state).result = .error (.fault (.generator error)) ∧
      error.statusCode = status

/-- A last response that stands in the way of no law about statuses: it tells of a success, or of an
error while its pause, if there is one, can be told, or the service fails for it holds no object. -/
def Harmless (client : Client) (last status : Nat) (body : List UInt8) : Prop :=
  Retry.IsSuccess status ∨
    (Retry.isErrorStatus status = true ∧
      ¬ (Retry.transientStatuses.contains status = true ∧
        client.policy.StallsAfter (last + 1))) ∨
    (Retry.isErrorStatus status = false ∧
      ∃ error, Body.members client.service.name status body = .error (.generator error))

theorem heedsStatus_of_harmless
    (harmless : ∀ last status body,
      client.Receives transport prompt state last (.response status body) →
        client.Harmless last status body) : client.HeedsStatus transport prompt state := by
  constructor
  · intro completion ended
    obtain ⟨last, status, body, received, noError, members, read⟩ := receives_of_ok ended
    refine ⟨last, status, body, received, ?_⟩
    obtain success | ⟨failed, -⟩ | ⟨-, error, noObject⟩ := harmless last status body received
    · exact success
    · rw [failed] at noError
      cases noError
    · cases read.symm.trans noObject
  · intro last status body received noSuccess
    obtain success | ⟨failed, paced⟩ | ⟨noError, error, noObject⟩ :=
      harmless last status body received
    · exact absurd success noSuccess
    · exact submit_of_isErrorStatus received failed paced
    · rw [submit_of_not_isErrorStatus received noError, Service.reading, noObject]
      exact ⟨error, rfl, Retry.statusCode_of_members noObject⟩

theorem harmless_of_heedsStatus (heeds : client.HeedsStatus transport prompt state)
    {last status : Nat} {body : List UInt8}
    (received : client.Receives transport prompt state last (.response status body))
    (coded : 100 ≤ status) : client.Harmless last status body := by
  by_cases success : Retry.IsSuccess status
  · exact Or.inl success
  obtain ⟨error, ended, carried⟩ := heeds.2 last status body received success
  cases failed : Retry.isErrorStatus status with
  | true =>
    refine Or.inr (Or.inl ⟨failed, ?_⟩)
    rintro ⟨passing, stalls⟩
    obtain ⟨fault, other, stalled⟩ := submit_of_stallsAfter received passing stalls
    rw [stalled] at ended
    cases ended
    exact other error rfl
  | false =>
    refine Or.inr (Or.inr ⟨failed, ?_⟩)
    rw [submit_of_not_isErrorStatus received failed] at ended
    simp only [Service.reading] at ended
    cases read : Body.members client.service.name status body with
    | error fault =>
      rw [read] at ended
      cases ended
      exact ⟨error, rfl⟩
    | ok members =>
      rw [read] at ended
      cases found : (client.service.completion members).2 with
      | ok completion =>
        simp only [found] at ended
        cases ended
      | error cause =>
        simp only [found] at ended
        cases ended
        have none := Service.statusCode_of_completion found
        omega

/-- A client heeds the statuses of responses exactly as long as the last one is harmless. A last
response that reports no error is read as an answer, whatever its status; and the pauses of a paced
policy can all be told. -/
theorem heedsStatus_iff (client : Client) (transport : Transport σ) (prompt : String) (state : σ)
    (coded : ∀ n status body,
      transport.delivery (client.request prompt) state n = .response status body →
        100 ≤ status) :
    (client.HeedsStatus transport prompt state ↔
      ∀ last status body, client.Receives transport prompt state last (.response status body) →
        client.Harmless last status body) ∧
    (∀ last status body, client.Receives transport prompt state last (.response status body) →
      Retry.isErrorStatus status = false →
      (client.submit transport prompt state).result =
        (client.service.reading status body).mapError .fault) ∧
    (client.policy.Paced → ∀ attempt, ¬ client.policy.StallsAfter attempt) := by
  refine ⟨⟨fun heeds last status body received => ?_, heedsStatus_of_harmless⟩,
    fun last status body received => submit_of_not_isErrorStatus received,
    Retry.not_stallsAfter⟩
  exact harmless_of_heedsStatus heeds received (coded last status body received.2)

end Submission

/-- A service is out of order, and then has too much to do: the failure is that of the last
attempt. -/
theorem heedsStatus_iff_last_attempt :
    let transport : Transport Nat := fun _ asked =>
      (.response (if asked = 0 then 503 else 429) [], asked + 1)
    let client : Client := ⟨.ollama (.str "llama3") "http://localhost",
      .int 120, .int 1, .float (.ofRatio false 1 2)⟩
    (∀ n status body,
        transport.delivery (client.request "fix") 0 n = .response status body → 100 ≤ status) ∧
      client.policy.Paced ∧
      client.Receives transport "fix" 0 1 (.response 429 []) ∧
      ∃ error, (client.submit transport "fix" 0).result = .error (.fault (.generator error)) ∧
        error.statusCode = 429 := by
  intro transport client
  have coded : ∀ n asked status body,
      transport.delivery (client.request "fix") asked n = .response status body →
        100 ≤ status := by
    intro n
    induction n with
    | zero =>
      intro asked status body delivered
      cases delivered
      split <;> decide
    | succ n ih => exact fun asked => ih (asked + 1)
  have received : client.Receives transport "fix" 0 1 (.response 429 []) :=
    ⟨by decide +kernel, rfl⟩
  have paced : client.policy.Paced := Or.inr ⟨_, 1, rfl, rfl, by decide⟩
  obtain ⟨heeds, -, told⟩ := heedsStatus_iff client transport "fix" 0 (coded · 0)
  have harmless : ∀ last status body,
      client.Receives transport "fix" 0 last (.response status body) →
        client.Harmless last status body := by
    intro last status body received'
    obtain ⟨rfl, same⟩ := received.unique received'
    cases same
    exact Or.inr (Or.inl ⟨by decide, fun stalled => told paced 2 stalled.2⟩)
  exact ⟨(coded · 0), paced, received,
    (heeds.mpr harmless).2 1 429 [] received (by decide)⟩

/-- A redirection is taken for an answer. -/
theorem redirection_answers :
    let transport : Transport Unit := fun _ asked =>
      (.response 302 (Text.Utf8.encode "\x7b\"response\": \"a;\"\x7d"), asked)
    let client : Client := ⟨.ollama (.str "llama3") "http://localhost",
      .int 120, .int 2, .int 1⟩
    (client.submit transport "fix" ()).result.toOption = some (some (Text.points "a;")) ∧
      ¬ client.HeedsStatus transport "fix" () := by
  intro transport client
  have answered : (client.submit transport "fix" ()).result.toOption =
      some (some (Text.points "a;")) := by
    decide +kernel
  have received : client.Receives transport "fix" () 0
      (.response 302 (Text.Utf8.encode "\x7b\"response\": \"a;\"\x7d")) :=
    ⟨by decide +kernel, rfl⟩
  refine ⟨answered, fun heeds => ?_⟩
  obtain ⟨error, ended, -⟩ := heeds.2 0 302 _ received (by decide)
  rw [ended] at answered
  cases answered

end Client

end Remedy

import Mathlib.Data.Nat.Find
import Remedy.Proofs.Generator.Statuses
import Remedy.Proofs.Number.Range
import Remedy.Settings.Check

/-!
# Delays that outgrow their numbers

The delay of a request is doubled from attempt to attempt and cut to thirty seconds only afterwards.
As long as it can be doubled and told, a request that meets nothing but passing troubles is posted
as often as retries are granted and fails with the last of them. A delay that is a real number
cannot be multiplied by two to the power of 1024, though, and one that is a whole number below zero
comes to the end of the range in which it can be told. A request breaks off there, with a fault that
is none of its generator.
-/

set_option autoImplicit false

namespace Remedy

open Number

/-- After so many doublings a delay makes no pause that could be told. -/
def Number.Quantity.Outgrown (delay : Quantity) (doublings : Nat) : Prop :=
  match delay with
  | .real _ => 1024 ≤ doublings
  | .whole n => n * 2 ^ doublings ≤ -(Binary64.rangeEnd : Int)

namespace Retry

/-! ## Between two attempts -/

theorem oneDecimal_whole_of_far {n : Int} (far : Binary64.rangeEnd ≤ n.natAbs) :
    oneDecimal (.whole n) = .error .tooLarge := by
  simp only [oneDecimal, (Binary64.ofInt?_eq_none_iff n).mpr far]

theorem oneDecimal_whole_of_near {n : Int} (near : n.natAbs < Binary64.rangeEnd) :
    ∃ text, oneDecimal (.whole n) = .ok text := by
  simp only [oneDecimal]
  cases exact : Binary64.ofInt? n with
  | none =>
    have far := (Binary64.ofInt?_eq_none_iff n).mp exact
    omega
  | some x => exact ⟨_, rfl⟩

section Policy

variable {policy : RetryPolicy} {delay : Quantity}
  (delayed : policy.delay.quantity? = some delay) {doublings : Nat}

include delayed

theorem float_of_real {x : Binary64} (real : delay = .real x) : policy.delay = .float x := by
  subst real
  cases given : policy.delay <;> rw [given] at delayed <;> cases delayed
  rfl

theorem interlude_of_outgrown (beyond : delay.Outgrown doublings) (error : GeneratorError)
    (attempts : Nat) : interlude policy error (doublings + 1) attempts = .error .tooLarge := by
  cases delay with
  | real x =>
    simp only [Quantity.Outgrown] at beyond
    simp only [interlude, pauseAfter, float_of_real delayed rfl, doubled, Nat.add_sub_cancel,
      if_pos beyond, Except.map]
  | whole n =>
    have wide := Binary64.thirty_lt_rangeEnd
    simp only [Quantity.Outgrown] at beyond
    have kept : backoff n (doublings + 1) = .whole (n * 2 ^ doublings) := by
      rw [backoff, Nat.add_sub_cancel, if_pos (by omega)]
    have untold : oneDecimal (.whole (n * 2 ^ doublings)) = .error .tooLarge :=
      oneDecimal_whole_of_far (by omega)
    simp only [interlude, pauseAfter_eq delayed, kept, untold, Except.map]

theorem not_stalls_of_not_outgrown (within : ¬ delay.Outgrown doublings) :
    ¬ policy.Stalls (doublings + 1) := by
  cases delay with
  | real x =>
    simp only [Quantity.Outgrown] at within
    exact not_stalls_of_real (float_of_real delayed rfl) (by omega)
  | whole n =>
    simp only [Quantity.Outgrown] at within
    obtain ⟨text, told⟩ : ∃ text, oneDecimal (backoff n (doublings + 1)) = .ok text := by
      rw [backoff, Nat.add_sub_cancel]
      by_cases short : n * 2 ^ doublings ≤ 30
      · have wide := Binary64.thirty_lt_rangeEnd
        rw [if_pos short]
        exact oneDecimal_whole_of_near (by omega)
      · rw [if_neg short]
        exact ⟨_, rfl⟩
    exact fun stalls => stalls _ text (pauseAfter_eq delayed _) told

end Policy

/-! ## Attempts -/

section Attempts

variable {σ : Type} {transport : Transport σ} {policy : RetryPolicy} {provider : String}
  {request : Request} {delay : Quantity}

/-- A delay that has outgrown its numbers breaks a request off that has attempts left. -/
theorem attemptFrom_of_outgrown [Interpreter] (provider : String)
    (delayed : policy.delay.quantity? = some delay) {doublings : Nat}
    (beyond : delay.Outgrown doublings) (attempts left : Nat) {state : σ}
    (passing : (transport request state).1.isPassing = true) :
    attemptFrom transport policy provider request attempts (left + 1) (doublings + 1) state =
      ⟨[.post request], (transport request state).2, .error (.fault .tooLarge)⟩ := by
  obtain ⟨error, judged, -⟩ := verdict_of_passing provider passing
  rw [attemptFrom.eq_def]
  simp only [judged, interlude_of_outgrown delayed beyond error attempts]
  rfl

/-- While the delay keeps within its numbers, a request gets over passing troubles: what they leave
to it is the result, and each of them has cost it one post. -/
theorem attemptFrom_gets_over [Interpreter] (provider : String)
    (delayed : policy.delay.quantity? = some delay)
    (attempts left : Nat) {troubles doublings : Nat} {state : σ}
    (within : ∀ n < troubles, ¬ delay.Outgrown (doublings + n))
    (passing : ∀ n < troubles, (transport.delivery request state n).isPassing = true) :
    ∃ later, (∀ n, transport.delivery request later n =
        transport.delivery request state (troubles + n)) ∧
      let step := attemptFrom transport policy provider request attempts (troubles + left)
        (doublings + 1) state
      let rest := attemptFrom transport policy provider request attempts left
        (doublings + troubles + 1) later
      step.journal.requests = List.replicate troubles request ++ rest.journal.requests ∧
        step.result = rest.result := by
  induction troubles generalizing doublings state with
  | zero =>
    refine ⟨state, fun n => by rw [Nat.zero_add], ?_⟩
    simp only [Nat.zero_add, Nat.add_zero, List.replicate_zero, List.nil_append, and_self]
  | succ troubles ih =>
    have first : (transport request state).1.isPassing = true := passing 0 (Nat.succ_pos _)
    obtain ⟨between, quiet, next⟩ | ⟨stalls, -⟩ :=
      attemptFrom_next policy provider attempts (troubles + left) (doublings + 1) first
    · have shifted (n : Nat) : doublings + 1 + n = doublings + (n + 1) := Nat.add_right_comm ..
      obtain ⟨later, same, requests, result⟩ :=
        ih (fun n before => shifted n ▸ within (n + 1) (Nat.succ_lt_succ before))
          (fun n before => passing (n + 1) (Nat.succ_lt_succ before))
      have posted : Journal.requests (.post request :: between) = [request] :=
        congrArg (request :: ·) quiet
      rw [shifted troubles] at requests result
      refine ⟨later, fun n => ?_, ?_⟩
      · rw [same, Nat.add_right_comm]
        rfl
      · simp only [Nat.add_right_comm troubles 1 left, next, Step.after_journal, Step.after_result,
          Journal.requests_append, requests, posted]
        exact ⟨rfl, result⟩
    · exact absurd stalls (not_stalls_of_not_outgrown delayed (within 0 (Nat.succ_pos _)))

theorem attemptFrom_one_gets_over [Interpreter] (provider : String)
    (delayed : policy.delay.quantity? = some delay) (attempts left : Nat) {troubles : Nat}
    {state : σ} (within : ∀ doublings < troubles, ¬ delay.Outgrown doublings)
    (passing : ∀ n ≤ troubles, (transport.delivery request state n).isPassing = true) :
    ∃ later, (transport request later).1.isPassing = true ∧
      let step := attemptFrom transport policy provider request attempts (troubles + left) 1 state
      let rest := attemptFrom transport policy provider request attempts left (troubles + 1) later
      step.journal.requests = List.replicate troubles request ++ rest.journal.requests ∧
        step.result = rest.result := by
  obtain ⟨later, same, goes⟩ := attemptFrom_gets_over provider delayed attempts left
    (fun n before => (Nat.zero_add n).symm ▸ within n before)
    (fun n before => passing n (Nat.le_of_lt before))
  have next : (transport request later).1 = transport.delivery request state troubles := same 0
  rw [Nat.zero_add troubles] at goes
  exact ⟨later, next ▸ passing troubles (Nat.le_refl troubles), goes⟩

variable {retries : Nat} (counted : count policy.maxRetries = .ok retries)
  (delayed : policy.delay.quantity? = some delay) {state : σ}

include delayed counted

/-- A request that never gets over its troubles fails with the last of them, if the delay keeps
within its numbers that long. -/
theorem post_exhausted [Interpreter] (provider : String)
    (passing : ∀ n ≤ retries, (transport.delivery request state n).isPassing = true)
    (within : ∀ doublings < retries, ¬ delay.Outgrown doublings) :
    let step := post transport policy provider request state
    step.journal.requests = List.replicate (retries + 1) request ∧
      ∃ error, step.result = .error (.fault (.generator error)) := by
  obtain ⟨later, last, requests, result⟩ :=
    attemptFrom_one_gets_over provider delayed (retries + 1) 0 within passing
  obtain ⟨error, -, failed⟩ := verdict_of_passing provider last
  rw [attemptFrom_last _ _ last] at requests result
  simp only [post, counted]
  exact ⟨requests.trans List.replicate_succ'.symm, error, result.trans failed⟩

theorem post_breaks_off [Interpreter] (provider : String) {doublings : Nat}
    (before : doublings < retries)
    (passing : ∀ n ≤ doublings, (transport.delivery request state n).isPassing = true)
    (within : ∀ fewer < doublings, ¬ delay.Outgrown fewer) (beyond : delay.Outgrown doublings) :
    let step := post transport policy provider request state
    step.journal.requests = List.replicate (doublings + 1) request ∧
      step.result = .error (.fault .tooLarge) := by
  obtain ⟨left, rfl⟩ : ∃ left, retries = doublings + (left + 1) :=
    ⟨retries - doublings - 1, by omega⟩
  obtain ⟨later, last, requests, result⟩ :=
    attemptFrom_one_gets_over provider delayed (doublings + (left + 1) + 1) (left + 1) within
      passing
  rw [attemptFrom_of_outgrown provider delayed beyond _ _ last] at requests result
  simp only [post, counted]
  exact ⟨requests.trans List.replicate_succ'.symm, result⟩

end Attempts

/-! ## Settings -/

theorem delay_of_ofSettings {settings : Settings} {client : Client}
    (served : Client.ofSettings settings = .ok client) :
    client.policy.delay = settings .retryDelay := by
  obtain ⟨retries, -, policy⟩ := Client.policy_of_ofSettings served
  rw [policy]

/-- A request that meets nothing but passing troubles is posted once more than retries are set and
then fails with a fault of its generator, exactly if the delay that is set outgrows its numbers
before no retry. Otherwise it breaks off before the first retry of that kind, with a fault of the
delay. -/
theorem post_exhausted_iff [Interpreter] {settings : Settings} {client : Client}
    (served : Client.ofSettings settings = .ok client) {retries : Int}
    (whole : (settings .maxRetries).quantity? = some (.whole retries)) {delay : Quantity}
    (delayed : (settings .retryDelay).quantity? = some delay) {σ : Type} {transport : Transport σ}
    {request : Request} {state : σ}
    (passing : ∀ n ≤ retries.toNat, (transport.delivery request state n).isPassing = true) :
    let step := post transport client.policy client.service.name request state
    ((step.journal.requests = List.replicate (retries.toNat + 1) request ∧
        ∃ error, step.result = .error (.fault (.generator error))) ↔
      ∀ doublings < retries.toNat, ¬ delay.Outgrown doublings) ∧
    ∀ doublings < retries.toNat, delay.Outgrown doublings →
      (∀ fewer < doublings, ¬ delay.Outgrown fewer) →
        step.journal.requests = List.replicate (doublings + 1) request ∧
          step.result = .error (.fault .tooLarge) := by
  intro step
  have counted : count client.policy.maxRetries = .ok retries.toNat :=
    count_of_granted whole (Client.granted_of_ofSettings served)
  have kept : client.policy.delay.quantity? = some delay := by
    rw [delay_of_ofSettings served, delayed]
  have breaksOff {doublings : Nat} (before : doublings < retries.toNat)
      (beyond : delay.Outgrown doublings) (within : ∀ fewer < doublings, ¬ delay.Outgrown fewer) :=
    post_breaks_off counted kept client.service.name before
      (fun n reached => passing n (Nat.le_trans reached (Nat.le_of_lt before))) within beyond
  refine ⟨⟨?_, post_exhausted counted kept client.service.name passing⟩,
    fun doublings => breaksOff⟩
  rintro ⟨-, error, failed⟩ doublings before beyond
  classical
  have grown : ∃ n, delay.Outgrown n := ⟨doublings, beyond⟩
  have first : Nat.find grown ≤ doublings := Nat.find_min' grown beyond
  obtain ⟨-, broken⟩ := breaksOff (Nat.lt_of_le_of_lt first before) (Nat.find_spec grown)
    fun fewer => Nat.find_min grown
  rw [failed] at broken
  cases broken

/-- A service that is busy, out of reach and then out of order is asked three times with the delay
and the retries that are set if nothing else is. -/
theorem post_exhausted_iff_default :
    let settings := Settings.ofEntries [(.str "provider", .str "local")]
    let transport : Transport Nat := fun _ asked =>
      (if asked = 0 then .response 429 []
        else if asked = 1 then .failure "ConnectError" "down" else .response 503 [], asked + 1)
    let request : Request := ⟨"http://localhost", .null, none, .int 120⟩
    ∃ client, Client.ofSettings settings = .ok client ∧
      (settings .maxRetries).quantity? = some (.whole 2) ∧
      (settings .retryDelay).quantity? = some (.real (.ofRatio false 1 1)) ∧
      (∀ n ≤ 2, (transport.delivery request 0 n).isPassing = true) ∧
      let step := post transport client.policy client.service.name request 0
      step.journal.requests = [request, request, request] ∧
        ∃ error, step.result = .error (.fault (.generator error)) := by
  intro settings transport request
  have passing : ∀ n ≤ 2, (transport.delivery request 0 n).isPassing = true := by
    decide
  have within : ∀ doublings < 2, ¬ (Quantity.real (.ofRatio false 1 1)).Outgrown doublings := by
    intro doublings few many
    simp only [Quantity.Outgrown] at many
    omega
  exact ⟨_, rfl, rfl, rfl, passing,
    (@post_exhausted_iff _ settings _ rfl 2 rfl _ rfl Nat transport request 0 passing).1.mpr within⟩

/-- With a thousand and twenty-five retries, which settings may have, and the delay that is set if
nothing else is, a request that never reaches its service breaks off before the last retry. -/
theorem long_retry_breaks_off :
    let settings := Settings.ofEntries [(.str "provider", .str "local"),
      (.str "max_retries", .int 1025)]
    let transport : Transport Unit := fun _ asked => (.failure "ConnectError" "down", asked)
    let request : Request := ⟨"http://localhost", .null, none, .int 120⟩
    settings.validate.toOption = some () ∧
      ∃ client, Client.ofSettings settings = .ok client ∧
        (∀ n, (transport.delivery request () n).isPassing = true) ∧
        let step := post transport client.policy client.service.name request ()
        step.journal.requests = List.replicate 1025 request ∧
          step.result = .error (.fault .tooLarge) := by
  intro settings transport request
  have passing (n : Nat) : (transport.delivery request () n).isPassing = true := by
    induction n with
    | zero => rfl
    | succ n ih => exact ih
  have within : ∀ fewer < 1024, ¬ (Quantity.real (.ofRatio false 1 1)).Outgrown fewer := by
    intro fewer few many
    simp only [Quantity.Outgrown] at many
    omega
  have beyond : (Quantity.real (.ofRatio false 1 1)).Outgrown 1024 := Nat.le_refl 1024
  exact ⟨by decide +kernel, _, rfl, passing,
    post_breaks_off rfl rfl _ (by decide) (fun n _ => passing n) within beyond⟩

end Retry

end Remedy

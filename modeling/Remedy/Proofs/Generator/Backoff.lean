import Mathlib.Algebra.Order.Ring.Int
import Remedy.Proofs.Generator.Depth
import Remedy.Proofs.Generator.Traffic

/-!
# How often a request is posted, and how long it waits

A request goes on while its deliveries tell of a passing trouble and attempts are left. The last
delivery that it comes to decides its result: the first one that is no passing trouble, or that of
the last attempt. Between two attempts it waits, twice as long each time and thirty seconds at most.
-/

set_option autoImplicit false

namespace Remedy

open Number Text

/-- What tells of a passing trouble. -/
def Delivery.isPassing : Delivery → Bool
  | .failure .. => true
  | .response status _ => Retry.transientStatuses.contains status
  | .interrupted => false

def Delivery.status : Delivery → Nat
  | .response status _ => status
  | _ => 0

/-- What the same request is answered with again and again, counted from zero. -/
def Transport.delivery {σ : Type} (transport : Transport σ) (request : Request) :
    σ → Nat → Delivery
  | state, 0 => (transport request state).1
  | state, n + 1 => delivery transport request (transport request state).2 n

namespace Retry

/-! ## Pauses -/

def backoff (delay : Int) (attempt : Nat) : Quantity :=
  if delay * 2 ^ (attempt - 1) ≤ 30 then .whole (delay * 2 ^ (attempt - 1)) else longestPause

/-- The pauses after so many failed attempts, from the number of an attempt on. -/
def pausesFrom (delay : Int) (attempt failed : Nat) : List Quantity :=
  ((List.range' attempt failed).map (backoff delay)).filter (Quantity.whole 0).lt

def Lasts (pause : Quantity) (seconds : Int) : Prop :=
  pause = .whole seconds ∨ pause = longestPause ∧ seconds = 30

theorem longestPause_eq : longestPause = .real (.finite false (30 * 2 ^ 48) (-48)) := by
  decide

theorem signed_natAbs (n : Int) : Binary64.signed (decide (n < 0)) n.natAbs = n := by
  unfold Binary64.signed
  by_cases negative : n < 0
  · simp only [negative, decide_true, if_true]
    omega
  · simp only [negative, decide_false, Bool.false_eq_true, if_false]
    omega

theorem longestPause_lt_whole (n : Int) : longestPause.lt (.whole n) = decide (30 < n) := by
  have aligned : Binary64.align (Binary64.signed false (30 * 2 ^ 48)) (-48) n 0 =
      (30 * 2 ^ 48, n * 2 ^ 48) := by
    simp [Binary64.align, Binary64.signed]
  simp only [longestPause_eq, Quantity.lt, Quantity.exact, Binary64.exactInt, Binary64.lt,
    signed_natAbs, aligned, decide_eq_decide]
  omega

theorem whole_le_longestPause {n : Int} (short : n ≤ 30) :
    (Quantity.whole n).le longestPause = true := by
  have aligned : Binary64.align n 0 (Binary64.signed false (30 * 2 ^ 48)) (-48) =
      (n * 2 ^ 48, 30 * 2 ^ 48) := by
    simp [Binary64.align, Binary64.signed]
  simp only [longestPause_eq, Quantity.le, Quantity.lt, Quantity.same, Quantity.exact,
    Binary64.exactInt, Binary64.lt, Binary64.same, signed_natAbs, aligned, Bool.or_eq_true,
    decide_eq_true_eq]
  omega

theorem lasts_backoff (delay : Int) (attempt : Nat) :
    Lasts (backoff delay attempt) (min (delay * 2 ^ (attempt - 1)) 30) := by
  unfold backoff Lasts
  by_cases short : delay * 2 ^ (attempt - 1) ≤ 30
  · left
    rw [if_pos short, Int.min_eq_left short]
  · right
    exact ⟨if_neg short, Int.min_eq_right (by omega)⟩

theorem Lasts.same {pause : Quantity} {seconds : Int} (lasts : Lasts pause seconds) :
    pause.same (.whole seconds) = true := by
  rcases lasts with rfl | ⟨rfl, rfl⟩
  · simp [Quantity.same]
  · decide

theorem Lasts.le {first second : Quantity} {a b : Int} (lasts : Lasts first a)
    (later : Lasts second b) (atMost : a ≤ b) (bounded : b ≤ 30) : first.le second = true := by
  rcases later with rfl | ⟨rfl, rfl⟩
  · rcases lasts with rfl | ⟨rfl, rfl⟩
    · simp only [Quantity.le, Quantity.lt, Quantity.same, Bool.or_eq_true, decide_eq_true_eq]
      omega
    · have full : b = 30 := by omega
      subst full
      decide
  · rcases lasts with rfl | ⟨rfl, rfl⟩
    · exact whole_le_longestPause atMost
    · decide

theorem backoff_le_thirty (delay : Int) (attempt : Nat) :
    (backoff delay attempt).le (.whole 30) = true :=
  (lasts_backoff delay attempt).le (Or.inl rfl) (by omega) (by omega)

theorem backoff_mono {delay : Int} (nonneg : 0 ≤ delay) {first second : Nat}
    (before : first ≤ second) : (backoff delay first).le (backoff delay second) = true := by
  refine (lasts_backoff delay first).le (lasts_backoff delay second) ?_ (by omega)
  have powers : (2 : Int) ^ (first - 1) ≤ 2 ^ (second - 1) :=
    pow_le_pow_right₀ (by decide) (by omega)
  have products := Int.mul_le_mul_of_nonneg_left powers nonneg
  omega

theorem pausesFrom_pairwise {delay : Int} (nonneg : 0 ≤ delay) (attempt failed : Nat) :
    (pausesFrom delay attempt failed).Pairwise fun first second => first.le second = true := by
  unfold pausesFrom
  apply List.Pairwise.filter
  rw [List.pairwise_map]
  exact (List.pairwise_lt_range' 1).imp fun before => backoff_mono nonneg (Nat.le_of_lt before)

theorem pausesFrom_le_thirty {delay : Int} {attempt failed : Nat} :
    ∀ pause ∈ pausesFrom delay attempt failed, pause.le (.whole 30) = true := by
  intro pause member
  obtain ⟨among, -⟩ := List.mem_filter.mp member
  obtain ⟨number, -, rfl⟩ := List.mem_map.mp among
  exact backoff_le_thirty delay number

theorem pausesFrom_succ (delay : Int) (attempt failed : Nat) :
    pausesFrom delay attempt (failed + 1) =
      (if (Quantity.whole 0).lt (backoff delay attempt) then [backoff delay attempt] else []) ++
        pausesFrom delay (attempt + 1) failed := by
  unfold pausesFrom
  rw [List.range'_succ, List.map_cons, List.filter_cons]
  split <;> rfl

/-! ### What a policy says between two attempts -/

theorem ofInt?_of_short {n : Int} (nonneg : 0 ≤ n) (short : n ≤ 30) :
    ∃ x, Binary64.ofInt? n = some x := by
  have all : ∀ m : Fin 31, (Binary64.ofInt? (m.val : Int)).isSome = true := by
    decide
  obtain ⟨m, rfl⟩ := Int.eq_ofNat_of_zero_le nonneg
  exact Option.isSome_iff_exists.mp (all ⟨m, by omega⟩)

theorem oneDecimal_backoff {delay : Int} (nonneg : 0 ≤ delay) (attempt : Nat) :
    ∃ text, oneDecimal (backoff delay attempt) = .ok text := by
  unfold backoff
  by_cases short : delay * 2 ^ (attempt - 1) ≤ 30
  · have positive : (0 : Int) ≤ 2 ^ (attempt - 1) := Int.pow_nonneg (by decide)
    obtain ⟨x, exact⟩ := ofInt?_of_short (Int.mul_nonneg nonneg positive) short
    rw [if_pos short]
    simp only [oneDecimal, exact]
    exact ⟨_, rfl⟩
  · rw [if_neg short]
    exact ⟨_, rfl⟩

section Policy

variable {policy : RetryPolicy} {delay : Int}
  (delayed : policy.delay.quantity? = some (.whole delay))

include delayed

theorem doubled_delay (power : Nat) :
    doubled policy.delay power = .ok (.whole (delay * 2 ^ power)) := by
  have powers : Int.ofNat (Nat.pow 2 power) = 2 ^ power := by
    simp
  cases given : policy.delay <;> rw [given] at delayed <;> cases delayed <;>
    simp only [doubled, powers]

theorem pauseAfter_eq (attempt : Nat) :
    pauseAfter policy attempt = .ok (backoff delay attempt) := by
  rw [pauseAfter, doubled_delay delayed]
  simp only [Except.map, capped, longestPause_lt_whole, decide_eq_true_eq, backoff]
  by_cases short : delay * 2 ^ (attempt - 1) ≤ 30
  · rw [if_pos short, if_neg (by omega)]
  · rw [if_neg short, if_pos (by omega)]

/-- Between two attempts there is a warning, and a pause unless it would be none. -/
theorem interlude_eq (nonneg : 0 ≤ delay) (error : GeneratorError) (attempt attempts : Nat) :
    ∃ text, interlude policy error attempt attempts =
      .ok (.warning text ::
        if (Quantity.whole 0).lt (backoff delay attempt) then [.pause (backoff delay attempt)]
        else []) := by
  obtain ⟨text, shown⟩ := oneDecimal_backoff nonneg attempt
  simp only [interlude, pauseAfter_eq delayed, shown, Except.map]
  exact ⟨_, rfl⟩

end Policy

/-! ## Deliveries -/

theorem isErrorStatus_of_transient {status : Nat}
    (passing : transientStatuses.contains status = true) : isErrorStatus status = true := by
  have all : ∀ s ∈ transientStatuses, isErrorStatus s = true := by
    decide
  exact all status (List.contains_iff_mem.mp passing)

section Deliveries

variable [Interpreter]

def verdict (provider : String) : Delivery → Except Halt Reply.Members
  | .interrupted => .error .interrupted
  | .failure kind text => .error (.fault (.generator ⟨provider, .transport kind text⟩))
  | .response status body =>
    if transientStatuses.contains status then
      .error (.fault (.generator ⟨provider, .transientStatus status⟩))
    else if isErrorStatus status then
      .error (.fault (.generator ⟨provider, .status status (Body.excerpt body)⟩))
    else (Body.members provider status body).mapError .fault

theorem verdict_of_passing (provider : String) {delivery : Delivery}
    (passing : delivery.isPassing = true) :
    ∃ error, judge provider delivery = .again error ∧
      verdict provider delivery = .error (.fault (.generator error)) := by
  cases delivery with
  | interrupted => cases passing
  | failure kind text => exact ⟨_, rfl, rfl⟩
  | response status body =>
    simp only [Delivery.isPassing] at passing
    simp only [judge, verdict, passing, if_true]
    exact ⟨_, rfl, rfl⟩

theorem verdict_of_not_passing (provider : String) {delivery : Delivery}
    (decisive : delivery.isPassing = false) :
    (judge provider delivery = .interrupted ∧ verdict provider delivery = .error .interrupted) ∨
      ∃ result, judge provider delivery = .settled result ∧
        verdict provider delivery = result.mapError .fault := by
  cases delivery with
  | interrupted => exact Or.inl ⟨rfl, rfl⟩
  | failure kind text => cases decisive
  | response status body =>
    simp only [Delivery.isPassing] at decisive
    simp only [judge, verdict, decisive, Bool.false_eq_true, if_false]
    split
    · exact Or.inr ⟨_, rfl, rfl⟩
    · exact Or.inr ⟨_, rfl, rfl⟩

theorem statusCode_of_members {provider : String} {status : Nat} {body : List UInt8}
    {error : GeneratorError}
    (failed : Body.members provider status body = .error (.generator error)) :
    error.statusCode = status := by
  unfold Body.members at failed
  split at failed <;> cases failed <;> rfl

theorem statusCode_of_verdict {provider : String} {delivery : Delivery} {error : GeneratorError}
    (failed : verdict provider delivery = .error (.fault (.generator error))) :
    error.statusCode = delivery.status := by
  cases delivery with
  | interrupted => cases failed
  | failure kind text =>
    cases failed
    rfl
  | response status body =>
    simp only [verdict] at failed
    split at failed
    · cases failed
      rfl
    · split at failed
      · cases failed
        rfl
      · cases read : Body.members provider status body with
        | ok members =>
          rw [read] at failed
          cases failed
        | error cause =>
          rw [read] at failed
          cases failed
          exact statusCode_of_members read

end Deliveries

/-! ## Attempts -/

/-- There is a first delivery that is no passing trouble, or the attempts come to their end. -/
theorem exists_last (delivery : Nat → Delivery) (left : Nat) :
    ∃ last ≤ left, (∀ n < last, (delivery n).isPassing = true) ∧
      ((delivery last).isPassing = false ∨ last = left) := by
  induction left with
  | zero => exact ⟨0, Nat.le_refl 0, fun n none => absurd none (Nat.not_lt_zero n), Or.inr rfl⟩
  | succ left ih =>
    obtain ⟨last, reached, passing, decisive | rfl⟩ := ih
    · exact ⟨last, by omega, passing, Or.inl decisive⟩
    · cases decided : (delivery last).isPassing with
      | false => exact ⟨last, by omega, passing, Or.inl decided⟩
      | true =>
        refine ⟨last + 1, Nat.le_refl _, fun n before => ?_, Or.inr rfl⟩
        rcases Nat.lt_succ_iff_lt_or_eq.mp before with earlier | rfl
        · exact passing n earlier
        · exact decided

section Attempts

variable [Interpreter] {σ : Type} {transport : Transport σ} {policy : RetryPolicy}
  {provider : String} {request : Request} {delay : Int}

theorem attemptFrom_of_not_passing (attempts left attempt : Nat) {state : σ}
    (decisive : (transport request state).1.isPassing = false) :
    attemptFrom transport policy provider request attempts left attempt state =
      ⟨[.post request], (transport request state).2,
        verdict provider (transport request state).1⟩ := by
  rw [attemptFrom.eq_def]
  obtain ⟨judged, ends⟩ | ⟨result, judged, ends⟩ :=
    verdict_of_not_passing provider decisive
  · simp only [judged, ends]
    rfl
  · simp only [judged, ends]
    cases result <;> rfl

theorem attemptFrom_last (attempts attempt : Nat) {state : σ}
    (passing : (transport request state).1.isPassing = true) :
    attemptFrom transport policy provider request attempts 0 attempt state =
      ⟨[.post request], (transport request state).2,
        verdict provider (transport request state).1⟩ := by
  rw [attemptFrom.eq_def]
  obtain ⟨error, judged, ends⟩ := verdict_of_passing provider passing
  simp only [judged, ends]
  rfl

/-- While attempts are left a passing trouble is followed by a warning, a pause and another one. -/
theorem attemptFrom_again (provider : String)
    (delayed : policy.delay.quantity? = some (.whole delay))
    (nonneg : 0 ≤ delay) (attempts left attempt : Nat) {state : σ}
    (passing : (transport request state).1.isPassing = true) :
    ∃ text, attemptFrom transport policy provider request attempts (left + 1) attempt state =
      (attemptFrom transport policy provider request attempts left (attempt + 1)
        (transport request state).2).after
          (.post request :: .warning text ::
            if (Quantity.whole 0).lt (backoff delay attempt) then [.pause (backoff delay attempt)]
            else []) := by
  obtain ⟨error, judged, -⟩ := verdict_of_passing provider passing
  obtain ⟨text, between⟩ := interlude_eq delayed nonneg error attempt attempts
  refine ⟨text, ?_⟩
  rw [attemptFrom.eq_def]
  simp only [judged, between]
  rfl

/-- A step that posted the request, from an attempt on, up to a delivery, counted from zero: that
delivery alone decides the result, and between two posts the step paused. -/
structure EndsFrom (attempt : Nat) (step : Step σ Reply.Members) (provider : String)
    (request : Request) (delay : Int) (delivery : Nat → Delivery) (last : Nat) : Prop where
  requests : step.journal.requests = List.replicate (last + 1) request
  pauses : step.journal.pauses = pausesFrom delay attempt last
  result : step.result = verdict provider (delivery last)
  status : ∀ error, step.result = .error (.fault (.generator error)) →
    error.statusCode = (delivery last).status

/-- Attempts end at the first delivery that is no passing trouble, or at the last one. -/
theorem attemptFrom_endsFrom (delayed : policy.delay.quantity? = some (.whole delay))
    (nonneg : 0 ≤ delay) {attempts left attempt last : Nat} {state : σ} (reached : last ≤ left)
    (passing : ∀ n < last, (transport.delivery request state n).isPassing = true)
    (ends : (transport.delivery request state last).isPassing = false ∨ last = left) :
    EndsFrom attempt (attemptFrom transport policy provider request attempts left attempt state)
      provider request delay (transport.delivery request state) last := by
  induction last generalizing left attempt state with
  | zero =>
    have alone : attemptFrom transport policy provider request attempts left attempt state =
        ⟨[.post request], (transport request state).2,
          verdict provider (transport request state).1⟩ := by
      cases decided : (transport request state).1.isPassing with
      | false => exact attemptFrom_of_not_passing attempts left attempt decided
      | true =>
        rcases ends with decisive | rfl
        · simp only [Transport.delivery, decided] at decisive
          cases decisive
        · exact attemptFrom_last attempts attempt decided
    rw [alone]
    exact ⟨rfl, rfl, rfl, fun error failed => statusCode_of_verdict failed⟩
  | succ last ih =>
    obtain ⟨fewer, rfl⟩ : ∃ fewer, left = fewer + 1 := ⟨left - 1, by omega⟩
    have first : (transport request state).1.isPassing = true := passing 0 (by omega)
    obtain ⟨text, again⟩ := attemptFrom_again provider delayed nonneg attempts fewer attempt first
    have later : EndsFrom (attempt + 1)
        (attemptFrom transport policy provider request attempts fewer (attempt + 1)
          (transport request state).2) provider request delay
        (transport.delivery request (transport request state).2) last :=
      ih (by omega) (fun n before => passing (n + 1) (by omega)) (ends.imp id (by omega))
    rw [again]
    refine ⟨?_, ?_, later.result, later.status⟩
    · rw [Step.after_journal, Journal.requests_append, later.requests]
      split <;> rfl
    · rw [Step.after_journal, Journal.pauses_append, later.pauses, pausesFrom_succ]
      split <;> rfl

theorem post_endsFrom {retries : Nat} (counted : count policy.maxRetries = .ok retries)
    (delayed : policy.delay.quantity? = some (.whole delay)) (nonneg : 0 ≤ delay) {last : Nat}
    {state : σ} (reached : last ≤ retries)
    (passing : ∀ n < last, (transport.delivery request state n).isPassing = true)
    (ends : (transport.delivery request state last).isPassing = false ∨ last = retries) :
    EndsFrom 1 (post transport policy provider request state) provider request delay
      (transport.delivery request state) last := by
  have run : EndsFrom 1
      (attemptFrom transport policy provider request (retries + 1) retries 1 state) provider request
      delay (transport.delivery request state) last :=
    attemptFrom_endsFrom delayed nonneg reached passing ends
  simpa only [post, counted] using run

/-- What a delivery should decide that a request ends with: the object in a response, or a failure
that carries its status. -/
def Decides (provider : String) (delivery : Delivery) (result : Except Halt Reply.Members) : Prop :=
  match delivery with
  | .interrupted => result = .error .interrupted
  | .failure kind text => result = .error (.fault (.generator ⟨provider, .transport kind text⟩))
  | .response status body =>
    (∃ members, Body.document body = .ok (.obj members) ∧ result = .ok members) ∨
      ∃ error, result = .error (.fault (.generator error)) ∧ error.statusCode = status

/-- A response that is read, but whose body is nested deeper than there is room for. -/
def TooDeep : Delivery → Prop
  | .response status body => isErrorStatus status = false ∧
      ∃ container, Body.document body = .error (.unreadable (.tooDeep container))
  | _ => False

theorem decides_verdict_iff (provider : String) (delivery : Delivery) :
    Decides provider delivery (verdict provider delivery) ↔ ¬ TooDeep delivery := by
  cases delivery with
  | interrupted => exact iff_of_true rfl not_false
  | failure kind text => exact iff_of_true rfl not_false
  | response status body =>
    simp only [Decides, TooDeep, verdict]
    split
    · next passing =>
      refine iff_of_true (Or.inr ⟨_, rfl, rfl⟩) fun deep => ?_
      rw [isErrorStatus_of_transient passing] at deep
      cases deep.1
    · split
      · next failed =>
        refine iff_of_true (Or.inr ⟨_, rfl, rfl⟩) fun deep => ?_
        rw [failed] at deep
        cases deep.1
      · next noError =>
        obtain ⟨members, read, found⟩ | ⟨error, -, shallow, failed, carried⟩ |
          ⟨container, deep, escaped⟩ := Body.members_cases provider status body
        · rw [found]
          refine iff_of_true (Or.inl ⟨members, read, rfl⟩) ?_
          rintro ⟨-, container, deep⟩
          cases read.symm.trans deep
        · rw [failed]
          exact iff_of_true (Or.inr ⟨error, rfl, carried⟩) fun ⟨_, container, deep⟩ =>
            shallow container deep
        · rw [escaped]
          refine iff_of_false ?_ (not_not.mpr ⟨eq_false_of_ne_true noError, container, deep⟩)
          rintro (⟨members, -, ended⟩ | ⟨error, ended, -⟩) <;> cases ended

/-- A request with a whole number of retries, of which a negative one grants none, and a whole delay
is posted until the first delivery that is no passing trouble, and that delivery alone decides its
result: it is the object in a response or a failure that carries the status, unless the response is
read and nested too deep. If there is no such delivery it is posted as often as is granted and fails
with the trouble of the last attempt. The pauses in between double and never exceed thirty
seconds. -/
theorem post_settles {retries : Value} {number : Int}
    (whole : retries.quantity? = some (.whole number))
    (grants : granted retries = .ok policy.maxRetries)
    (delayed : policy.delay.quantity? = some (.whole delay)) (nonneg : 0 ≤ delay) (state : σ) :
    let attempts := (max 0 number).toNat + 1
    let delivery := transport.delivery request state
    let step := post transport policy provider request state
    (∀ last < attempts, (∀ n < last, (delivery n).isPassing = true) →
        (delivery last).isPassing = false →
        EndsFrom 1 step provider request delay delivery last ∧
          (Decides provider (delivery last) step.result ↔ ¬ TooDeep (delivery last))) ∧
      ((∀ n < attempts, (delivery n).isPassing = true) →
        EndsFrom 1 step provider request delay delivery (attempts - 1) ∧
          ∃ error, step.result = .error (.fault (.generator error))) ∧
      (step.journal.pauses.Pairwise fun first second => first.le second = true) ∧
      (∀ pause ∈ step.journal.pauses, pause.le (.whole 30) = true) ∧
      ∀ attempt, (backoff delay attempt).same (.whole (min (delay * 2 ^ (attempt - 1)) 30)) =
        true := by
  intro attempts delivery step
  have counted : count policy.maxRetries = .ok (max 0 number).toNat := by
    rw [count_of_granted whole grants]
    congr 1
    omega
  have endsFrom {last : Nat} (reached : last ≤ (max 0 number).toNat)
      (passing : ∀ n < last, (delivery n).isPassing = true)
      (ends : (delivery last).isPassing = false ∨ last = (max 0 number).toNat) :
      EndsFrom 1 step provider request delay delivery last :=
    post_endsFrom counted delayed nonneg reached passing ends
  obtain ⟨stop, reached, passing, ends⟩ := exists_last delivery (max 0 number).toNat
  have pauses := (endsFrom reached passing ends).pauses
  refine ⟨?_, ?_, ?_, ?_, fun attempt => (lasts_backoff delay attempt).same⟩
  · intro last before passing decisive
    have ended := endsFrom (Nat.le_of_lt_succ before) passing (Or.inl decisive)
    exact ⟨ended, ended.result ▸ decides_verdict_iff provider (delivery last)⟩
  · intro passing
    have exhausted := endsFrom (Nat.le_refl _) (fun n before => passing n (by omega)) (Or.inr rfl)
    refine ⟨exhausted, ?_⟩
    obtain ⟨error, -, failed⟩ := verdict_of_passing provider
      (passing (max 0 number).toNat (by omega))
    exact ⟨error, exhausted.result.trans failed⟩
  · rw [pauses]
    exact pausesFrom_pairwise nonneg 1 stop
  · rw [pauses]
    exact pausesFrom_le_thirty

end Attempts

/-- A service is out of order, then out of reach, and then answers. -/
theorem post_settles_third_attempt :
    let answer : Json := .obj [("response", .str "a;")]
    let transport : Transport Nat := fun _ asked =>
      (if asked = 0 then .response 503 []
        else if asked = 1 then .failure "ConnectError" "down"
        else .response 200 (Utf8.encode (answer.render .oneLine)), asked + 1)
    let policy : RetryPolicy := ⟨.int 120, .int 2, .int 20⟩
    let request : Request := ⟨"http://localhost", .null, none, .int 120⟩
    let step := post transport policy "ollama" request 0
    granted (.int 2) = .ok policy.maxRetries ∧
      policy.delay.quantity? = some (.whole 20) ∧
      step.journal.requests = [request, request, request] ∧
      step.journal.pauses = [.whole 20, longestPause] ∧
      step.result = .ok [(points "response", .str (points "a;"))] := by
  intro answer transport policy request step
  have settles := @post_settles _ Nat transport policy "ollama" request 20 (.int 2) 2 rfl rfl rfl
    (by decide) 0
  have passing : ∀ n < 2, (transport.delivery request 0 n).isPassing = true := by
    decide
  obtain ⟨⟨requests, pauses, result, -⟩, -⟩ := settles.1 2 (by decide) passing (by decide)
  have readable : answer.Readable := by
    refine .obj (by decide) ?_
    simp only [List.forall_mem_cons]
    exact ⟨.str _, List.forall_mem_nil _⟩
  have read : Body.document (Utf8.encode (answer.render .oneLine)) = .ok (answer.map points) :=
    Body.document_render readable .oneLine (by decide) (by decide +kernel)
  refine ⟨rfl, rfl, requests, pauses.trans (by decide), ?_⟩
  rw [result]
  show (Body.members "ollama" 200 (Utf8.encode (answer.render .oneLine))).mapError Halt.fault = _
  simp only [Body.members, read]
  rfl

/-- A thousand arrays in each other are a document, but a body of them is neither an answer nor a
failure of the service. -/
theorem post_breaks_off_in_body :
    let transport : Transport Unit := fun _ state => (.response 200 (Body.nested 1000), state)
    let policy : RetryPolicy := ⟨.int 120, .int 0, .int 1⟩
    let request : Request := ⟨"http://localhost", .null, none, .int 120⟩
    let step := post transport policy "ollama" request ()
    Json.ofPoints 1000 ((Json.nestedText 1000).map .char) =
        .ok ((Json.nestedArrays 999).map points) ∧
      (transport.delivery request () 0).isPassing = false ∧
      step.result = .error (.fault (.tooDeep .array)) ∧
      ¬ Decides "ollama" (transport.delivery request () 0) step.result := by
  intro transport policy request step
  have deep : Body.document (Body.nested 1000) = .error (.unreadable (.tooDeep .array)) :=
    Body.document_nested (by decide)
  have ended : step.result = verdict "ollama" (transport.delivery request () 0) :=
    (post_endsFrom rfl rfl (by decide) (Nat.le_refl 0) (by simp) (Or.inl rfl)).result
  refine ⟨Json.ofPoints_nestedText (Nat.le_refl 1000), rfl, ?_, ?_⟩
  · rw [ended]
    simp only [transport, Transport.delivery, verdict, Body.members, deep]
    rfl
  · rw [ended, decides_verdict_iff, not_not]
    exact ⟨rfl, .array, deep⟩

end Retry

end Remedy

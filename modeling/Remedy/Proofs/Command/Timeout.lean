import Remedy.Proofs.Command.KeySecrecy
import Remedy.Proofs.Command.Start

/-!
# The timeout of requests

Every request of a run carries the timeout of its settings, whatever the prompt and the attempt. The
check lets a run begin only with a number as the timeout, and with a positive one as far as numbers
can be compared: NaN is the one that gets by, as it is neither positive nor less than or equal to
zero.
-/

set_option autoImplicit false

namespace Remedy

open Number

/-! ## Settings that allow a run -/

theorem Settings.timeout_of_valid {settings : Settings} (valid : settings.validate = .ok ()) :
    ∃ timeout, (settings .requestTimeout).quantity? = some timeout ∧
      (timeout.IsPositive ↔ timeout ≠ .real .nan) := by
  obtain ⟨-, passed, -⟩ := validate_eq_ok_iff.mp valid
  obtain ⟨timeout, measured, positive | rfl⟩ := checkTimeout_eq_ok_iff.mp passed
  · refine ⟨timeout, measured, iff_of_true positive ?_⟩
    rintro rfl
    exact positive
  · exact ⟨_, measured, iff_of_false id fun other => other rfl⟩

/-! ## Requests -/

theorem Journal.mem_requests_iff {journal : Journal} {request : Request} :
    request ∈ journal.requests ↔ Event.post request ∈ journal := by
  rw [requests, List.mem_filterMap]
  constructor
  · rintro ⟨event, member, posted⟩
    cases event <;> cases posted
    exact member
  · exact fun member => ⟨_, member, rfl⟩

def Request.withTimeout (timeout : Value) (request : Request) : Request :=
  { request with timeout := timeout }

theorem Client.generator_withTimeout [Interpreter] {σ : Type} {settings : Settings}
    {client : Client}
    (served : ofSettings settings = .ok client) (transport : Transport σ) :
    (client.generator transport).mapRequests (Request.withTimeout (settings .requestTimeout)) =
      client.generator transport := by
  obtain ⟨retries, -, policy⟩ := policy_of_ofSettings served
  funext prompt asked
  obtain ⟨posts, -, sent⟩ := generator_posts served transport prompt asked
  have same : ∀ request ∈ (client.generator transport prompt asked).journal.requests,
      request.withTimeout (settings .requestTimeout) = request := by
    intro request member
    rw [← Journal.requests_traffic, sent, Journal.mem_requests_iff] at member
    rw [Event.post.inj (List.eq_of_mem_replicate member), Client.request, policy]
    rfl
  rw [Generator.mapRequests, Step.mapRequests, Journal.mapRequests_eq_self _ same]

namespace Command.FixOptions

variable {σ : Type} {options : FixOptions} {session : Session σ} {settings : Settings}

theorem client_of_equipment {client : Client} {pipeline : Pipeline}
    (equipped : options.equipment settings = .ok (client, pipeline)) :
    Client.ofSettings settings = .ok client := by
  simp only [equipment] at equipped
  split at equipped
  · cases equipped
  · next served =>
    obtain ⟨piped, -, same⟩ := exists_of_map_eq_ok equipped
    cases same
    exact served

theorem runPipeline_withTimeout [Interpreter] {client : Client}
    (served : Client.ofSettings settings = .ok client)
    (pipeline : Pipeline) (world : World σ) :
    (options.runPipeline session client pipeline world).mapRequests
        (Request.withTimeout (settings .requestTimeout)) =
      options.runPipeline session client pipeline world := by
  have same := Pipeline.run_mapRequests (Request.withTimeout (settings .requestTimeout)) pipeline
    (client.generator session.transport) session.around options.namedPaths
    ⟨.initial, world.tree, world.network⟩
  rw [Client.generator_withTimeout served] at same
  rw [runPipeline]
  conv_rhs => rw [same]
  rfl

theorem runWith_withTimeout [Interpreter] (world : World σ) :
    (options.runWith session settings world).mapRequests
        (Request.withTimeout (settings .requestTimeout)) =
      options.runWith session settings world := by
  rw [runWith, Step.mapRequests_andThen, Step.mapRequests_attempt]
  refine congrArg (Step.andThen _) (funext fun _ => funext fun world => ?_)
  rw [Step.mapRequests_after_quiet _ rfl]
  refine congrArg (Step.after _) ?_
  cases equipped : options.equipment settings with
  | error fault => rfl
  | ok both =>
    obtain ⟨client, pipeline⟩ := both
    simp only [Step.attempt_ok_andThen, Step.mapRequests_andThen,
      runPipeline_withTimeout (client_of_equipment equipped), conclude_mapRequests]

/-- Every request of a run has the timeout of the settings that allow the run. -/
theorem timeout_of_mem_requests [Interpreter] {world : World σ} {request : Request}
    (sent : request ∈ (options.run session world).journal.requests) :
    ∃ settings, options.settings session world.tree = .ok settings ∧
      settings.validate = .ok () ∧ request.timeout = settings .requestTimeout := by
  cases admits : options.admitted session world.tree with
  | error fault =>
    rw [run_of_refused admits] at sent
    cases sent
  | ok settings =>
    obtain ⟨loaded, valid⟩ := admitted_eq_ok admits
    refine ⟨settings, loaded, valid, ?_⟩
    rw [run, loaded, Step.attempt_ok_andThen, ← runWith_withTimeout] at sent
    obtain ⟨request', -, rfl⟩ := List.mem_map.mp (Journal.requests_mapRequests _ _ ▸ sent)
    rfl

theorem requestTimeout_of_settings [Interpreter] {tree : FileTree}
    (found : options.settings session tree = .ok settings) :
    ∃ loaded, Settings.load tree session.around.directory options.common.config options.common.root
        session.environment = .ok loaded ∧
      settings .requestTimeout = loaded .requestTimeout := by
  unfold FixOptions.settings at found
  split at found
  · cases found
  · next lower below =>
    obtain ⟨-, values⟩ := withModel_apply found
    obtain ⟨loaded, load, rfl⟩ := exists_of_map_eq_ok below
    refine ⟨loaded, load, (values .requestTimeout).trans ?_⟩
    have unsaid (provider : Value) : options.modelSays? provider .requestTimeout = none := by
      rw [modelSays?, if_neg]
      split <;> decide
    rw [unsaid]
    rfl

/-- Wherever settings come from, their timeout is a number if they pass the check, and greater than
zero just if it is not NaN. So is the timeout of every request of a run, which is what the settings
file and the environment come to. -/
theorem requests_timed [Interpreter] (options : FixOptions) (session : Session σ)
    (world : World σ) :
    (∀ settings : Settings, settings.validate = .ok () →
      ∃ timeout, (settings .requestTimeout).quantity? = some timeout ∧
        (timeout.IsPositive ↔ timeout ≠ .real .nan)) ∧
    ∀ request ∈ (options.run session world).journal.requests,
      ∃ loaded timeout,
        Settings.load world.tree session.around.directory options.common.config
          options.common.root session.environment = .ok loaded ∧
        request.timeout = loaded .requestTimeout ∧
        (loaded .requestTimeout).quantity? = some timeout ∧
        (timeout.IsPositive ↔ timeout ≠ .real .nan) := by
  refine ⟨fun settings valid => Settings.timeout_of_valid valid, fun request sent => ?_⟩
  obtain ⟨settings, found, valid, timed⟩ := timeout_of_mem_requests sent
  obtain ⟨loaded, from', same⟩ := requestTimeout_of_settings found
  obtain ⟨timeout, measured, positive⟩ := Settings.timeout_of_valid valid
  rw [same] at timed measured
  exact ⟨loaded, timeout, from', timed, measured, positive⟩

/-- A timeout of half a second, from the environment. -/
theorem requests_timed_half_second :
    let session : Session Unit := ⟨⟨[], "k", fun _ => none, .notInstalled⟩,
      [("AI_PROVIDER", "local"), ("SECURITYAGENT_TIMEOUT", " 5e-1")], false,
      fun _ state => (.response 200 [], state)⟩
    let options : FixOptions := ⟨⟨none, ".", none, [], none, none, false, false, true⟩, ["a.js"],
      none, none, false, false⟩
    let world : World Unit := ⟨⟨[(["a.js"], .file (Text.Utf8.encode "exec(x)") 0o644)]⟩, ()⟩
    let half : Quantity := .real (.ofRatio false 1 2)
    (∃ settings,
      Settings.load world.tree session.around.directory none "." session.environment =
        .ok settings ∧
      settings.validate = .ok () ∧ (settings .requestTimeout).quantity? = some half ∧
      half.IsPositive) ∧
      ∃ request ∈ (options.run session world).journal.requests,
        request.timeout.quantity? = some half ∧ half.IsPositive := by
  intro session options world half
  have loads : (Settings.load world.tree session.around.directory none "." session.environment).map
      (fun settings => (settings.validate, (settings .requestTimeout).quantity?)) =
        .ok (.ok (), some half) := by
    decide +kernel
  have sent : ((options.run session world).journal.requests.map fun request =>
      request.timeout.quantity?) = [some half] := by
    decide +kernel
  have comparable : half ≠ .real .nan := by
    decide +kernel
  obtain ⟨allowed, posted⟩ := requests_timed options session world
  constructor
  · obtain ⟨settings, load, same⟩ := exists_of_map_eq_ok loads
    obtain ⟨valid, measured⟩ := Prod.mk.inj same
    obtain ⟨timeout, measured', positive⟩ := allowed settings valid
    cases measured'.symm.trans measured
    exact ⟨settings, load, valid, measured, positive.mpr comparable⟩
  · obtain ⟨request, requests, measured⟩ := List.map_eq_singleton_iff.mp sent
    have member : request ∈ (options.run session world).journal.requests := by
      rw [requests]
      exact List.mem_singleton_self _
    obtain ⟨loaded, timeout, -, timed, measured', positive⟩ := posted request member
    rw [← timed] at measured'
    cases measured'.symm.trans measured
    exact ⟨request, member, measured, positive.mpr comparable⟩

/-- NaN from the environment is a timeout that settings may have, and that requests carry. -/
theorem nan_timeout_passes :
    let session : Session Unit := ⟨⟨[], "k", fun _ => none, .notInstalled⟩,
      [("AI_PROVIDER", "ollama"), ("SECURITYAGENT_TIMEOUT", "nan")], false,
      fun _ state => (.interrupted, state)⟩
    let options : FixOptions := ⟨⟨none, ".", none, [], none, none, false, false, true⟩, ["a.js"],
      none, none, false, false⟩
    let world : World Unit := ⟨⟨[(["a.js"], .file (Text.Utf8.encode "exec(x)") 0o644)]⟩, ()⟩
    (∃ settings,
      Settings.load world.tree session.around.directory none "." session.environment =
        .ok settings ∧
      settings.validate = .ok () ∧ (settings .requestTimeout).quantity? = some (.real .nan)) ∧
      ¬ (Quantity.real .nan).IsPositive ∧
      ((options.run session world).journal.requests.map fun request => request.timeout.quantity?) =
        [some (.real .nan)] := by
  intro session options world
  have loads : (Settings.load world.tree session.around.directory none "." session.environment).map
      (fun settings => (settings.validate, (settings .requestTimeout).quantity?)) =
        .ok (.ok (), some (.real .nan)) := by
    decide +kernel
  have sent : ((options.run session world).journal.requests.map fun request =>
      request.timeout.quantity?) = [some (.real .nan)] := by
    decide +kernel
  obtain ⟨settings, load, same⟩ := exists_of_map_eq_ok loads
  obtain ⟨valid, measured⟩ := Prod.mk.inj same
  exact ⟨⟨settings, load, valid, measured⟩, id, sent⟩

end Command.FixOptions

end Remedy

import Remedy.Command.Program
import Remedy.Proofs.Generator.Substitution
import Remedy.Proofs.Pipeline.Traffic

/-!
# The secrecy of the key

Two runs with settings that differ in nothing but the key differ in nothing but the key of their
requests, if the network answers them alike. The settings hide the key where they are shown, and the
only one to carry it is the client; the pipeline passes its requests on, and hangs on nothing but
the answers.
-/

set_option autoImplicit false

namespace Remedy

/-! ## A pipeline passes requests on -/

namespace Pipeline

variable {σ : Type} (f : Request → Request) (pipeline : Pipeline) (generate : Generator σ)
  (around : Surroundings)

theorem contain_mapRequests (path : String) (step : Step (RunState σ) FileOutcome) :
    contain path (step.mapRequests f) = (contain path step).mapRequests f := by
  obtain ⟨journal, state, result⟩ := step
  rcases result with (fault | _) | outcome
  · simp [contain, Step.mapRequests, Event.mapRequest, Event.error, Event.debug]
  · rfl
  · rfl

theorem treat_mapRequests (path content : String) (state : RunState σ) :
    pipeline.treat (generate.mapRequests f) around path content state =
      (pipeline.treat generate around path content state).mapRequests f := by
  unfold treat
  dsimp only
  split
  · next flagged =>
    have announced (verdict : Verdict) (prompt : String) :
        (announcement verdict prompt).mapRequests f = announcement verdict prompt := by
      apply Journal.mapRequests_of_requests_nil
      rw [← Journal.requests_traffic, traffic_announcement]
      rfl
    have settled (verdict : Verdict) (state : RunState σ) (reply : Except Halt (Option String)) :
        (pipeline.settle around verdict content state reply).mapRequests f =
          pipeline.settle around verdict content state reply := by
      simp only [Step.mapRequests,
        Journal.mapRequests_of_traffic_nil f (traffic_settle verdict reply)]
    simp only [Step.mapRequests_after, Journal.mapRequests_append, announced, settled]
    rfl
  · rfl

theorem process_mapRequests (path : String) (state : RunState σ) :
    pipeline.process (generate.mapRequests f) around path state =
      (pipeline.process generate around path state).mapRequests f := by
  rw [process, process, ← contain_mapRequests]
  congr 1
  unfold examine
  split
  · rfl
  · rfl
  · exact treat_mapRequests f pipeline generate around path _ state

theorem processAll_mapRequests (paths : List String) (state : RunState σ) :
    pipeline.processAll (generate.mapRequests f) around paths state =
      (pipeline.processAll generate around paths state).mapRequests f := by
  induction paths generalizing state with
  | nil => rfl
  | cons path rest ih =>
    simp only [processAll, process_mapRequests, ih, Step.mapRequests_andThen,
      Step.mapRequests_done]

theorem runOver_mapRequests (paths : List String) (state : RunState σ) :
    pipeline.runOver (generate.mapRequests f) around paths state =
      (pipeline.runOver generate around paths state).mapRequests f := by
  have finished (outcomes : List FileOutcome) (state : RunState σ) :
      (finish outcomes state).mapRequests f = finish outcomes state := by
    simp only [finish, Step.mapRequests_andThen, Step.mapRequests_after_quiet f (traffic_closing _),
      Step.mapRequests_done]
    rfl
  unfold runOver
  split
  · rfl
  · simp only [processAll_mapRequests, Step.mapRequests_andThen, finished]
    rfl

/-- A run with a generator of other requests is the same run with other requests. -/
theorem run_mapRequests (paths : Option (List String)) (state : RunState σ) :
    pipeline.run (generate.mapRequests f) around paths state =
      (pipeline.run generate around paths state).mapRequests f := by
  unfold run
  rw [Step.mapRequests_andThen]
  have quiet := traffic_candidates pipeline around paths
  have entered (phase : Phase) (state : RunState σ) :
      (enter phase state).mapRequests f = enter phase state := rfl
  rw [entered]
  congr 1
  funext _ state
  split
  · next found =>
    rw [found] at quiet
    rw [Step.mapRequests_after_quiet f quiet, Step.mapRequests_halted]
  · next found =>
    rw [found] at quiet
    rw [Step.mapRequests_after_quiet f quiet, runOver_mapRequests]

end Pipeline

/-! ## Settings that differ in the key -/

/-- Two settings that differ in nothing but the key, which both have. -/
structure Settings.SameButKey (settings₁ settings₂ : Settings) : Prop where
  same : ∀ setting, setting ≠ .geminiKey → settings₁ setting = settings₂ setting
  first : (settings₁ .geminiKey).truthy = true
  second : (settings₂ .geminiKey).truthy = true

namespace Settings.SameButKey

variable {settings₁ settings₂ : Settings} (differ : settings₁.SameButKey settings₂)

include differ

theorem toValue : settings₁.toValue = settings₂.toValue := by
  have shown (setting : Setting) :
      settings₁.shownValue setting = settings₂.shownValue setting := by
    by_cases isKey : setting = .geminiKey
    · subst isKey
      simp [shownValue, differ.first, differ.second]
    · simp [shownValue, isKey, differ.same setting isKey]
  simp only [Settings.toValue, shown]

theorem enabledCategories : settings₁.enabledCategories = settings₂.enabledCategories := by
  rw [Settings.enabledCategories, differ.same .categories (by decide), Settings.enabledCategories]

theorem validate : settings₁.validate = settings₂.validate := by
  have provider : settings₁.checkProvider = settings₂.checkProvider := by
    simp only [checkProvider, differ.same .provider (by decide), differ.first, differ.second]
  have timeout : settings₁.checkTimeout = settings₂.checkTimeout := by
    simp only [checkTimeout, differ.same .requestTimeout (by decide)]
  have retries : settings₁.checkRetries = settings₂.checkRetries := by
    simp only [checkRetries, differ.same .maxRetries (by decide)]
  have extensions : settings₁.checkExtensions = settings₂.checkExtensions := by
    simp only [checkExtensions, differ.same .extensions (by decide)]
  have categories : settings₁.checkCategories = settings₂.checkCategories := by
    simp only [checkCategories, differ.enabledCategories]
  simp only [Settings.validate, provider, timeout, retries, extensions, categories]

theorem withPolicy (service : Except Fault Service) :
    Client.withPolicy settings₂ (service.map (Service.withKey (settings₂ .geminiKey))) =
      (Client.withPolicy settings₁ service).map (Client.withKey (settings₂ .geminiKey)) := by
  simp only [Client.withPolicy, ← differ.same .maxRetries (by decide),
    ← differ.same .requestTimeout (by decide), ← differ.same .retryDelay (by decide)]
  split
  · rfl
  · cases service <;> rfl

theorem client :
    Client.ofSettings settings₂ =
      (Client.ofSettings settings₁).map (Client.withKey (settings₂ .geminiKey)) := by
  simp only [Client.ofSettings, ← differ.same .provider (by decide), differ.first, differ.second,
    if_true]
  split
  · rfl
  · split
    · rw [← differ.withPolicy, ← differ.same .geminiModel (by decide)]
      rfl
    · split
      · rw [← differ.withPolicy]
        simp only [Client.ollama, ← differ.same .ollamaUrl (by decide),
          ← differ.same .ollamaModel (by decide)]
        split <;> rfl
      · rfl

theorem pipeline (root : String) :
    Pipeline.ofSettings settings₁ root = Pipeline.ofSettings settings₂ root := by
  simp only [Pipeline.ofSettings, differ.enabledCategories, differ.same .extensions (by decide),
    differ.same .excludedPaths (by decide), differ.same .baseRef (by decide),
    differ.same .remote (by decide), differ.same .dryRun (by decide)]

end Settings.SameButKey

/-! ## The command -/

theorem Command.Ending.ofStep_mapRequests {σ : Type} (environment : Environment)
    (f : Request → Request) (step : Step (World σ) Conclusion) :
    ofStep environment (step.mapRequests f) =
      { ofStep environment step with
        journal := (ofStep environment step).journal.mapRequests f } := by
  obtain ⟨journal, state, result⟩ := step
  rcases result with (fault | _) | conclusion <;> rfl

namespace Command.FixOptions

variable {σ : Type}

/-- The outcome of the run that a command comes to, if it comes to one that ends. -/
def outcome? [Interpreter] (options : FixOptions) (session : Session σ) (settings : Settings)
    (world : World σ) : Option RunOutcome :=
  match settings.validate, options.equipment settings with
  | .ok (), .ok (client, pipeline) =>
    (options.runPipeline session client pipeline world).result.toOption
  | _, _ => none

theorem runPipeline_withKey [Interpreter] (options : FixOptions) {session : Session σ}
    (ignores : session.transport.IgnoresParameters) (client : Client) (key : Value)
    (pipeline : Pipeline) (world : World σ) :
    options.runPipeline session (client.withKey key) pipeline world =
      (options.runPipeline session client pipeline world).mapRequests (Request.withKey key) := by
  rw [runPipeline, client.generator_withKey key ignores, Pipeline.run_mapRequests]
  rfl

theorem conclude_mapRequests (f : Request → Request) (options : FixOptions) (session : Session σ)
    (settings : Settings) (outcome : RunOutcome) (world : World σ) :
    (options.conclude session settings outcome world).mapRequests f =
      options.conclude session settings outcome world := by
  have delivered (report : String) (world : World σ) :
      (options.common.deliver session report world).mapRequests f =
        options.common.deliver session report world := by
    unfold CommonOptions.deliver
    split
    · rfl
    · split <;> rfl
  simp only [conclude, Step.mapRequests_andThen, Step.mapRequests_attempt, delivered,
    Step.mapRequests_done]

section Commands

variable (options : FixOptions) {session : Session σ} {settings₁ settings₂ : Settings}
  (differ : settings₁.SameButKey settings₂) (world : World σ)

include differ

theorem equipment_sameButKey :
    options.equipment settings₂ =
      (options.equipment settings₁).map fun (client, pipeline) =>
        (client.withKey (settings₂ .geminiKey), pipeline) := by
  simp only [equipment, differ.client, ← differ.pipeline]
  cases Client.ofSettings settings₁ with
  | error fault => rfl
  | ok client => cases Pipeline.ofSettings settings₁ options.common.root <;> rfl

theorem conclude_sameButKey (outcome : RunOutcome) :
    options.conclude session settings₂ outcome world =
      (options.conclude session settings₁ outcome world).mapRequests
        (Request.withKey (settings₂ .geminiKey)) := by
  rw [conclude_mapRequests]
  simp only [conclude, CommonOptions.writer, ← differ.same .failOnError (by decide),
    ← differ.same .outputFormat (by decide)]

theorem outcome?_sameButKey [Interpreter] (ignores : session.transport.IgnoresParameters) :
    options.outcome? session settings₁ world = options.outcome? session settings₂ world := by
  simp only [outcome?, ← differ.validate, options.equipment_sameButKey differ]
  cases settings₁.validate with
  | error fault => rfl
  | ok valid =>
    cases options.equipment settings₁ with
    | error fault => rfl
    | ok equipped =>
      obtain ⟨client, pipeline⟩ := equipped
      simp only [Except.map, options.runPipeline_withKey ignores, Step.mapRequests_result]

theorem runWith_sameButKey [Interpreter] (ignores : session.transport.IgnoresParameters) :
    options.runWith session settings₂ world =
      (options.runWith session settings₁ world).mapRequests
        (Request.withKey (settings₂ .geminiKey)) := by
  have equipped (client : Client) (pipeline : Pipeline) (world : World σ) :
      (options.runPipeline session (client.withKey (settings₂ .geminiKey)) pipeline world).andThen
          (options.conclude session settings₂) =
        ((options.runPipeline session client pipeline world).andThen
          (options.conclude session settings₁)).mapRequests
            (Request.withKey (settings₂ .geminiKey)) := by
    rw [options.runPipeline_withKey ignores, Step.mapRequests_andThen]
    congr 1
    funext outcome world
    exact options.conclude_sameButKey differ world outcome
  have shown (display : String) : Journal.traffic [.debug ("Configuration: " ++ display)] = [] :=
    rfl
  rw [runWith, runWith, Step.mapRequests_andThen, Step.mapRequests_attempt, ← differ.validate]
  refine congrArg (Step.andThen _) (funext fun _ => funext fun world => ?_)
  rw [Step.mapRequests_after_quiet _ (shown _), ← differ.toValue,
    options.equipment_sameButKey differ]
  refine congrArg (Step.after _) ?_
  cases options.equipment settings₁ with
  | error fault => rfl
  | ok both => exact equipped both.1 both.2 world

/-- The key is kept secret. Two commands whose settings differ in nothing but the key, which both
have, show the same settings and come to the same outcome, in any world and with any transport that
does not look at the parameters of requests. From any level on they log the same records; they give
rise to the same prompts and pauses, leave the same files and end with the same output, the same
complaint and the same exit. Their requests are the same but for the key among the parameters. -/
theorem runWith_keeps_key_secret [Interpreter] (ignores : session.transport.IgnoresParameters) :
    let run (settings : Settings) := options.runWith session settings world
    let ending (settings : Settings) (threshold : LogLevel) :=
      (Ending.ofStep session.environment (run settings)).atLeast threshold
    settings₁.toValue = settings₂.toValue ∧
    options.outcome? session settings₁ world = options.outcome? session settings₂ world ∧
    (run settings₂).journal =
      (run settings₁).journal.mapRequests (Request.withKey (settings₂ .geminiKey)) ∧
    ∀ threshold,
      let ending₁ := ending settings₁ threshold
      let ending₂ := ending settings₂ threshold
      ending₁.journal.records = ending₂.journal.records ∧
      ending₁.journal.consultations = ending₂.journal.consultations ∧
      ending₁.journal.prompts = ending₂.journal.prompts ∧
      ending₁.journal.pauses = ending₂.journal.pauses ∧
      ending₂.journal.requests =
        ending₁.journal.requests.map (Request.withKey (settings₂ .geminiKey)) ∧
      ending₁.journal.requests.map Request.payload =
        ending₂.journal.requests.map Request.payload ∧
      ending₁.world = ending₂.world ∧ ending₁.output = ending₂.output ∧
      ending₁.complaint = ending₂.complaint ∧ ending₁.exit = ending₂.exit := by
  intro run ending
  have ran : run settings₂ =
      (run settings₁).mapRequests (Request.withKey (settings₂ .geminiKey)) :=
    options.runWith_sameButKey differ world ignores
  refine ⟨differ.toValue, options.outcome?_sameButKey differ world ignores,
    congrArg Step.journal ran, fun threshold => ?_⟩
  have ends : ending settings₂ threshold =
      { ending settings₁ threshold with
        journal := (ending settings₁ threshold).journal.mapRequests
          (Request.withKey (settings₂ .geminiKey)) } := by
    simp only [ending, ran, Ending.ofStep_mapRequests, Ending.atLeast,
      Journal.atLeast_mapRequests]
  obtain ⟨records, consultations, prompts, pauses⟩ := Journal.others_mapRequests
    (Request.withKey (settings₂ .geminiKey)) (ending settings₁ threshold).journal
  rw [ends]
  refine ⟨records.symm, consultations.symm, prompts.symm, pauses.symm,
    Journal.requests_mapRequests _ _, ?_, rfl, rfl, rfl, rfl⟩
  rw [Journal.requests_mapRequests, List.map_map]
  rfl

end Commands

/-- A script is corrected at the second attempt, with either key and the same records. -/
theorem runWith_keeps_key_secret_second_attempt :
    let settings (key : String) := Settings.default.below (.single .geminiKey (.str key))
    let session : Session (List Delivery) := ⟨⟨[], "k", fun _ => none, .notInstalled⟩, [], false,
      fun _ script => (script.headD .interrupted, script.tail)⟩
    let options : FixOptions :=
      ⟨⟨none, ".", none, [], none, none, true, false, true⟩, ["a.js"], none, none, false, false⟩
    let world : World (List Delivery) :=
      ⟨⟨[(["a.js"], .file (Text.Utf8.encode "exec(x)") 0o644)]⟩,
        [.response 503 [], .response 200 (Text.Utf8.encode
          ("\x7b\"candidates\": [\x7b\"content\": " ++
            "\x7b\"parts\": [\x7b\"text\": \"a;\"\x7d]\x7d\x7d]\x7d"))]⟩
    let ending (key : String) :=
      (Ending.ofStep session.environment
        (options.runWith session (settings key) world)).atLeast .debug
    (settings "one").SameButKey (settings "two") ∧ session.transport.IgnoresParameters ∧
      (ending "one").exit = .status .changesApplied ∧
      (ending "one").journal.requests.length = 2 ∧
      (ending "two").exit = (ending "one").exit ∧
      (ending "two").journal.records = (ending "one").journal.records ∧
      (ending "two").journal.requests =
        (ending "one").journal.requests.map (Request.withKey (.str "two")) := by
  intro settings session options world ending
  have differ : (settings "one").SameButKey (settings "two") := by
    refine ⟨fun setting other => ?_, rfl, rfl⟩
    simp only [settings, Settings.below, Layer.single, if_neg other]
  have ignores : session.transport.IgnoresParameters := fun _ _ _ => rfl
  obtain ⟨-, -, -, alike⟩ := options.runWith_keeps_key_secret differ world ignores
  obtain ⟨records, -, -, -, requests, -, -, -, -, exit⟩ := alike .debug
  have exits : (ending "one").exit = .status .changesApplied ∧
      (ending "one").journal.requests.length = 2 := by
    decide +kernel
  exact ⟨differ, ignores, exits.1, exits.2, exit.symm, records.symm, requests⟩

end Command.FixOptions

end Remedy

import Remedy.Proofs.Command.Layering
import Remedy.Proofs.Detector.Standard
import Remedy.Proofs.Settings.Validity

/-!
# The check before a run

What a run needs is made from its settings in three places, each of which looks at them anew: the
client, the detector, and the check itself. Settings of the right types that pass the check are
refused by none of the others. So a run that is refused because of its settings is refused before it
begins.
-/

set_option autoImplicit false

namespace Remedy

/-! ## Faults that are not of settings -/

namespace Step

variable {σ α β : Type}

def Unrefused (step : Step σ α) : Prop :=
  ∀ error, step.result ≠ .error (.fault (.settings error))

namespace Unrefused

theorem of_ok {step : Step σ α} {value : α} (ended : step.result = .ok value) :
    step.Unrefused := by
  intro error refused
  rw [ended] at refused
  cases refused

theorem of_attempt {state : σ} {result : Except Fault α}
    (other : ∀ error, result ≠ .error (.settings error)) :
    (Step.attempt state result).Unrefused := by
  intro error
  cases result with
  | error fault => simpa [Step.attempt, Except.mapError] using other error
  | ok value => simp [Step.attempt, Except.mapError]

theorem andThen {step : Step σ α} {next : α → σ → Step σ β} (first : step.Unrefused)
    (second : ∀ value state, (next value state).Unrefused) : (step.andThen next).Unrefused := by
  intro error
  cases ended : step.result with
  | error halt =>
    rw [Step.andThen_of_error ended]
    have other := first error
    rw [ended] at other
    simpa using other
  | ok value =>
    rw [Step.andThen_of_ok ended]
    exact second value step.state error

end Unrefused

end Step

namespace Pipeline

variable {σ : Type} (pipeline : Pipeline) (generate : Generator σ) (around : Surroundings)

theorem contain_unrefused (path : String) (step : Step (RunState σ) FileOutcome) :
    (contain path step).Unrefused := by
  intro error
  unfold contain
  split
  · simp
  · next other =>
    exact fun refused => other _ refused

theorem processAll_unrefused (paths : List String) (state : RunState σ) :
    (pipeline.processAll generate around paths state).Unrefused := by
  induction paths generalizing state with
  | nil => exact .of_ok rfl
  | cons path rest ih =>
    exact (contain_unrefused path _).andThen fun _ _ =>
      (ih _).andThen fun _ _ => .of_ok rfl

theorem run_unrefused (paths : Option (List String)) (state : RunState σ) :
    (pipeline.run generate around paths state).Unrefused := by
  have finished (outcomes : List FileOutcome) (state : RunState σ) :
      (finish outcomes state).Unrefused := .of_ok rfl
  have runsOver (paths : List String) (state : RunState σ) :
      (pipeline.runOver generate around paths state).Unrefused := by
    unfold runOver
    split
    · exact .of_ok rfl
    · exact Step.Unrefused.andThen (.of_ok rfl) fun _ state =>
        (pipeline.processAll_unrefused generate around paths state).andThen finished
  refine Step.Unrefused.andThen (.of_ok rfl) fun _ state => ?_
  split
  · intro error
    simp [Step.halted]
  · next journal chosen _ =>
    exact runsOver chosen state

end Pipeline

/-! ## What a run needs -/

section Equipment

variable {settings : Settings}

theorem Client.withPolicy_of_typed (typed : settings.Typed) (service : Service) :
    ∃ client, withPolicy settings (.ok service) = .ok client ∧ client.service = service := by
  obtain ⟨n, whole⟩ := typed .maxRetries
  simp only [withPolicy, Retry.granted, Value.compare, whole]
  exact ⟨_, rfl, rfl⟩

/-- A provider that is known and not paid with a key is of one's own, by either of its names. -/
theorem Client.own_of_known {name : String} (known : name ∈ SettingsError.providerNames)
    (elsewhere : name ≠ "gemini") : (name = "ollama" || name = "local") = true := by
  simpa [SettingsError.providerNames, elsewhere] using known

/-- Settings of the right types that pass the check of the provider have a client. -/
theorem Client.exists_ofSettings (typed : settings.Typed)
    (passed : settings.checkProvider = .ok ()) :
    ∃ provider address client, settings .provider = .str provider ∧
      settings .ollamaUrl = .str address ∧ ofSettings settings = .ok client ∧
      client.service =
        if Text.lower provider = "gemini" then
          .gemini (settings .geminiKey) (settings .geminiModel)
        else .ollama (settings .ollamaModel) (trimSlashes address) := by
  obtain ⟨provider, chosen, known, keyed⟩ := Settings.checkProvider_eq_ok_iff.mp passed
  obtain ⟨address, addressed⟩ := typed .ollamaUrl
  by_cases hosted : Text.lower provider = "gemini"
  · obtain ⟨client, served, serves⟩ := withPolicy_of_typed typed
      (.gemini (settings .geminiKey) (settings .geminiModel))
    refine ⟨provider, address, client, chosen, addressed, ?_, by rw [serves, if_pos hosted]⟩
    simp only [ofSettings, chosen, Settings.lowered, hosted, keyed hosted, if_true, served]
  · obtain ⟨client, served, serves⟩ := withPolicy_of_typed typed
      (.ollama (settings .ollamaModel) (trimSlashes address))
    have own := own_of_known known hosted
    refine ⟨provider, address, client, chosen, addressed, ?_, by rw [serves, if_neg hosted]⟩
    simp only [ofSettings, chosen, Settings.lowered, hosted, own, if_true, if_false, ollama,
      addressed, served]

/-- Values of other types may keep settings that pass the check from having a client, but not their
provider or their key. -/
theorem Client.ofSettings_unrefused (passed : settings.checkProvider = .ok ())
    (error : SettingsError) : ofSettings settings ≠ .error (.settings error) := by
  have policed {service : Except Fault Service} (fine : service ≠ .error (.settings error)) :
      withPolicy settings service ≠ .error (.settings error) := by
    unfold withPolicy
    split
    · simp
    · cases service with
      | error fault => simpa [Except.map] using fine
      | ok service => simp [Except.map]
  have owned : ollama settings ≠ .error (.settings error) := by
    unfold ollama
    split <;> simp
  obtain ⟨provider, chosen, known, keyed⟩ := Settings.checkProvider_eq_ok_iff.mp passed
  simp only [ofSettings, chosen, Settings.lowered]
  split
  · next hosted =>
    rw [if_pos (keyed hosted)]
    exact policed (by simp)
  · next elsewhere =>
    rw [if_pos (own_of_known known elsewhere)]
    exact policed owned

theorem Pipeline.ofSettings_unrefused {categories : List Category}
    (enabled : settings.enabledCategories = .ok categories) (root : String)
    (error : SettingsError) : ofSettings settings root ≠ .error (.settings error) := by
  simp only [ofSettings, enabled, Except.map]
  split <;> simp

theorem Pipeline.exists_ofSettings (typed : settings.Typed) {categories : List Category}
    (enabled : settings.enabledCategories = .ok categories) (root : String) :
    ∃ pipeline, ofSettings settings root = .ok pipeline ∧
      pipeline.detector = .standard categories := by
  obtain ⟨extensions, ending⟩ := typed .extensions
  obtain ⟨excluded, starting⟩ := typed .excludedPaths
  simp only [ofSettings, Selection.check, ending, starting, Setting.texts, Value.members, enabled,
    Except.map]
  exact ⟨_, rfl, rfl⟩

end Equipment

/-! ## The command -/

namespace Command.FixOptions

variable {σ : Type} {options : FixOptions} {session : Session σ} {settings : Settings}

/-- The settings of a command, once they are found to allow a run. -/
def admitted [Interpreter] (options : FixOptions) (session : Session σ) (tree : FileTree) :
    Except Fault Settings :=
  match options.settings session tree with
  | .error fault => .error fault
  | .ok settings => settings.validate.map fun _ => settings

theorem admitted_eq_ok [Interpreter] {tree : FileTree}
    (admits : options.admitted session tree = .ok settings) :
    options.settings session tree = .ok settings ∧ settings.validate = .ok () := by
  simp only [admitted] at admits
  split at admits
  · cases admits
  · next found loaded =>
    obtain ⟨checked, valid, rfl⟩ := exists_of_map_eq_ok admits
    exact ⟨loaded, valid⟩

theorem run_of_refused [Interpreter] {world : World σ} {fault : Fault}
    (refused : options.admitted session world.tree = .error fault) :
    options.run session world = Step.halted world (.fault fault) := by
  simp only [admitted] at refused
  split at refused
  · next loaded =>
    cases refused
    rw [run, loaded, Step.attempt_error_andThen]
  · next settings loaded =>
    rw [run, loaded, Step.attempt_ok_andThen, runWith]
    cases checked : settings.validate with
    | error other =>
      rw [checked] at refused
      cases refused
      rw [Step.attempt_error_andThen]
    | ok _ =>
      rw [checked] at refused
      cases refused

/-- Settings of any types that pass the check may still not be made a client or a pipeline of, but
not because of an error of settings. -/
theorem equipment_unrefused (valid : settings.validate = .ok ()) (error : SettingsError) :
    options.equipment settings ≠ .error (.settings error) := by
  obtain ⟨passed, -, -, -, passed'⟩ := Settings.validate_eq_ok_iff.mp valid
  obtain ⟨categories, enabled, -⟩ := Settings.checkCategories_eq_ok_iff.mp passed'
  unfold equipment
  split
  · next fault unserved =>
    have other := Client.ofSettings_unrefused passed error
    rw [unserved] at other
    simpa using other
  · have other := Pipeline.ofSettings_unrefused enabled options.common.root error
    cases piped : Pipeline.ofSettings settings options.common.root with
    | error fault =>
      rw [piped] at other
      simpa [Except.map] using other
    | ok pipeline => simp [Except.map]

theorem conclude_unrefused (options : FixOptions) (session : Session σ) (settings : Settings)
    (outcome : RunOutcome) (world : World σ) :
    (options.conclude session settings outcome world).Unrefused := by
  refine Step.Unrefused.andThen (.of_attempt fun error => ?_) fun writer world =>
    Step.Unrefused.andThen (fun error => ?_) fun _ _ => .of_ok rfl
  · unfold CommonOptions.writer
    split
    · split <;> simp
    · simp
  · unfold CommonOptions.deliver
    split
    · simp [Step.done]
    · split <;> simp [Step.halted, Step.done]

/-- Once its settings allow a run a command does not end because of settings. -/
theorem run_of_admitted [Interpreter] {world : World σ}
    (admits : options.admitted session world.tree = .ok settings) :
    (options.run session world).Unrefused := by
  obtain ⟨loaded, valid⟩ := admitted_eq_ok admits
  rw [run, loaded, Step.attempt_ok_andThen, runWith, valid, Step.attempt_ok_andThen]
  intro error
  rw [Step.after_result]
  refine Step.Unrefused.andThen (.of_attempt (equipment_unrefused valid))
    (fun (client, pipeline) world => ?_) error
  refine Step.Unrefused.andThen ?_ (conclude_unrefused options session settings)
  exact pipeline.run_unrefused _ _ _ _

/-- The check is all that stands before a run. Settings of the right types that pass it give a
client of the provider that they name, in any case, and a detector of the rules in just those
categories that they name, in any case, which are some. Whenever a command ends because of its
settings it has changed nothing and asked nobody, and it ends so whatever other files there are. -/
theorem start_guarded [Interpreter] (options : FixOptions) :
    (∀ settings : Settings, settings.Typed → settings.validate = .ok () →
      ∃ provider address names client pipeline,
        settings .provider = .str provider ∧ settings .ollamaUrl = .str address ∧
        settings .categories = Setting.texts names ∧
        options.equipment settings = .ok (client, pipeline) ∧
        client.service =
          (if Text.lower provider = "gemini" then
            .gemini (settings .geminiKey) (settings .geminiModel)
          else .ollama (settings .ollamaModel) (Client.trimSlashes address)) ∧
        pipeline.detector.categories ≠ [] ∧
        (∀ name ∈ names, ∃ category : Category, Text.lower name = category.name) ∧
        ∀ rule, rule ∈ pipeline.detector.rules ↔
          rule ∈ Rule.builtin ∧ ∃ name ∈ names, Text.lower name = rule.category.name) ∧
    ∀ (session : Session σ) (world : World σ) (error : SettingsError),
      (options.run session world).result = .error (.fault (.settings error)) →
      (options.run session world).journal = [] ∧ (options.run session world).state = world ∧
      ∀ other : World σ,
        options.settings session other.tree = options.settings session world.tree →
        options.run session other = Step.halted other (.fault (.settings error)) := by
  constructor
  · intro settings typed valid
    obtain ⟨passed, -, -, -, passed'⟩ := Settings.validate_eq_ok_iff.mp valid
    obtain ⟨provider, address, client, chosen, addressed, served, serves⟩ :=
      Client.exists_ofSettings typed passed
    obtain ⟨categories, enabled, some⟩ := Settings.checkCategories_eq_ok_iff.mp passed'
    obtain ⟨names, named⟩ := typed .categories
    obtain ⟨pipeline, piped, detects⟩ :=
      Pipeline.exists_ofSettings typed enabled options.common.root
    have among := Settings.mem_enabledCategories_iff named enabled
    refine ⟨provider, address, names, client, pipeline, chosen, addressed, named, ?_, serves, ?_,
      fun name listed => ?_, fun rule => ?_⟩
    · simp only [equipment, served, piped, Except.map]
    · rw [detects]
      exact some
    · have each := (Settings.enabledCategories_eq_ok_iff named).mp enabled
      have member : Text.lower name ∈ categories.map Category.name :=
        each ▸ List.mem_map_of_mem listed
      obtain ⟨category, -, same⟩ := List.mem_map.mp member
      exact ⟨category, same.symm⟩
    · rw [detects, Detector.standard, Detector.mem_rules_iff, Detector.mem_entries_builtin_iff,
        or_iff_right some, among]
  · intro session world error refused
    cases admits : options.admitted session world.tree with
    | ok settings => exact absurd refused (run_of_admitted admits error)
    | error fault =>
      have ends := run_of_refused admits
      rw [ends] at refused
      cases refused
      rw [ends]
      refine ⟨rfl, rfl, fun other same => run_of_refused ?_⟩
      rw [admitted, same]
      exact admits

/-- With a provider and a category in other cases a run has a service of one's own and the rules for
markup alone. A provider that nobody knows keeps a command from a file that would be flagged, just
as from no file at all. -/
theorem start_guarded_own_service :
    let settings := (Settings.default.below (.single .provider (.str "Local"))).below
      (.single .categories (Setting.texts ["XSS"]))
    let session : Session Unit := ⟨⟨[], "k", fun _ => none, .notInstalled⟩, [], false,
      fun _ state => (.interrupted, state)⟩
    let options : FixOptions := ⟨⟨none, ".", none, [], none, none, false, false, true⟩, ["a.js"],
      some "nobody", none, false, false⟩
    let flagged : World Unit := ⟨⟨[(["a.js"], .file (Text.Utf8.encode "exec(x)") 0o644)]⟩, ()⟩
    let bare : World Unit := ⟨.empty, ()⟩
    let refusal : Halt := .fault (.settings (.unexpectedProvider "nobody"))
    settings.Typed ∧ settings.validate = .ok () ∧
      (∃ client pipeline, options.equipment settings = .ok (client, pipeline) ∧
        client.service.name = "ollama" ∧ Rule.unescapedHtml ∈ pipeline.detector.rules ∧
        Rule.shellExecution ∉ pipeline.detector.rules) ∧
      (options.run session flagged).result = .error refusal ∧
      (options.run session flagged).journal = [] ∧
      options.settings session bare.tree = options.settings session flagged.tree ∧
      options.run session bare = Step.halted bare refusal := by
  intro settings session options flagged bare refusal
  have typed : settings.Typed := by
    refine (Settings.typed_default.below_single ?_).below_single ?_
    · exact ⟨"Local", rfl⟩
    · exact ⟨["XSS"], rfl⟩
  have valid : settings.validate = .ok () := by
    rfl
  have nothing : SettingsFile.find bare.tree session.around.directory "." = .ok none ∧
      SettingsFile.find flagged.tree session.around.directory "." = .ok none := by
    decide +kernel
  have same : options.settings session bare.tree = options.settings session flagged.tree := by
    simp only [FixOptions.settings, CommonOptions.settingsBelow, Settings.load,
      SettingsFile.entries, options, nothing]
  have refused : (options.run session flagged).result = .error refusal := by
    decide +kernel
  obtain ⟨passes, guards⟩ := @start_guarded Unit _ options
  obtain ⟨provider, address, names, client, pipeline, chosen, -, named, equipped, serves, -, -,
    rules⟩ := passes settings typed valid
  have listed : ["XSS"] = names :=
    List.map_injective_iff.mpr (fun _ _ => Value.str.inj) (Value.list.inj named)
  cases chosen
  subst listed
  obtain ⟨silent, -, alike⟩ := guards session flagged _ refused
  refine ⟨typed, valid, ⟨client, pipeline, equipped, ?_, ?_, ?_⟩, refused, silent, same,
    alike bare same⟩
  · rw [serves, if_neg (by decide +kernel)]
    rfl
  · exact (rules _).mpr ⟨by decide +kernel, "XSS", List.mem_singleton_self _, by decide +kernel⟩
  · rintro member
    obtain ⟨-, name, isName, lowered⟩ := (rules _).mp member
    rw [List.mem_singleton.mp isName] at lowered
    revert lowered
    decide +kernel

end Command.FixOptions

end Remedy

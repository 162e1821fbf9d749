import Remedy.Command.Fix
import Remedy.Command.Scan
import Remedy.Proofs.Json.RoundTrip
import Remedy.Proofs.Settings.Sections
import Remedy.Proofs.Text.Utf8

/-!
# The layers of settings

A command's settings come in layers: its options over the variables of the environment, these over
the settings file, and in that the sections over the top level; what no layer sets has its default.
Each setting has one variable and one option at most, but for the model of the options: it is that
of the provider in use, which itself is known when all layers have been put together.
-/

set_option autoImplicit false

namespace Remedy

theorem exists_of_map_eq_ok {ε α β : Type} {f : α → β} {attempt : Except ε α} {result : β}
    (mapped : attempt.map f = .ok result) : ∃ value, attempt = .ok value ∧ f value = result := by
  cases attempt with
  | error error => cases mapped
  | ok value => exact ⟨value, rfl, Except.ok.inj mapped⟩

/-! ## The environment -/

namespace Setting

/-- The variable that sets a setting, and how its text is converted. -/
def inEnvironment? : Setting → Option (String × Conversion)
  | provider => some ("AI_PROVIDER", .text)
  | geminiKey => some ("GEMINI_API_KEY", .text)
  | geminiModel => some ("GEMINI_MODEL", .text)
  | ollamaModel => some ("OLLAMA_MODEL", .text)
  | ollamaUrl => some ("OLLAMA_URL", .text)
  | baseRef => some ("GITHUB_BASE_REF", .text)
  | requestTimeout => some ("SECURITYAGENT_TIMEOUT", .decimal)
  | maxRetries => some ("SECURITYAGENT_MAX_RETRIES", .whole)
  | _ => none

/-- The converted text of the variable of a setting, if it is there and not empty. -/
def fromVariable? (setting : Setting) (environment : Environment) : Option Value :=
  match setting.inEnvironment? with
  | some (name, conversion) =>
    (Variable.text? environment name).bind conversion.apply?
  | none => none

end Setting

namespace Variable

variable {environment : Environment}

theorem layer_eq_ok {v : Variable} {layer : Layer} (read : v.layer environment = .ok layer) :
    (text? environment v.name = none ∧ layer = .empty) ∨
      ∃ text value, text? environment v.name = some text ∧
        v.conversion.apply? text = some value ∧ layer = .single v.setting value := by
  unfold Variable.layer at read
  cases set : text? environment v.name with
  | none =>
    rw [set] at read
    cases read
    exact Or.inl ⟨rfl, rfl⟩
  | some text =>
    simp only [set] at read
    cases converted : v.conversion.apply? text with
    | none =>
      rw [converted] at read
      cases read
    | some value =>
      rw [converted] at read
      cases read
      exact Or.inr ⟨text, value, rfl, converted, rfl⟩

theorem layers_cons_eq_ok {v : Variable} {rest : List Variable} {layer : Layer}
    (read : layers environment (v :: rest) = .ok layer) :
    ∃ upper lower, v.layer environment = .ok upper ∧ layers environment rest = .ok lower ∧
      layer = upper.above lower := by
  unfold layers at read
  cases first : v.layer environment with
  | error error =>
    rw [first] at read
    cases read
  | ok upper =>
    simp only [first] at read
    obtain ⟨lower, others, rfl⟩ := exists_of_map_eq_ok read
    exact ⟨upper, lower, rfl, others, rfl⟩

def says? (v : Variable) (environment : Environment) (setting : Setting) : Option Value :=
  if v.setting = setting then (text? environment v.name).bind v.conversion.apply? else none

theorem layer_apply {v : Variable} {layer : Layer} (read : v.layer environment = .ok layer)
    (setting : Setting) : layer setting = v.says? environment setting := by
  rcases layer_eq_ok read with ⟨unset, rfl⟩ | ⟨text, value, set, converted, rfl⟩
  · simp [Layer.empty, says?, unset]
  · simp [Layer.single, says?, set, converted, eq_comm]

theorem layers_apply {list : List Variable} {layer : Layer}
    (read : layers environment list = .ok layer) (setting : Setting) :
    layer setting =
      list.foldr (fun v lower => (v.says? environment setting).or lower) none := by
  induction list generalizing layer with
  | nil =>
    cases read
    rfl
  | cons v rest ih =>
    obtain ⟨upper, lower, first, others, rfl⟩ := layers_cons_eq_ok read
    rw [Layer.above, layer_apply first, ih others, List.foldr_cons]

theorem layers_all {layer : Layer} (read : layers environment all = .ok layer)
    (setting : Setting) : layer setting = setting.fromVariable? environment := by
  rw [layers_apply read]
  cases setting <;> simp [all, says?, Setting.fromVariable?, Setting.inEnvironment?]

theorem converts_of_layers {list : List Variable} {layer : Layer}
    (read : layers environment list = .ok layer) {v : Variable} (member : v ∈ list) {text : String}
    (set : text? environment v.name = some text) :
    ∃ value, v.conversion.apply? text = some value := by
  induction list generalizing layer with
  | nil => cases member
  | cons first rest ih =>
    obtain ⟨upper, lower, here, others, -⟩ := layers_cons_eq_ok read
    rcases List.mem_cons.mp member with rfl | later
    · rcases layer_eq_ok here with ⟨unset, -⟩ | ⟨text', value, set', converted, -⟩
      · rw [unset] at set
        cases set
      · rw [set'] at set
        cases set
        exact ⟨value, converted⟩
    · exact ih others later

end Variable

/-! ## The options -/

namespace Command

/-- Whether a provider is the service that is paid with a key, in any case. -/
def isGemini : Value → Bool
  | .str name => Text.lower name = "gemini"
  | _ => false

/-- What the options that commands share say about a setting. -/
def CommonOptions.says? (options : CommonOptions) : Setting → Option Value
  | .baseRef => (nonempty options.baseRef).map .str
  | .categories =>
    if options.categories = [] then none else some (.list (options.categories.map .str))
  | .outputFormat => (nonempty options.format).map .str
  | _ => none

/-- What the options of a run that replaces files say about a setting. The model is that of the
provider in use. -/
def FixOptions.says? (options : FixOptions) (provider : Value) : Setting → Option Value
  | .provider => (nonempty options.provider).map .str
  | .geminiModel => if isGemini provider then (nonempty options.model).map .str else none
  | .ollamaModel => if isGemini provider then none else (nonempty options.model).map .str
  | .dryRun => if options.dryRun then some (.bool true) else none
  | .failOnError => if options.failOnError then some (.bool true) else none
  | setting => options.common.says? setting

/-- What a setting comes to: what an option says about it, or else its variable, or else its
section, or else the top level of the file, or else its default. -/
def layered (option : Option Value) (environment : Environment) (entries : List (Value × Value))
    (setting : Setting) : Value :=
  (option.or ((setting.fromVariable? environment).or
    ((setting.fromSection? entries).or (Value.lookup setting.name entries)))).getD setting.default

theorem SettingsFile.entries_named [Interpreter] {path : String} (named : path ≠ "")
    (tree : FileTree) (directory : Path) (start : String) :
    SettingsFile.entries tree directory (some path) start =
      SettingsFile.load tree directory path :=
  if_neg named

theorem FileTree.readLines_of_render {tree : FileTree} {directory : Path} {path : String}
    {document : Json}
    (held : tree.readBytes directory path = .ok (Text.Utf8.encode (document.render .oneLine)))
    (unified : Text.unifyNewlinesChars (document.print .oneLine 0) = document.print .oneLine 0) :
    tree.readLines directory path = .ok (document.render .oneLine) := by
  simp only [FileTree.readLines, FileTree.readText, held, Text.Utf8.decode_encode, Except.map,
    Text.unifyNewlines, Json.render, String.toList_ofList, unified]

theorem SettingsFile.load_of_document [Interpreter] {tree : FileTree} {directory : Path}
    {spelling path text : String} {document : Json (List Text.Point)}
    {entries : List (Value × Value)} (tidy : Path.tidy spelling = path)
    (isJson : Path.suffix path = ".json") (there : tree.exists? directory path = .ok true)
    (lines : tree.readLines directory path = .ok text)
    (read : Json.read Interpreter.fileRoom text = .ok document)
    (value : (document.map Text.legible).toValue = .map entries) :
    SettingsFile.load tree directory spelling = .ok entries := by
  have parsed : SettingsFile.parse path text = .ok (some (.map entries)) := by
    unfold SettingsFile.parse
    rw [if_pos isJson, read]
    simp only [value]
  unfold SettingsFile.load
  simp only [tidy, there, lines, parsed]
  rfl

variable {σ : Type} {session : Session σ} {tree : FileTree} {settings : Settings}

def CommonOptions.entries [Interpreter] (options : CommonOptions) (session : Session σ)
    (tree : FileTree) :
    Except Fault (List (Value × Value)) :=
  SettingsFile.entries tree session.around.directory options.config options.root

namespace CommonOptions

variable {options : CommonOptions} {layer : Layer}

theorem layer_apply (options : CommonOptions) {setting : Setting} (other : setting ≠ .root) :
    options.layer setting = options.says? setting := by
  cases setting <;> simp_all [CommonOptions.layer, says?, Setting.texts]

theorem settingsBelow_eq_ok [Interpreter]
    (built : options.settingsBelow layer session tree = .ok settings) :
    ∃ entries upper, options.entries session tree = .ok entries ∧
      Variable.layers session.environment Variable.all = .ok upper ∧
      settings = ((Settings.ofEntries entries).below upper).below layer := by
  unfold settingsBelow Settings.load at built
  obtain ⟨loaded, load, rfl⟩ := exists_of_map_eq_ok built
  unfold CommonOptions.entries
  cases read : SettingsFile.entries tree session.around.directory options.config options.root with
  | error fault =>
    rw [read] at load
    cases load
  | ok entries =>
    simp only [read, Settings.belowEnvironment] at load
    cases given : Variable.layers session.environment Variable.all with
    | error error =>
      rw [given] at load
      cases load
    | ok upper =>
      rw [given] at load
      cases load
      exact ⟨entries, upper, rfl, rfl, rfl⟩

theorem settingsBelow_apply [Interpreter]
    (built : options.settingsBelow layer session tree = .ok settings) :
    ∃ entries, options.entries session tree = .ok entries ∧
      (∀ v ∈ Variable.all, ∀ text, Variable.text? session.environment v.name = some text →
        ∃ value, v.conversion.apply? text = some value) ∧
      ∀ setting,
        settings setting = layered (layer setting) session.environment entries setting := by
  obtain ⟨entries, upper, read, given, rfl⟩ := settingsBelow_eq_ok built
  refine ⟨entries, read, fun v member text set => Variable.converts_of_layers given member set,
    fun setting => ?_⟩
  simp only [Settings.below, Settings.ofEntries, Layer.ofEntries_apply, Variable.layers_all given,
    layered, Settings.default]
  cases layer setting <;> cases setting.fromVariable? session.environment <;> rfl

theorem settingsBelow_of_entries [Interpreter] {entries : List (Value × Value)} {upper : Layer}
    (read : options.entries session tree = .ok entries)
    (given : Variable.layers session.environment Variable.all = .ok upper) :
    options.settingsBelow layer session tree =
      .ok (((Settings.ofEntries entries).below upper).below layer) := by
  unfold CommonOptions.entries at read
  simp only [settingsBelow, Settings.load, read, Settings.belowEnvironment, given]
  rfl

theorem settingsBelow_congr [Interpreter] {tree' : FileTree}
    {entries entries' : List (Value × Value)}
    (read : options.entries session tree = .ok entries)
    (read' : options.entries session tree' = .ok entries')
    (same : Layer.ofEntries entries = Layer.ofEntries entries') :
    options.settingsBelow layer session tree = options.settingsBelow layer session tree' := by
  unfold CommonOptions.entries at read read'
  simp only [settingsBelow, Settings.load, read, read', Settings.ofEntries, same]

end CommonOptions

/-! ## Commands -/

namespace FixOptions

def modelSays? (options : FixOptions) (provider : Value) (setting : Setting) : Option Value :=
  if setting = (if isGemini provider then .geminiModel else .ollamaModel) then
    (nonempty options.model).map .str
  else none

/-- The model goes to the setting for the provider, and the provider stays what it is. -/
theorem withModel_apply {options : FixOptions} {lower : Settings}
    (built : options.withModel lower = .ok settings) :
    settings .provider = lower .provider ∧
      ∀ setting, settings setting =
        (options.modelSays? (lower .provider) setting).getD (lower setting) := by
  unfold withModel at built
  cases model : nonempty options.model with
  | none =>
    rw [model] at built
    cases built
    refine ⟨rfl, fun setting => ?_⟩
    simp [modelSays?, model]
  | some text =>
    simp only [model] at built
    obtain ⟨name, isName, rfl⟩ := exists_of_map_eq_ok built
    have chosen : modelSetting name =
        if isGemini (lower .provider) then .geminiModel else .ollamaModel := by
      cases provider : lower .provider <;> rw [provider] at isName <;> cases isName
      simp [modelSetting, isGemini]
    have notProvider : .provider ≠ modelSetting name := by
      unfold modelSetting
      split <;> decide
    refine ⟨Settings.below_of_none (if_neg notProvider), fun setting => ?_⟩
    simp only [Settings.below, Layer.single, modelSays?, model, chosen]
    rfl

theorem exists_withModel (options : FixOptions) {lower : Settings} {name : String}
    (provider : lower .provider = .str name) :
    ∃ settings, options.withModel lower = .ok settings := by
  unfold withModel
  cases nonempty options.model with
  | none => exact ⟨lower, rfl⟩
  | some text =>
    rw [provider]
    exact ⟨_, rfl⟩

theorem exists_settings [Interpreter] {options : FixOptions} {entries : List (Value × Value)}
    {upper : Layer} {name : String} (read : options.common.entries session tree = .ok entries)
    (given : Variable.layers session.environment Variable.all = .ok upper)
    (provider : (((Settings.ofEntries entries).below upper).below options.layer) .provider =
      .str name) :
    ∃ settings, options.settings session tree = .ok settings := by
  unfold FixOptions.settings
  rw [CommonOptions.settingsBelow_of_entries read given]
  exact options.exists_withModel provider

theorem says?_eq (options : FixOptions) (provider : Value) {setting : Setting}
    (other : setting ≠ .root) :
    (options.modelSays? provider setting).or (options.layer setting) =
      options.says? provider setting := by
  unfold modelSays?
  cases chosen : isGemini provider <;> cases setting <;>
    simp_all [FixOptions.layer, FixOptions.says?, switched, CommonOptions.layer_apply,
      CommonOptions.says?]

theorem settings_apply [Interpreter] {options : FixOptions}
    (built : options.settings session tree = .ok settings) :
    ∃ entries, options.common.entries session tree = .ok entries ∧
      (∀ v ∈ Variable.all, ∀ text, Variable.text? session.environment v.name = some text →
        ∃ value, v.conversion.apply? text = some value) ∧
      ∀ setting, setting ≠ .root →
        settings setting = layered (options.says? (settings .provider) setting)
          session.environment entries setting := by
  unfold FixOptions.settings at built
  cases below : options.common.settingsBelow options.layer session tree with
  | error fault =>
    rw [below] at built
    cases built
  | ok lower =>
    rw [below] at built
    obtain ⟨entries, read, converts, values⟩ := CommonOptions.settingsBelow_apply below
    obtain ⟨provider, modelled⟩ := withModel_apply built
    refine ⟨entries, read, converts, fun setting other => ?_⟩
    rw [modelled, provider, ← options.says?_eq _ other, values setting]
    cases options.modelSays? (lower .provider) setting <;> rfl

end FixOptions

/-- Settings come in layers. Where the settings of a command can be built, of either kind, each of
them but the root is what the highest layer says that sets it: an option that is not empty, a
variable that is not empty, converted, the section for it if that is a mapping with its key, the top
level, and at last the default. The model of the options is that of the provider that this comes to,
and the other model is left to the lower layers. Another settings file leads to the same settings
if it differs only in keys that nobody knows, sections that are no mappings, and the order of
keys. -/
theorem settings_layered [Interpreter] (session : Session σ) (tree : FileTree) :
    (∀ (options : FixOptions) (settings : Settings),
      options.settings session tree = .ok settings →
      ∃ entries, options.common.entries session tree = .ok entries ∧
        (∀ v ∈ Variable.all, ∀ text, Variable.text? session.environment v.name = some text →
          ∃ value, v.conversion.apply? text = some value) ∧
        (∀ setting, setting ≠ .root →
          settings setting = layered (options.says? (settings .provider) setting)
            session.environment entries setting) ∧
        ∀ tree' entries', options.common.entries session tree' = .ok entries' →
          Relation.EqvGen Immaterial entries entries' →
          options.settings session tree' = .ok settings) ∧
    (∀ (options : ScanOptions) (settings : Settings),
      options.settings session tree = .ok settings →
      ∃ entries, options.common.entries session tree = .ok entries ∧
        (∀ v ∈ Variable.all, ∀ text, Variable.text? session.environment v.name = some text →
          ∃ value, v.conversion.apply? text = some value) ∧
        (∀ setting, setting ≠ .root →
          settings setting = layered (options.common.says? setting)
            session.environment entries setting) ∧
        ∀ tree' entries', options.common.entries session tree' = .ok entries' →
          Relation.EqvGen Immaterial entries entries' →
          options.settings session tree' = .ok settings) := by
  constructor
  · intro options settings built
    obtain ⟨entries, read, converts, values⟩ := FixOptions.settings_apply built
    refine ⟨entries, read, converts, values, fun tree' entries' read' changes => ?_⟩
    rw [FixOptions.settings, ← CommonOptions.settingsBelow_congr read read'
      (Immaterial.ofEntries_eq_of_eqvGen changes)]
    exact built
  · intro options settings built
    obtain ⟨entries, read, converts, values⟩ := CommonOptions.settingsBelow_apply built
    refine ⟨entries, read, converts, fun setting other => ?_,
      fun tree' entries' read' changes => ?_⟩
    · rw [values, options.common.layer_apply other]
    · rw [ScanOptions.settings, ← CommonOptions.settingsBelow_congr read read'
        (Immaterial.ofEntries_eq_of_eqvGen changes)]
      exact built

/-- Entries for a service of one's own, and three that nobody asks for. -/
def wordyEntries : List (Value × Value) :=
  [(.str "nobody", .int 1), (.str "max_retries", .int 7), (.str "ollama_url", .str "flat"),
    (.str "ollama", .map [(.str "url", .str "box"), (.str "speed", .int 2)]),
    (.str "retry_delay", .int 4), (.str "changes", .int 5)]

def briefEntries : List (Value × Value) :=
  [(.str "retry_delay", .int 4), (.str "ollama", .map [(.str "url", .str "box")]),
    (.str "ollama_url", .str "flat"), (.str "max_retries", .int 7)]

/-- One after the other: a key that nobody knows, one in a section, a section that is no mapping,
and the order. -/
theorem immaterial_wordyEntries : Relation.EqvGen Immaterial wordyEntries briefEntries := by
  let flat : List (Value × Value) :=
    [(.str "max_retries", .int 7), (.str "ollama_url", .str "flat")]
  let url : Value × Value := (.str "url", .str "box")
  let delay : Value × Value := (.str "retry_delay", .int 4)
  let changes : Value × Value := (.str "changes", .int 5)
  have nobody : Immaterial wordyEntries
      (flat ++ (.str "ollama", .map ([url] ++ [(.str "speed", .int 2)])) :: [delay, changes]) := by
    refine .unknown _ _ [] _ (fun setting => ?_) (by simp [Setting.sections])
    cases setting <;> simp [Setting.name]
  have speed : Immaterial
      (flat ++ (.str "ollama", .map ([url] ++ [(.str "speed", .int 2)])) :: [delay, changes])
      ((flat ++ [(.str "ollama", .map [url]), delay]) ++ changes :: []) :=
    .unknownIn ⟨"ollama", _⟩ (by simp [Setting.sections]; rfl) flat _ _ _ [url] [] (by simp)
  have mapless : Immaterial ((flat ++ [(.str "ollama", .map [url]), delay]) ++ changes :: [])
      ((flat ++ [(.str "ollama", .map [url]), delay]) ++ []) :=
    .noMapping ⟨"changes", _⟩ (by simp [Setting.sections]; rfl) _ _ [] (by simp)
      (by simp [flat, delay])
  have order : Immaterial ((flat ++ [(.str "ollama", .map [url]), delay]) ++ []) briefEntries :=
    .order (List.reverse_perm briefEntries) (by simp [flat, delay])
  exact .trans _ _ _ (.rel _ _ nobody)
    (.trans _ _ _ (.rel _ _ speed) (.trans _ _ _ (.rel _ _ mapless) (.rel _ _ order)))

/-- A model for a service of one's own leaves that of the other service to its variable; a search
has no model at all. Of the settings file the section counts before the top level and both after the
variables, and without what nobody knows, in another order, it comes to the same settings. -/
theorem settings_layered_own_service :
    let session : Session Unit := ⟨⟨[], "k", fun _ => none, .notInstalled⟩,
      [("AI_PROVIDER", "Local"), ("GEMINI_MODEL", "pro"), ("SECURITYAGENT_MAX_RETRIES", "3")],
      false, fun _ state => (.interrupted, state)⟩
    let common : CommonOptions :=
      ⟨some "conf.json", ".", some "dev", [], none, none, false, false, false⟩
    let fix : FixOptions := ⟨common, [], none, some "small", true, false⟩
    let scan : ScanOptions := ⟨common, [], false⟩
    let holding (document : Json) : FileTree :=
      ⟨[(["conf.json"], .file (Text.Utf8.encode (document.render .oneLine)) 0o644)]⟩
    let full : Json := .obj [("nobody", .int 1), ("max_retries", .int 7),
      ("ollama_url", .str "flat"), ("ollama", .obj [("url", .str "box"), ("speed", .int 2)]),
      ("retry_delay", .int 4), ("changes", .int 5)]
    let short : Json := .obj [("retry_delay", .int 4), ("ollama", .obj [("url", .str "box")]),
      ("ollama_url", .str "flat"), ("max_retries", .int 7)]
    let tree := holding full
    let plain := holding short
    (∃ settings, fix.settings session tree = .ok settings ∧
      fix.settings session plain = .ok settings ∧
      settings .provider = .str "Local" ∧ settings .ollamaModel = .str "small" ∧
      settings .geminiModel = .str "pro" ∧ settings .ollamaUrl = .str "box" ∧
      settings .retryDelay = .int 4 ∧ settings .maxRetries = .int 3 ∧
      settings .dryRun = .bool true ∧ settings .remote = .str "origin") ∧
    ∃ settings, scan.settings session tree = .ok settings ∧
      scan.settings session plain = .ok settings ∧
      settings .baseRef = .str "dev" ∧ settings .ollamaModel = .str "llama3" ∧
      settings .ollamaUrl = .str "box" ∧ settings .dryRun = .bool false := by
  intro session common fix scan holding full short tree plain
  have loads {document : Json} {list : List (Value × Value)} (readable : document.Readable)
      (roomy : document.nesting ≤ 960)
      (unified : Text.unifyNewlinesChars (document.print .oneLine 0) = document.print .oneLine 0)
      (value : ((document.map Text.points).map Text.legible).toValue = .map list) :
      common.entries session (holding document) = .ok list := by
    have tidy : Path.tidy "conf.json" = "conf.json" := by decide
    rw [CommonOptions.entries, SettingsFile.entries_named (by decide)]
    exact SettingsFile.load_of_document tidy (by decide) rfl
      (FileTree.readLines_of_render rfl unified) (Json.read_render readable .oneLine roomy) value
  have read : common.entries session tree = .ok wordyEntries := by
    have inner : (Json.obj [("url", .str "box"), ("speed", .int 2)]).Readable := by
      refine .obj (by decide) ?_
      simp only [List.forall_mem_cons]
      exact ⟨.str _, .int (by decide), List.forall_mem_nil _⟩
    refine loads (.obj (by decide) ?_) (by decide) (by decide) ?_
    · simp only [List.forall_mem_cons]
      exact ⟨.int (by decide), .int (by decide), .str _, inner, .int (by decide), .int (by decide),
        List.forall_mem_nil _⟩
    · simp [full, Json.map, Json.mapObject, Json.toValue, Json.membersToEntries, wordyEntries]
  have readPlain : common.entries session plain = .ok briefEntries := by
    have inner : (Json.obj [("url", .str "box")]).Readable := by
      refine .obj (by decide) ?_
      simp only [List.forall_mem_cons]
      exact ⟨.str _, List.forall_mem_nil _⟩
    refine loads (.obj (by decide) ?_) (by decide) (by decide) ?_
    · simp only [List.forall_mem_cons]
      exact ⟨.int (by decide), inner, .str _, .int (by decide), List.forall_mem_nil _⟩
    · simp [short, Json.map, Json.mapObject, Json.toValue, Json.membersToEntries, briefEntries]
  obtain ⟨upper, given⟩ : ∃ upper, Variable.layers session.environment Variable.all = .ok upper :=
    ⟨_, rfl⟩
  obtain ⟨forFix, forScan⟩ := settings_layered session tree
  constructor
  · have above : upper .provider = some (.str "Local") := Variable.layers_all given _
    have provider : (((Settings.ofEntries wordyEntries).below upper).below fix.layer) .provider =
        .str "Local" := by
      rw [Settings.below_of_none rfl, Settings.below, above]
      rfl
    have entered : fix.common.entries session tree = .ok wordyEntries := read
    obtain ⟨settings, built⟩ := FixOptions.exists_settings entered given provider
    obtain ⟨entries', read', -, values, alike⟩ := forFix fix settings built
    cases read.symm.trans read'
    have chosen : settings .provider = .str "Local" := values .provider (by decide)
    rw [chosen] at values
    exact ⟨settings, built, alike plain _ readPlain immaterial_wordyEntries, chosen,
      values .ollamaModel (by decide), values .geminiModel (by decide),
      values .ollamaUrl (by decide), values .retryDelay (by decide),
      values .maxRetries (by decide), values .dryRun (by decide), values .remote (by decide)⟩
  · obtain ⟨settings, built⟩ : ∃ settings, scan.settings session tree = .ok settings :=
      ⟨_, CommonOptions.settingsBelow_of_entries read given⟩
    obtain ⟨entries', read', -, values, alike⟩ := forScan scan settings built
    cases read.symm.trans read'
    exact ⟨settings, built, alike plain _ readPlain immaterial_wordyEntries,
      values .baseRef (by decide), values .ollamaModel (by decide),
      values .ollamaUrl (by decide), values .dryRun (by decide)⟩

end Command

end Remedy

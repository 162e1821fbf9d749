import Remedy.Category
import Remedy.Value

/-!
Settings. Every setting has a value; what kind of value is not fixed, for settings files are
written by hand. Values come in layers: a layer gives values to some settings and leaves the
others to the layers below it, down to the defaults.
-/

namespace Remedy

inductive Setting where
  | provider
  | geminiKey
  | geminiModel
  | ollamaModel
  | ollamaUrl
  | root
  | baseRef
  | remote
  | extensions
  | excludedPaths
  | categories
  | dryRun
  | failOnError
  | requestTimeout
  | maxRetries
  | retryDelay
  | outputFormat
  deriving Repr, DecidableEq

namespace Setting

def all : List Setting :=
  [provider, geminiKey, geminiModel, ollamaModel, ollamaUrl, root, baseRef, remote, extensions,
    excludedPaths, categories, dryRun, failOnError, requestTimeout, maxRetries, retryDelay,
    outputFormat]

def name : Setting → String
  | provider => "provider"
  | geminiKey => "gemini_api_key"
  | geminiModel => "gemini_model"
  | ollamaModel => "ollama_model"
  | ollamaUrl => "ollama_url"
  | root => "root"
  | baseRef => "base_ref"
  | remote => "remote"
  | extensions => "extensions"
  | excludedPaths => "exclude_paths"
  | categories => "categories"
  | dryRun => "dry_run"
  | failOnError => "fail_on_error"
  | requestTimeout => "request_timeout"
  | maxRetries => "max_retries"
  | retryDelay => "retry_delay"
  | outputFormat => "output_format"

/-- A section of a file: its title, and the keys that may stand in it with the settings that they
stand for. -/
structure Section where
  title : String
  keys : List (String × Setting)
  deriving Repr, DecidableEq

def sections : List Section := [
  ⟨"gemini", [("model", geminiModel), ("api_key", geminiKey)]⟩,
  ⟨"ollama", [("model", ollamaModel), ("url", ollamaUrl)]⟩,
  ⟨"changes", [("base_ref", baseRef), ("remote", remote), ("extensions", extensions),
    ("exclude", excludedPaths)]⟩,
  ⟨"detection", [("categories", categories)]⟩,
  ⟨"remediation", [("dry_run", dryRun), ("fail_on_error", failOnError),
    ("request_timeout", requestTimeout), ("max_retries", maxRetries),
    ("retry_delay", retryDelay)]⟩,
  ⟨"output", [("format", outputFormat)]⟩]

def texts (list : List String) : Value :=
  .list (list.map .str)

def default : Setting → Value
  | provider => .str "gemini"
  | geminiKey => .null
  | geminiModel => .str "gemini-2.5-flash"
  | ollamaModel => .str "llama3"
  | ollamaUrl => .str "http://host.docker.internal:11434"
  | root => .str "."
  | baseRef => .str "main"
  | remote => .str "origin"
  | extensions => texts [".js"]
  | excludedPaths => texts ["scripts/", "securityagent/"]
  | categories => texts (Category.all.map Category.name)
  | dryRun => .bool false
  | failOnError => .bool false
  | requestTimeout => .float (.ofRatio false 120 1)
  | maxRetries => .int 2
  | retryDelay => .float (.ofRatio false 1 1)
  | outputFormat => .str "text"

end Setting

abbrev Layer := Setting → Option Value

abbrev Settings := Setting → Value

namespace Layer

def empty : Layer := fun _ => none

def single (setting : Setting) (value : Value) : Layer :=
  fun s => if s = setting then some value else none

def above (upper lower : Layer) : Layer :=
  fun s => (upper s).or (lower s)

/-- Brings the member of a section under a key to the top level, as the setting's own. -/
def raiseMember (members top : List (Value × Value)) (place : String × Setting) :
    List (Value × Value) :=
  match Value.lookup place.1 members with
  | some value => Value.insert (.str place.2.name) value top
  | none => top

/-- Brings a section that is a mapping to the top level, over what is there. Another one is only
taken away. -/
def raiseSection (entries : List (Value × Value)) (part : Setting.Section) :
    List (Value × Value) :=
  let top := Value.remove part.title entries
  match Value.lookup part.title entries with
  | some (.map members) => part.keys.foldl (raiseMember members) top
  | _ => top

def ofEntries (entries : List (Value × Value)) : Layer :=
  fun setting => Value.lookup setting.name (Setting.sections.foldl raiseSection entries)

end Layer

namespace Settings

def default : Settings := Setting.default

def below (settings : Settings) (layer : Layer) : Settings :=
  fun s => (layer s).getD (settings s)

theorem below_of_none {settings : Settings} {layer : Layer} {setting : Setting}
    (h : layer setting = none) : (settings.below layer) setting = settings setting := by
  simp [below, h]

def ofEntries (entries : List (Value × Value)) : Settings :=
  default.below (.ofEntries entries)

def mask : Value := .str "***"

/-- The value of a setting as it may be shown: a key that is there is masked. -/
def shownValue (settings : Settings) (setting : Setting) : Value :=
  if setting = .geminiKey && (settings setting).truthy then mask else settings setting

def toValue (settings : Settings) : Value :=
  .map (Setting.all.map fun s => (.str s.name, settings.shownValue s))

end Settings

end Remedy

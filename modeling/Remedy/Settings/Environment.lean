import Remedy.Number.Numeral
import Remedy.Settings.Basic
import Remedy.Settings.Error

/-!
Settings from the environment. A variable that is there and not empty sets one setting, as a text
or as a number.
-/

namespace Remedy

abbrev Environment := List (String × String)

inductive Conversion where
  | text
  | decimal
  | whole
  deriving Repr, DecidableEq

def Conversion.apply? : Conversion → String → Option Value
  | text, s => some (.str s)
  | decimal, s => (Number.readDecimal? s).map .float
  | whole, s =>
    match Number.readWhole s with
    | .ok n => some (.int n)
    | .error _ => none

structure Variable where
  name : String
  setting : Setting
  conversion : Conversion
  deriving Repr, DecidableEq

namespace Variable

def all : List Variable := [
  ⟨"AI_PROVIDER", .provider, .text⟩, ⟨"GEMINI_API_KEY", .geminiKey, .text⟩,
  ⟨"GEMINI_MODEL", .geminiModel, .text⟩, ⟨"OLLAMA_MODEL", .ollamaModel, .text⟩,
  ⟨"OLLAMA_URL", .ollamaUrl, .text⟩, ⟨"GITHUB_BASE_REF", .baseRef, .text⟩,
  ⟨"SECURITYAGENT_TIMEOUT", .requestTimeout, .decimal⟩,
  ⟨"SECURITYAGENT_MAX_RETRIES", .maxRetries, .whole⟩]

def text? (environment : Environment) (name : String) : Option String :=
  match environment.lookup name with
  | some text => if text = "" then none else some text
  | none => none

def layer (v : Variable) (environment : Environment) : Except SettingsError Layer :=
  match text? environment v.name with
  | none => .ok .empty
  | some text =>
    match v.conversion.apply? text with
    | none => .error (.invalidVariable v.name text)
    | some value => .ok (.single v.setting value)

/-- The layer of several variables; the first that does not convert is reported. -/
def layers (environment : Environment) : List Variable → Except SettingsError Layer
  | [] => .ok .empty
  | v :: rest =>
    match v.layer environment with
    | .error error => .error error
    | .ok upper => (layers environment rest).map upper.above

end Variable

def Settings.belowEnvironment (settings : Settings) (environment : Environment) :
    Except SettingsError Settings :=
  (Variable.layers environment Variable.all).map settings.below

end Remedy

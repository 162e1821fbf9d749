import Remedy.Text.Quoted

/-!
What is wrong with settings, so that a run cannot start.
-/

namespace Remedy

/-- A reason why a run cannot start. Names of providers are given as they are shown. -/
inductive SettingsError where
  | unknownCategory (name : String)
  | unexpectedProvider (shown : String)
  | unknownProvider (shown : String)
  | keyNotSet
  | keyRequired
  | timeoutNotPositive
  | retriesNegative
  | noExtension
  | noCategory
  | fileNotFound (path : String)
  | fileNotReadable (path detail : String)
  | notAMapping (path : String)
  | invalidVariable (name text : String)
  deriving Repr, DecidableEq

namespace SettingsError

def providerNames : List String :=
  ["gemini", "ollama", "local"]

def message : SettingsError → String
  | unknownCategory name =>
    "Unknown category in configuration: " ++ Text.quoted name ++ " is not a valid Category"
  | unexpectedProvider shown =>
    "Unknown provider '" ++ shown ++ "' (expected one of: " ++ ", ".intercalate providerNames ++
      ")"
  | unknownProvider shown => "Unknown provider: " ++ shown
  | keyNotSet => "GEMINI_API_KEY is not set but the gemini provider is selected"
  | keyRequired => "GEMINI_API_KEY is required for the gemini provider"
  | timeoutNotPositive => "request_timeout must be positive"
  | retriesNegative => "max_retries cannot be negative"
  | noExtension => "At least one source file extension is required"
  | noCategory => "At least one detection category is required"
  | fileNotFound path => "Configuration file not found: " ++ path
  | fileNotReadable path detail =>
    "Could not parse configuration file " ++ path ++ ": " ++ detail
  | notAMapping path => "Configuration file " ++ path ++ " must contain a mapping"
  | invalidVariable name text => "Invalid value for " ++ name ++ ": " ++ Text.quoted text

end SettingsError

end Remedy

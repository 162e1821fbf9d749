/-!
The text of a settings file with the settings that people are most likely to change.
-/

namespace Remedy.Settings

def templateLines : List String := [
  "provider: gemini",
  "gemini:",
  "  model: gemini-2.5-flash",
  "ollama:",
  "  model: llama3",
  "  url: http://host.docker.internal:11434",
  "changes:",
  "  base_ref: main",
  "  remote: origin",
  "  extensions:",
  "  - .js",
  "  exclude:",
  "  - scripts/",
  "  - securityagent/",
  "detection:",
  "  categories:",
  "  - secret_like",
  "  - sql_injection",
  "  - xss",
  "  - command_injection",
  "remediation:",
  "  dry_run: false",
  "  fail_on_error: false",
  "  request_timeout: 120",
  "  max_retries: 2",
  "output:",
  "  format: text"]

def template : String :=
  String.join (templateLines.map (· ++ "\n"))

end Remedy.Settings

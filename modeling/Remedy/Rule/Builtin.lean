import Remedy.Rule.Basic

/-!
The rules that are always there: SQL statements built from parts, calls that start a shell,
template interpolation, HTML built from variables, and names of secrets.
-/

namespace Remedy.Rule

open Pattern

def anything : Pattern := run .notNewline

def gap : Pattern := run .blank

def quoteMark : CharClass := .oneOf ['\'', '"', '\x60']

def stringQuote : CharClass := .oneOf ['\'', '"']

def sqlVerb : Pattern :=
  sequence [wordEdge, anyOf [text "SELECT", text "INSERT", text "UPDATE", text "DELETE"],
    one .blank]

def sqlConcatenation : Rule where
  id := "SEC-SQLI-001"
  description := "SQL statement built with string concatenation or interpolation."
  category := .sqlInjection
  weakness := some "CWE-89"
  enabledByDefault := true
  patterns := [
    sequence [sqlVerb, anything, one quoteMark, anything, text "+"],
    sequence [sqlVerb, anything, text "$\x7b"],
    sequence [sqlVerb, anything, one stringQuote, gap, text "%", gap,
      one (.union .word (.is '('))],
    sequence [sqlVerb, anything, text ".format", gap, text "("],
    sequence [wordEdge, text "f", one stringQuote, anything, sqlVerb, anything, text "\x7b",
      one .word]]

def shellExecution : Rule where
  id := "SEC-CMDI-001"
  description := "Call to a shell-interpreting process execution primitive."
  category := .commandInjection
  weakness := some "CWE-78"
  enabledByDefault := true
  patterns := [
    sequence [wordEdge, text "exec", optional (text "Sync"), gap, text "("],
    sequence [wordEdge, text "os.", anyOf [text "system", text "popen"], gap, text "("],
    sequence [wordEdge, text "subprocess.", anyOf [text "getoutput", text "getstatusoutput"], gap,
      text "("],
    sequence [wordEdge, text "shell", gap, text "=", gap, text "True", wordEdge],
    sequence [wordEdge, text "shell", gap, text ":", gap, text "true", wordEdge],
    sequence [wordEdge, anyOf [text "shell_exec", text "passthru"], gap, text "("]]

def templateInterpolation : Rule where
  id := "SEC-CMDI-002"
  description := "Template interpolation marker that may feed a command or query."
  category := .commandInjection
  weakness := some "CWE-78"
  enabledByDefault := true
  patterns := [sequence [text "$\x7b", run (.noneOf ['\x7d']), text "\x7d"]]

def unescapedHtml : Rule where
  id := "SEC-XSS-001"
  description := "Variable interpolated into rendered HTML without escaping."
  category := .xss
  weakness := some "CWE-79"
  enabledByDefault := true
  patterns := [
    sequence [text "res.send", gap, text "(", gap, text "`"],
    sequence [text "res.", anyOf [text "send", text "write", text "end"], gap, text "(",
      run (.noneOf [')']), one stringQuote, gap, text "+"],
    sequence [text ".", anyOf [text "innerHTML", text "outerHTML"], gap, optional (text "+"),
      text "=", gap,
      anyOf [
        one (.union (.range 'A' 'Z') (.union (.range 'a' 'z') (.oneOf ['_', '$', '\x60']))),
        sequence [one stringQuote, run (.noneOf ['\'', '"']), one stringQuote, gap, text "+"]]],
    sequence [text "document.write", optional (text "ln"), gap, text "("],
    text "dangerouslySetInnerHTML",
    sequence [text "render_template_string", gap, text "(", gap, text "f", one stringQuote],
    sequence [text "render_template_string", gap, text "(", run (.noneOf [')']),
      anyOf [
        sequence [text ".format", gap, text "("],
        sequence [one stringQuote, gap, text "%"],
        text "+"]],
    sequence [text "Markup", gap, text "(", gap, text "f", one stringQuote]]

def secretIdentifier : Rule where
  id := "SEC-SECRET-001"
  description :=
    "Identifier fragment conventionally naming a secret, token, password or API key."
  category := .secretLike
  weakness := some "CWE-798"
  enabledByDefault := true
  patterns := [
    textAnyCase "secret",
    textAnyCase "token",
    sequence [textAnyCase "api", optional (one (.oneOf ['_', '-'])), textAnyCase "key"],
    sequence [textAnyCase "passw", optional (textAnyCase "or"), textAnyCase "d"]]

/-- The rules that are always there, in the order in which they are listed. -/
def builtin : List Rule :=
  [sqlConcatenation, shellExecution, templateInterpolation, unescapedHtml, secretIdentifier]

end Remedy.Rule

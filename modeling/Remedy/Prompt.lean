import Remedy.Category

/-!
Prompts: what a text generator is asked for one flagged file. The text of a prompt is made of
lines: the instructions, the path, and last the file's content in full.
-/

namespace Remedy

/-- The request for one file: its path and content, the instructions and the categories. -/
structure Prompt where
  filePath : String
  content : String
  instructions : List String
  categories : List Category
  deriving Repr, DecidableEq

namespace Prompt

def roleLine : String := "You are a senior security engineer."

def directive : Category → String
  | .sqlInjection =>
    "- SQL Injection: use parameterized queries instead of string concatenation or interpolation"
  | .xss => "- Cross-Site Scripting (XSS): escape user input before embedding it in HTML"
  | .commandInjection =>
    "- Command Injection: validate or sanitize input and avoid shell-interpreting execution " ++
      "such as exec"
  | .secretLike =>
    "- Hardcoded secrets: read them from environment variables or external configuration " ++
      "(e.g. process.env.SECRET_NAME)"

def contract : List String := [
  "- Do NOT change business logic or observable behavior",
  "- Keep the code runnable",
  "- Return ONLY the complete corrected source code",
  "- No explanations, no prose, no markdown code fences"]

def build (filePath content : String) (categories : List Category) : Prompt :=
  let ordered := Category.canonical categories
  ⟨filePath, content,
    [roleLine, "", "Refactor this code to fix:", ""] ++ ordered.map directive ++ contract,
    ordered⟩

def text (prompt : Prompt) : String :=
  "\n".intercalate
    (prompt.instructions ++ ["", "File: " ++ prompt.filePath, "", "Code:", prompt.content])

end Prompt

end Remedy

import Remedy.Json.Basic
import Remedy.Rule.Book

/-!
Verdicts. The detector runs the enabled rules of its categories over a text and reduces their
findings, in the order of lines and rules, to one verdict on the file. An empty restriction of
categories restricts nothing.
-/

namespace Remedy

structure Verdict where
  filePath : String
  categories : List Category
  findings : List Finding
  deriving Repr, DecidableEq

namespace Verdict

def ofFindings (filePath : String) (findings : List Finding) : Verdict :=
  ⟨filePath, Category.canonical (findings.map fun f => f.category), findings⟩

def isFlagged (verdict : Verdict) : Bool :=
  !verdict.categories.isEmpty

end Verdict

def Finding.toJson (finding : Finding) : Json :=
  .obj [("rule_id", .str finding.ruleId), ("category", .str finding.category.name),
    ("file_path", .str finding.filePath), ("line", .int finding.line),
    ("matched_text", .str finding.matchedText), ("description", .str finding.description)]

def Category.namesJson (categories : List Category) : Json :=
  .arr ((canonical categories).map fun c => .str c.name)

def Verdict.toJson (verdict : Verdict) : Json :=
  .obj [("file_path", .str verdict.filePath), ("is_flagged", .bool verdict.isFlagged),
    ("categories", Category.namesJson verdict.categories),
    ("findings", .arr (verdict.findings.map Finding.toJson))]

/-- What looks for vulnerabilities: a rule book and the categories it is restricted to. -/
structure Detector (π : Type := Pattern) where
  book : RuleBook π
  categories : List Category
  deriving Repr, DecidableEq

namespace Detector

def standard (categories : List Category) : Detector :=
  ⟨.builtin, categories⟩

variable {π : Type}

def covers (detector : Detector π) (category : Category) : Bool :=
  detector.categories.isEmpty || detector.categories.contains category

def rules (detector : Detector π) : List (Rule π) :=
  detector.book.enabledRules.filter fun rule => detector.covers rule.category

def before (a b : Finding) : Bool :=
  a.line < b.line || (a.line = b.line && a.ruleId ≤ b.ruleId)

def detect [Searchable π] (detector : Detector π) (content filePath : String) : Verdict :=
  .ofFindings filePath
    ((detector.rules.flatMap fun rule => rule.findings filePath content).mergeSort before)

end Detector

end Remedy

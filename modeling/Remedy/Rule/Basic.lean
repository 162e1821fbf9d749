import Remedy.Category
import Remedy.Pattern.Search
import Remedy.Text.Lines

/-!
Rules and findings. A rule reads a text line by line and reports at most one finding a line: the
match of the first of its patterns that matches the line. Patterns may be of any kind that a line
can be searched for.
-/

namespace Remedy

structure Finding where
  ruleId : String
  category : Category
  filePath : String
  line : Int
  matchedText : String
  description : String
  deriving Repr, DecidableEq

/-- Patterns that a line can be searched for: the search gives the text of the first match. -/
class Searchable (π : Type) where
  search? : π → String → Option String

instance : Searchable Pattern := ⟨Pattern.search?⟩

/-- A rule: what it is called, what it reports and the patterns it looks for. -/
structure Rule (π : Type := Pattern) where
  id : String
  description : String
  category : Category
  weakness : Option String
  enabledByDefault : Bool
  patterns : List π
  deriving Repr, DecidableEq

namespace Rule

variable {π : Type} [Searchable π]

def firstMatch? (rule : Rule π) (line : String) : Option String :=
  rule.patterns.findSome? fun p => Searchable.search? p line

def finding? (rule : Rule π) (filePath : String) (line : String) (number : Nat) : Option Finding :=
  (rule.firstMatch? line).map fun found =>
    ⟨rule.id, rule.category, filePath, number, found, rule.description⟩

def findingsFrom (rule : Rule π) (filePath : String) : Nat → List String → List Finding
  | _, [] => []
  | number, line :: rest =>
    let later := findingsFrom rule filePath (number + 1) rest
    match rule.finding? filePath line number with
    | some finding => finding :: later
    | none => later

def findings (rule : Rule π) (filePath content : String) : List Finding :=
  rule.findingsFrom filePath 1 (Text.lines content)

end Rule

end Remedy

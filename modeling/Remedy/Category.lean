import Remedy.Text.Quoted

/-!
Categories of vulnerabilities. A collection of categories matters only through its members, so it
is kept in canonical form: in the fixed order of reports, each member once.
-/

namespace Remedy

inductive Category where
  | secretLike
  | sqlInjection
  | xss
  | commandInjection
  deriving Repr, DecidableEq, Inhabited

namespace Category

def all : List Category :=
  [secretLike, sqlInjection, xss, commandInjection]

def reportOrder : List Category :=
  [sqlInjection, xss, commandInjection, secretLike]

def name : Category → String
  | secretLike => "secret_like"
  | sqlInjection => "sql_injection"
  | xss => "xss"
  | commandInjection => "command_injection"

def label : Category → String
  | secretLike => "Hard-coded secret"
  | sqlInjection => "SQL injection"
  | xss => "Cross-site scripting (XSS)"
  | commandInjection => "Command injection"

def ofName? (name : String) : Option Category :=
  all.find? fun c => c.name = name

def unknownMessage (name : String) : String :=
  Text.quoted name ++ " is not a valid Category"

def canonical (categories : List Category) : List Category :=
  reportOrder.filter fun c => categories.contains c

def labels (categories : List Category) : String :=
  ", ".intercalate ((canonical categories).map label)

def sortedNames (categories : List Category) : List String :=
  ((canonical categories).map name).mergeSort fun a b => a ≤ b

end Category

end Remedy

import Remedy.Rule.Builtin

/-!
Rule books: the registered rules, and each of them with its switch. A rule is known by its id;
registering an id again replaces the rule and resets its switch but keeps its place.
-/

namespace Remedy

structure RuleEntry (π : Type := Pattern) where
  rule : Rule π
  enabled : Bool
  deriving Repr, DecidableEq

/-- The registered rules and their entries, both by id and in the order in which the ids were first
registered. -/
structure RuleBook (π : Type := Pattern) where
  rules : List (Rule π)
  entries : List (RuleEntry π)
  deriving Repr, DecidableEq

namespace RuleBook

variable {π : Type}

def empty : RuleBook π := ⟨[], []⟩

def put {α : Type} (key : α → String) (item : α) : List α → List α
  | [] => [item]
  | other :: rest => if key other = key item then item :: rest else other :: put key item rest

def register (book : RuleBook π) (rule : Rule π) : RuleBook π :=
  ⟨put (fun r => r.id) rule book.rules,
    put (fun e => e.rule.id) ⟨rule, rule.enabledByDefault⟩ book.entries⟩

def ofRules (rules : List (Rule π)) : RuleBook π :=
  rules.foldl register empty

def builtin : RuleBook :=
  ofRules Rule.builtin

def find? (book : RuleBook π) (id : String) : Option (RuleEntry π) :=
  book.entries.find? fun e => e.rule.id = id

def setEnabled (book : RuleBook π) (id : String) (enabled : Bool) : RuleBook π :=
  { book with
    entries := book.entries.map fun e =>
      if e.rule.id = id then { e with enabled := enabled } else e }

def size (book : RuleBook π) : Nat :=
  book.rules.length

def enabledRules (book : RuleBook π) : List (Rule π) :=
  (book.entries.filter fun e => e.enabled).map fun e => e.rule

def rulesFor (book : RuleBook π) (category : Category) : List (Rule π) :=
  (book.entries.filter fun e => e.rule.category = category && e.enabled).map fun e => e.rule

end RuleBook

end Remedy

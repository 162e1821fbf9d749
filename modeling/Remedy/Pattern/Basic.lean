import Remedy.Text.Blank
import Remedy.Text.Word

/-!
Patterns over one line of text. A pattern is a sequence of characters of given classes, of runs
of a class, of choices and of word edges. `Matches` says which part of a line a pattern matches;
a word edge looks at the characters on both sides, so the relation speaks of a place in the line.
-/

namespace Remedy

inductive CharClass where
  | is (c : Char)
  | range (first last : Char)
  | oneOf (members : List Char)
  | noneOf (members : List Char)
  | blank
  | word
  | notNewline
  | anyCase (letter : Char)
  | union (a b : CharClass)
  deriving Repr, DecidableEq

namespace CharClass

/-- The characters beyond ASCII that are a lower-case ASCII letter up to case. -/
def variants (letter : Char) : List Char :=
  if letter = 's' then ['\u017f']
  else if letter = 'k' then ['\u212a']
  else if letter = 'i' then ['\u0131', '\u0130']
  else []

def contains : CharClass → Char → Bool
  | is d, c => c == d
  | range first last, c => first ≤ c && c ≤ last
  | oneOf members, c => members.contains c
  | noneOf members, c => !members.contains c
  | blank, c => Text.isBlank c
  | word, c => Text.isWord c
  | notNewline, c => c != '\n'
  | anyCase letter, c => c.toLower == letter || (variants letter).contains c
  | union a b, c => a.contains c || b.contains c

end CharClass

/-- A pattern. Where several matches are possible, a run prefers more characters, an optional
part prefers to be there, and a choice prefers its first side. -/
inductive Pattern where
  | empty
  | wordEdge
  | one (k : CharClass)
  | run (k : CharClass)
  | optional (p : Pattern)
  | choice (p q : Pattern)
  | seq (p q : Pattern)
  deriving Repr, DecidableEq

namespace Pattern

/-- Whether a place with the given neighbours lies between a word character and another one, or
between a word character and an end of the line. -/
def isEdge (before after : Option Char) : Bool :=
  before.any Text.isWord != after.any Text.isWord

def lastOr (before : Option Char) (text : List Char) : Option Char :=
  text.getLast?.or before

/-- `Matches p before text after` says that the pattern matches `text` where `before` is the
character on the left and `after` the text on the right. -/
inductive Matches : Pattern → Option Char → List Char → List Char → Prop where
  | empty {before after} : Matches .empty before [] after
  | wordEdge {before after} (edge : isEdge before after.head? = true) :
      Matches .wordEdge before [] after
  | one {k : CharClass} {before c after} (member : k.contains c = true) :
      Matches (.one k) before [c] after
  | run {k : CharClass} {before text after} (members : ∀ c ∈ text, k.contains c = true) :
      Matches (.run k) before text after
  | absent {p before after} : Matches (.optional p) before [] after
  | present {p before text after} (inner : Matches p before text after) :
      Matches (.optional p) before text after
  | left {p q before text after} (inner : Matches p before text after) :
      Matches (.choice p q) before text after
  | right {p q before text after} (inner : Matches q before text after) :
      Matches (.choice p q) before text after
  | seq {p q before text more after} (first : Matches p before text (more ++ after))
      (second : Matches q (lastOr before text) more after) :
      Matches (.seq p q) before (text ++ more) after

def sequence : List Pattern → Pattern
  | [] => empty
  | [p] => p
  | p :: rest => seq p (sequence rest)

def text (s : String) : Pattern :=
  sequence (s.toList.map fun c => one (.is c))

def textAnyCase (s : String) : Pattern :=
  sequence (s.toList.map fun c => one (.anyCase c))

def anyOf : List Pattern → Pattern
  | [] => empty
  | [p] => p
  | p :: rest => choice p (anyOf rest)

end Pattern

end Remedy

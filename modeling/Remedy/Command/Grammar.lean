import Remedy.Command.Mistake
import Remedy.Text.Digit

/-!
Grammars of command lines: which options there are and what follows them. Each word of a command
line is an option, with or without a text that is glued to it, an operand, or the separator after
which every word is an operand. Long options may be shortened as long as it stays clear which one
is meant; short options may stand together in one word.
-/

namespace Remedy.Command

/-- What an option asks for: nothing, one value, which may be restricted, or that the command line
is not read any further. -/
inductive Need where
  | nothing
  | value (choices : List String)
  | stop
  deriving Repr, DecidableEq

namespace Need

def hasValue : Need → Bool
  | value _ => true
  | _ => false

end Need

/-- An option: what it is for, its names with their hyphens, and what it needs. -/
structure OptionRule (κ : Type) where
  key : κ
  names : List String
  need : Need
  deriving Repr

/-- What may stand on a command line apart from options: nothing, any number of operands, or a
command with all words after it. -/
inductive Operands where
  | absent
  | many
  | command
  deriving Repr, DecidableEq

structure Grammar (κ : Type) where
  options : List (OptionRule κ)
  operands : Operands
  deriving Repr

structure Glued where
  byEquals : Bool
  text : List Char
  deriving Repr, DecidableEq

inductive Mark (κ : Type) where
  | operand
  | separator
  | option (rule : OptionRule κ) (glued : Option Glued)
  | unknown
  deriving Repr

structure Word (κ : Type) where
  text : String
  mark : Mark κ
  deriving Repr

def separator : String := "--"

/-- A text before its first equals sign, and the text after it if there is one. -/
def splitEquals : List Char → List Char × Option (List Char)
  | [] => ([], none)
  | c :: rest =>
    if c = '=' then ([], some rest) else (c :: (splitEquals rest).1, (splitEquals rest).2)

/-- Whether a text is a negative number in plain digits, of any script, with a point or without;
one line feed may follow. -/
def isNegativeNumber (text : List Char) : Bool :=
  let isDigit (c : Char) : Bool := (Text.digitValue? c).isSome
  let body := if text.getLast? = some '\n' then text.dropLast else text
  match body with
  | '-' :: number =>
    let rest := number.dropWhile isDigit
    match rest with
    | [] => !number.isEmpty
    | '.' :: fraction => !fraction.isEmpty && fraction.all isDigit
    | _ => false
  | _ => false

namespace Grammar

variable {κ : Type}

/-- The names of all options, each with its option, in the order of the grammar. -/
def names (grammar : Grammar κ) : List (OptionRule κ × List Char) :=
  grammar.options.flatMap fun rule => rule.names.map fun name => (rule, name.toList)

def named? (grammar : Grammar κ) (name : List Char) : Option (OptionRule κ) :=
  (grammar.names.find? fun entry => entry.2 = name).map (·.1)

/-- What a word with two hyphens in front may abbreviate, up to an equals sign. -/
def abbreviated (grammar : Grammar κ) (word : List Char) : List (Mark κ × List Char) :=
  let (start, value) := splitEquals word
  (grammar.names.filter fun entry => start.isPrefixOf entry.2).map fun (rule, name) =>
    (.option rule (value.map fun text => ⟨true, text⟩), name)

/-- What a word with one hyphen in front may be: a short option with a text glued to it, or the
start of the name of an option. -/
def clustered (grammar : Grammar κ) (word : List Char) : List (Mark κ × List Char) :=
  grammar.names.filterMap fun (rule, name) =>
    if name = word.take 2 then some (.option rule (some ⟨false, word.drop 2⟩), name)
    else if word.isPrefixOf name then some (.option rule none, name)
    else none

/-- What a word may be that begins with a hyphen and is not the exact name of an option. -/
def readings (grammar : Grammar κ) (word : List Char) : List (Mark κ × List Char) :=
  match word with
  | _ :: '-' :: _ => grammar.abbreviated word
  | _ => grammar.clustered word

/-- What a word is that no option explains. A negative number and a word with a space are
operands. -/
def unexplained (word : List Char) : Mark κ :=
  if isNegativeNumber word || word.contains ' ' then .operand else .unknown

def markHyphened (grammar : Grammar κ) (word : List Char) : Except Mistake (Mark κ) :=
  match splitEquals word with
  | (name, some text) =>
    match grammar.named? name with
    | some rule => .ok (.option rule (some ⟨true, text⟩))
    | none => choose (grammar.readings word)
  | (_, none) => choose (grammar.readings word)
where
  /-- The only reading of a word; without one the word is not an option. -/
  choose : List (Mark κ × List Char) → Except Mistake (Mark κ)
    | [] => .ok (unexplained word)
    | [(mark, _)] => .ok mark
    | several =>
      .error (.ambiguous (String.ofList word) (several.map fun r => String.ofList r.2))

def mark (grammar : Grammar κ) (word : List Char) : Except Mistake (Mark κ) :=
  if word.head? ≠ some '-' then .ok .operand
  else
    match grammar.named? word with
    | some rule => .ok (.option rule none)
    | none => if word.length = 1 then .ok .operand else grammar.markHyphened word

def words (grammar : Grammar κ) : List String → Except Mistake (List (Word κ))
  | [] => .ok []
  | text :: rest =>
    if text = separator then .ok (⟨text, .separator⟩ :: rest.map fun t => ⟨t, .operand⟩)
    else
      match grammar.mark text.toList with
      | .error mistake => .error mistake
      | .ok mark => (grammar.words rest).map (⟨text, mark⟩ :: ·)

end Grammar

end Remedy.Command

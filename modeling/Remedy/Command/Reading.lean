import Remedy.Command.Grammar

/-!
The reading of a command line by a grammar: the options that are given, in order, the operands, and
the words that the grammar has no place for. Operands stand together: the first run of them is
taken, and later ones have no place.
-/

namespace Remedy.Command

structure Given (κ : Type) where
  key : κ
  value : Option String
  deriving Repr, DecidableEq

structure Reading (κ : Type) where
  given : List (Given κ)
  operands : List String
  extras : List String
  deriving Repr, DecidableEq

/-- Why a command line is not read to its end: it is mistaken, or an option says so. -/
inductive Refusal (κ : Type) where
  | mistake (mistake : Mistake)
  | stop (key : κ)
  deriving Repr, DecidableEq

namespace Reading

variable {κ : Type}

def empty : Reading κ := ⟨[], [], []⟩

def withOperand (text : String) (reading : Reading κ) : Reading κ :=
  { reading with operands := text :: reading.operands }

def withExtras (texts : List String) (reading : Reading κ) : Reading κ :=
  { reading with extras := texts ++ reading.extras }

def withGiven (given : List (Given κ)) (reading : Reading κ) : Reading κ :=
  { reading with given := given ++ reading.given }

end Reading

/-- What one word with options amounts to: options with their values, an option that still needs
one, and what is left of the word. -/
structure Cluster (κ : Type) where
  complete : List (OptionRule κ × Option String)
  open? : Option (OptionRule κ)
  leftover : Option String
  deriving Repr

namespace Cluster

variable {κ : Type}

def cons (rule : OptionRule κ) (cluster : Cluster κ) : Cluster κ :=
  { cluster with complete := (rule, none) :: cluster.complete }

def ofRule (rule : OptionRule κ) : Cluster κ :=
  if rule.need.hasValue then ⟨[], some rule, none⟩ else ⟨[(rule, none)], none, none⟩

/-- The options of a word: `rule` and what the text after its one letter says. A letter that is no
option is left over, with all that follows it. -/
def ofLetters (grammar : Grammar κ) (rule : OptionRule κ) :
    List Char → Except Mistake (Cluster κ)
  | [] => .ok (ofRule rule)
  | c :: rest =>
    if rule.need.hasValue then
      .ok ⟨[(rule, some (String.ofList (if c = '=' then rest else c :: rest)))], none, none⟩
    else if c = '=' || c = '-' then
      .error (.valueUnused rule.names (String.ofList (if c = '=' then rest else c :: rest)))
    else
      match grammar.named? ['-', c] with
      | none => .ok ⟨[(rule, none)], none, some (String.ofList ('-' :: c :: rest))⟩
      | some next => (ofLetters grammar next rest).map (cons rule)

def ofGlued (grammar : Grammar κ) (rule : OptionRule κ) :
    Option Glued → Except Mistake (Cluster κ)
  | none => .ok (ofRule rule)
  | some ⟨byEquals, text⟩ =>
    let value := String.ofList text
    if rule.need.hasValue then .ok ⟨[(rule, some value)], none, none⟩
    else if byEquals then .error (.valueUnused rule.names value)
    else ofLetters grammar rule text

end Cluster

/-- Where the operands of a command line stand: they may still come, are just being read, or have
their end behind them. -/
inductive Standing where
  | ahead
  | within
  | past
  deriving Repr, DecidableEq

def Standing.afterOption : Standing → Standing
  | ahead => ahead
  | _ => past

namespace OptionRule

variable {κ : Type}

/-- An option with its value, if it can have that value and reading goes on after it. -/
def give (rule : OptionRule κ) (value : Option String) : Except (Refusal κ) (Given κ) :=
  match rule.need, value with
  | .stop, _ => .error (.stop rule.key)
  | .value choices, some text =>
    if choices.isEmpty || choices.contains text then .ok ⟨rule.key, some text⟩
    else .error (.mistake (.badChoice rule.names text choices))
  | _, _ => .ok ⟨rule.key, value⟩

end OptionRule

namespace Grammar

variable {κ : Type}

def standing (grammar : Grammar κ) : Standing :=
  if grammar.operands = .absent then .past else .ahead

def giveAll : List (OptionRule κ × Option String) → Except (Refusal κ) (List (Given κ))
  | [] => .ok []
  | (rule, value) :: rest =>
    match rule.give value with
    | .error refusal => .error refusal
    | .ok given => (giveAll rest).map (given :: ·)

def place (cluster : Cluster κ) (value : Option String)
    (rest : Except (Refusal κ) (Reading κ)) : Except (Refusal κ) (Reading κ) :=
  let last := (cluster.open?.map fun rule => (rule, value)).toList
  match giveAll (cluster.complete ++ last) with
  | .error refusal => .error refusal
  | .ok given =>
    rest.map fun reading => (reading.withExtras cluster.leftover.toList).withGiven given

/-- The reading of words. An option that needs a value takes the word after it, which has to be an
operand. -/
def readWords (grammar : Grammar κ) :
    Standing → List (Word κ) → Except (Refusal κ) (Reading κ)
  | _, [] => .ok .empty
  | standing, ⟨text, mark⟩ :: rest =>
    match mark with
    | .unknown => (grammar.readWords standing.afterOption rest).map (·.withExtras [text])
    | .separator =>
      if standing = .past then .ok ⟨[], [], text :: rest.map Word.text⟩
      else if grammar.operands = .command then
        if rest.isEmpty then .ok ⟨[], [], [text]⟩
        else .ok ⟨[], text :: rest.map Word.text, []⟩
      else .ok ⟨[], rest.map Word.text, []⟩
    | .operand =>
      if standing = .past then (grammar.readWords standing rest).map (·.withExtras [text])
      else if grammar.operands = .command then .ok ⟨[], text :: rest.map Word.text, []⟩
      else (grammar.readWords .within rest).map (·.withOperand text)
    | .option rule glued =>
      match Cluster.ofGlued grammar rule glued with
      | .error mistake => .error (.mistake mistake)
      | .ok cluster =>
        match cluster.open?, rest with
        | none, rest => place cluster none (grammar.readWords standing.afterOption rest)
        | some _, ⟨value, .operand⟩ :: rest =>
          place cluster (some value) (grammar.readWords standing.afterOption rest)
        | some opened, _ => .error (.mistake (.valueMissing opened.names))

def read (grammar : Grammar κ) (line : List String) : Except (Refusal κ) (Reading κ) :=
  match grammar.words line with
  | .error mistake => .error (.mistake mistake)
  | .ok words => grammar.readWords grammar.standing words

end Grammar

end Remedy.Command

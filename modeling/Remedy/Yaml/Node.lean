import Remedy.Yaml.Token

/-!
Nodes of YAML documents: scalars, sequences and mappings, as the tokens of a document spell them.
Where a value is left out there is an empty plain scalar.
-/

namespace Remedy.Yaml

inductive Node where
  | plain (text : String)
  | quoted (text : String)
  | sequence (items : List Node)
  | mapping (pairs : List (Node × Node))
  deriving Repr, Inhabited

namespace Node

def absent : Node := plain ""

/-- The result of reading a part of a list of tokens: what it says, and the tokens after it. -/
abbrev Reading (α : Type) := Except Failure (α × List Token)

def misplaced {α : Type} (reason : Flaw) : Except Failure α :=
  .error (.flaw reason 0 0)

def stopsAt (stops : List Token) (tokens : List Token) : Bool :=
  match tokens with
  | [] => true
  | token :: _ => stops.contains token

mutual

/-- A node; `inMapping` tells whether a sequence may stand in the column of the mapping that it
belongs to. Every call takes a token or a unit of fuel from the next. -/
def read (inBlock inMapping : Bool) : Nat → List Token → Reading Node
  | 0, _ => misplaced .node
  | fuel + 1, tokens =>
    match tokens with
    | .plain text :: rest => .ok (plain text, rest)
    | .quoted text :: rest => .ok (quoted text, rest)
    | .flowSequence :: rest =>
      (readFlowItems true fuel rest).map fun (items, after) => (sequence items, after)
    | .flowMapping :: rest =>
      (readFlowPairs true fuel rest).map fun (pairs, after) => (mapping pairs, after)
    | .blockSequence :: rest =>
      if inBlock then (readItems fuel rest).map fun (items, after) => (sequence items, after)
      else misplaced .node
    | .blockMapping :: rest =>
      if inBlock then (readPairs fuel rest).map fun (pairs, after) => (mapping pairs, after)
      else misplaced .node
    | .entry :: _ =>
      if inMapping then
        (readLooseItems fuel tokens).map fun (items, after) => (sequence items, after)
      else misplaced .node
    | _ => misplaced .node

def readUnless (stops : List Token) (inBlock inMapping : Bool) :
    Nat → List Token → Reading Node
  | 0, _ => misplaced .node
  | fuel + 1, tokens =>
    if stopsAt stops tokens then .ok (absent, tokens) else read inBlock inMapping fuel tokens

def readItems : Nat → List Token → Reading (List Node)
  | 0, _ => misplaced .blockEnd
  | fuel + 1, tokens =>
    match tokens with
    | .entry :: rest =>
      match readUnless [.entry, .blockEnd] true false fuel rest with
      | .error failure => .error failure
      | .ok (item, after) =>
        (readItems fuel after).map fun (items, last) => (item :: items, last)
    | .blockEnd :: rest => .ok ([], rest)
    | _ => misplaced .blockEnd

def readLooseItems : Nat → List Token → Reading (List Node)
  | 0, _ => misplaced .blockEnd
  | fuel + 1, tokens =>
    match tokens with
    | .entry :: rest =>
      match readUnless [.entry, .key, .value, .blockEnd] true false fuel rest with
      | .error failure => .error failure
      | .ok (item, after) =>
        (readLooseItems fuel after).map fun (items, last) => (item :: items, last)
    | _ => .ok ([], tokens)

def readPairs : Nat → List Token → Reading (List (Node × Node))
  | 0, _ => misplaced .blockEnd
  | fuel + 1, tokens =>
    let onward (key : Node) (after : List Token) : Reading (List (Node × Node)) :=
      match after with
      | .value :: rest =>
        match readUnless [.key, .value, .blockEnd] true true fuel rest with
        | .error failure => .error failure
        | .ok (value, after) =>
          (readPairs fuel after).map fun (pairs, last) => ((key, value) :: pairs, last)
      | _ => (readPairs fuel after).map fun (pairs, last) => ((key, absent) :: pairs, last)
    match tokens with
    | .key :: rest =>
      match readUnless [.key, .value, .blockEnd] true true fuel rest with
      | .error failure => .error failure
      | .ok (key, after) => onward key after
    | .blockEnd :: rest => .ok ([], rest)
    | _ => misplaced .blockEnd

/-- The items of a sequence in brackets up to the closing one; all but the first follow a
comma. -/
def readFlowItems (first : Bool) : Nat → List Token → Reading (List Node)
  | 0, _ => misplaced .flowSeparator
  | fuel + 1, tokens =>
    match tokens with
    | .flowSequenceEnd :: rest => .ok ([], rest)
    | _ =>
      match first, tokens with
      | true, _ => readFlowItem fuel tokens
      | false, .separator :: rest => readFlowItem fuel rest
      | false, _ => misplaced .flowSeparator

/-- One item of a sequence in brackets and those after it; the item may be a pair, which is a
mapping of its own. -/
def readFlowItem : Nat → List Token → Reading (List Node)
  | 0, _ => misplaced .flowSeparator
  | fuel + 1, tokens =>
    match tokens with
    | .flowSequenceEnd :: rest => .ok ([], rest)
    | .key :: rest =>
      match readUnless [.value, .separator, .flowSequenceEnd] false false fuel rest with
      | .error failure => .error failure
      | .ok (key, after) =>
        match readFlowValue .flowSequenceEnd fuel after with
        | .error failure => .error failure
        | .ok (value, after) =>
          (readFlowItems false fuel after).map fun (items, last) =>
            (mapping [(key, value)] :: items, last)
    | _ =>
      match read false false fuel tokens with
      | .error failure => .error failure
      | .ok (item, after) =>
        (readFlowItems false fuel after).map fun (items, last) => (item :: items, last)

/-- The value of a pair between brackets of which one closes, or the absent node. -/
def readFlowValue (closing : Token) : Nat → List Token → Reading Node
  | 0, _ => misplaced .flowSeparator
  | fuel + 1, tokens =>
    match tokens with
    | .value :: rest => readUnless [.separator, closing] false false fuel rest
    | _ => .ok (absent, tokens)

/-- The pairs of a mapping in braces up to the closing one; all but the first follow a comma. -/
def readFlowPairs (first : Bool) : Nat → List Token → Reading (List (Node × Node))
  | 0, _ => misplaced .flowSeparator
  | fuel + 1, tokens =>
    match tokens with
    | .flowMappingEnd :: rest => .ok ([], rest)
    | _ =>
      match first, tokens with
      | true, _ => readFlowPair fuel tokens
      | false, .separator :: rest => readFlowPair fuel rest
      | false, _ => misplaced .flowSeparator

/-- One pair of a mapping in braces and those after it; a node without a colon is a key. -/
def readFlowPair : Nat → List Token → Reading (List (Node × Node))
  | 0, _ => misplaced .flowSeparator
  | fuel + 1, tokens =>
    let onward (pair : Node × Node) (after : List Token) : Reading (List (Node × Node)) :=
      (readFlowPairs false fuel after).map fun (pairs, last) => (pair :: pairs, last)
    match tokens with
    | .flowMappingEnd :: rest => .ok ([], rest)
    | .key :: rest =>
      match readUnless [.value, .separator, .flowMappingEnd] false false fuel rest with
      | .error failure => .error failure
      | .ok (key, after) =>
        match readFlowValue .flowMappingEnd fuel after with
        | .error failure => .error failure
        | .ok (value, after) => onward (key, value) after
    | _ =>
      match read false false fuel tokens with
      | .error failure => .error failure
      | .ok (key, after) => onward (key, absent) after

end

/-- The tokens after directives, of which at most one demands a version, the first. -/
def passDirectives (versioned : Bool) : List Token → Except Failure (Bool × List Token)
  | .directive none :: rest => (passDirectives versioned rest).map fun (_, after) => (true, after)
  | .directive (some major) :: rest =>
    if versioned || major ≠ 1 then misplaced .directive
    else (passDirectives true rest).map fun (_, after) => (true, after)
  | rest => .ok (false, rest)

def fuelFor (tokens : List Token) : Nat := 4 * tokens.length + 8

/-- The node of a document that begins without or after its mark, and the tokens after it. -/
def readDocument (tokens : List Token) : Reading (Option Node) :=
  match passDirectives false tokens with
  | .error failure => .error failure
  | .ok (directed, rest) =>
    match rest with
    | .documentStart :: body =>
      let starts : Bool :=
        match body with
        | .directive _ :: _ => true
        | _ => stopsAt [.documentStart, .documentEnd] body
      if starts then .ok (some absent, body)
      else (read true false (fuelFor body) body).map fun (node, after) => (some node, after)
    | [] => if directed then misplaced .directive else .ok (none, [])
    | _ =>
      if directed then misplaced .directive
      else (read true false (fuelFor rest) rest).map fun (node, after) => (some node, after)

def ofTokens (tokens : List Token) : Except Failure (Option Node) :=
  match readDocument tokens with
  | .error failure => .error failure
  | .ok (node, after) =>
    if after.all (· = .documentEnd) then .ok node else misplaced .singleDocument

end Node

end Remedy.Yaml

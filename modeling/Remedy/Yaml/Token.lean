import Remedy.Yaml.Scalar

/-!
Tokens of YAML texts. Blocks begin and end through the columns of their lines. Whether a node is
the key of a mapping shows only at the colon after it, so a slot is left open where a key may
begin, and the colon fills it.
-/

namespace Remedy.Yaml

inductive Token where
  | directive (version : Option Nat)
  | documentStart
  | documentEnd
  | blockSequence
  | blockMapping
  | blockEnd
  | flowSequence
  | flowSequenceEnd
  | flowMapping
  | flowMappingEnd
  | separator
  | entry
  | key
  | value
  | plain (text : String)
  | quoted (text : String)
  deriving Repr, DecidableEq

/-- A place where a key may have begun: its slot, where it stands, and whether it has to be a
key. -/
structure OpenKey where
  slot : Nat
  passed : Nat
  line : Nat
  column : Nat
  required : Bool
  deriving Repr, DecidableEq

/-- Reading in progress: the place, the slots filled so far, the column of the current block and
of the blocks around it, the depth of brackets, whether a key may begin next, and by depth where
keys may have begun. -/
structure Lexer where
  cursor : Cursor
  slots : Array (List Token)
  indent : Int
  outer : List Int
  depth : Nat
  keyAllowed : Bool
  openKeys : List (Nat × OpenKey)
  deriving Repr

def maxKeyLength : Nat := 1024

namespace Lexer

def start (text : List Char) : Lexer :=
  ⟨.start text, #[], -1, [], 0, true, []⟩

def inFlow (lexer : Lexer) : Bool :=
  0 < lexer.depth

def emit (lexer : Lexer) (token : Token) : Lexer :=
  { lexer with slots := lexer.slots.push [token] }

/-- The place after blanks, comments and ends of lines; outside brackets a key may begin on a new
line. -/
def passGap (inFlow keyAllowed : Bool) : Nat → Cursor → Cursor × Bool
  | 0, cursor => (cursor, keyAllowed)
  | fuel + 1, cursor =>
    let blank := cursor.dropWhile (· == ' ')
    let after := if blank.sees '#' then blank.dropWhile (fun c => !isBreak c) else blank
    if after.seesAny isBreak then
      passGap inFlow (keyAllowed || !inFlow) fuel after.takeBreak.2
    else (after, keyAllowed)

def toToken (lexer : Lexer) : Lexer :=
  let cursor := lexer.cursor
  let first := if cursor.passed = 0 && cursor.sees '\uFEFF' then cursor.next else cursor
  let (after, keyAllowed) :=
    passGap lexer.inFlow lexer.keyAllowed (first.rest.length + 1) first
  { lexer with cursor := after, keyAllowed := keyAllowed }

def isFresh (cursor : Cursor) (key : OpenKey) : Bool :=
  key.line = cursor.line && cursor.passed ≤ key.passed + maxKeyLength

def dropStale (lexer : Lexer) : Except Failure Lexer :=
  if lexer.openKeys.any fun (_, key) => !isFresh lexer.cursor key && key.required then
    lexer.cursor.flaw .colonExpected
  else
    .ok { lexer with openKeys := lexer.openKeys.filter fun (_, key) => isFresh lexer.cursor key }

def dropKey (lexer : Lexer) : Except Failure Lexer :=
  match lexer.openKeys.lookup lexer.depth with
  | none => .ok lexer
  | some key =>
    if key.required then lexer.cursor.flaw .colonExpected
    else .ok { lexer with openKeys := lexer.openKeys.filter fun (d, _) => d ≠ lexer.depth }

def openKey (lexer : Lexer) : Except Failure Lexer :=
  if !lexer.keyAllowed then .ok lexer
  else
    match lexer.dropKey with
    | .error failure => .error failure
    | .ok lexer =>
      let cursor := lexer.cursor
      let key : OpenKey := ⟨lexer.slots.size, cursor.passed, cursor.line, cursor.column,
        !lexer.inFlow && lexer.indent = cursor.column⟩
      .ok { lexer with
        slots := lexer.slots.push [], openKeys := (lexer.depth, key) :: lexer.openKeys }

def unwind (column : Int) : List Int → Lexer → Lexer
  | [], lexer => lexer
  | next :: rest, lexer =>
    if column < lexer.indent then
      unwind column rest { lexer.emit .blockEnd with indent := next, outer := rest }
    else lexer

/-- Ends the blocks that stand further to the right than a column, outside brackets. -/
def unwindTo (lexer : Lexer) (column : Int) : Lexer :=
  if lexer.inFlow then lexer else unwind column lexer.outer lexer

def indentTo (lexer : Lexer) (column : Nat) : Bool × Lexer :=
  if lexer.indent < column then
    (true, { lexer with indent := column, outer := lexer.indent :: lexer.outer })
  else (false, lexer)

def beginBlock (lexer : Lexer) (kind : Token) : Lexer :=
  match lexer.indentTo lexer.cursor.column with
  | (true, lexer) => lexer.emit kind
  | (false, lexer) => lexer

def take (lexer : Lexer) (token : Token) (size : Nat) (keyAllowed : Bool) : Lexer :=
  { lexer.emit token with cursor := lexer.cursor.skip size, keyAllowed := keyAllowed }

def closeAll (lexer : Lexer) : Except Failure Lexer :=
  (lexer.unwindTo (-1)).dropKey

def takeMarker (lexer : Lexer) (token : Token) : Except Failure Lexer :=
  lexer.closeAll.map fun lexer => lexer.take token 3 false

def openBracket (lexer : Lexer) (token : Token) : Except Failure Lexer :=
  lexer.openKey.map fun lexer => { lexer.take token 1 true with depth := lexer.depth + 1 }

def closeBracket (lexer : Lexer) (token : Token) : Except Failure Lexer :=
  lexer.dropKey.map fun lexer => { lexer.take token 1 false with depth := lexer.depth - 1 }

def takeSeparator (lexer : Lexer) : Except Failure Lexer :=
  lexer.dropKey.map fun lexer => lexer.take .separator 1 true

def takeEntry (lexer : Lexer) : Except Failure Lexer :=
  if !lexer.inFlow && !lexer.keyAllowed then lexer.cursor.flaw .entryNotAllowed
  else
    let lexer := if lexer.inFlow then lexer else lexer.beginBlock .blockSequence
    lexer.dropKey.map fun lexer => lexer.take .entry 1 true

def takeKey (lexer : Lexer) : Except Failure Lexer :=
  if !lexer.inFlow && !lexer.keyAllowed then lexer.cursor.flaw .keyNotAllowed
  else
    let lexer := if lexer.inFlow then lexer else lexer.beginBlock .blockMapping
    lexer.dropKey.map fun lexer => lexer.take .key 1 (!lexer.inFlow)

def fillKey (lexer : Lexer) (key : OpenKey) : Lexer :=
  let lexer :=
    { lexer with openKeys := lexer.openKeys.filter fun (d, _) => d ≠ lexer.depth }
  let (begins, lexer) := if lexer.inFlow then (false, lexer) else lexer.indentTo key.column
  let tokens := if begins then [Token.blockMapping, .key] else [.key]
  { lexer with slots := lexer.slots.setIfInBounds key.slot tokens }

def takeValue (lexer : Lexer) : Except Failure Lexer :=
  match lexer.openKeys.lookup lexer.depth with
  | some key => .ok ((lexer.fillKey key).take .value 1 false)
  | none =>
    if !lexer.inFlow && !lexer.keyAllowed then lexer.cursor.flaw .valueNotAllowed
    else
      let lexer := if lexer.inFlow then lexer else lexer.beginBlock .blockMapping
      lexer.dropKey.map fun lexer => lexer.take .value 1 (!lexer.inFlow)

def takeBlock (lexer : Lexer) (folded : Bool) : Except Failure Lexer :=
  match lexer.dropKey with
  | .error failure => .error failure
  | .ok lexer =>
    (readBlock folded lexer.indent lexer.cursor.next).map fun (text, after) =>
      { lexer.emit (.quoted (String.ofList text)) with cursor := after, keyAllowed := true }

def takeQuoted (lexer : Lexer) (quote : Char) : Except Failure Lexer :=
  match lexer.openKey with
  | .error failure => .error failure
  | .ok lexer =>
    (readQuoted quote lexer.cursor).map fun (text, after) =>
      { lexer.emit (.quoted (String.ofList text)) with cursor := after, keyAllowed := false }

def takePlain (lexer : Lexer) : Except Failure Lexer :=
  lexer.openKey.map fun lexer =>
    let (text, after, ended) := readPlain lexer.inFlow (lexer.indent + 1) lexer.cursor
    { lexer.emit (.plain (String.ofList text)) with cursor := after, keyAllowed := ended }

def isNameChar (c : Char) : Bool :=
  c.isAlphanum || c == '-' || c == '_'

/-- The version that a directive demands, after its name: a number, a point and a number. -/
def readVersion (cursor : Cursor) : Except Failure (List Char × Cursor) :=
  let (major, point) := (cursor.dropWhile (· == ' ')).takeWhile Text.isAsciiDigit
  let (minor, after) := point.next.takeWhile Text.isAsciiDigit
  if major.isEmpty || minor.isEmpty || !point.sees '.' || !(after.sees ' ' || after.atEnd ||
      after.seesAny isBreak) then
    after.flaw .directive
  else .ok (major, after)

/-- A directive: it demands a version, of which the first number counts, or does not matter. -/
def takeDirective (lexer : Lexer) : Except Failure Lexer :=
  match lexer.closeAll with
  | .error failure => .error failure
  | .ok lexer =>
    let (name, after) := lexer.cursor.next.takeWhile isNameChar
    let finish (version : Option Nat) (place : Cursor) : Except Failure Lexer :=
      (passLine .directive place).map fun last =>
        { lexer.emit (.directive version) with cursor := last, keyAllowed := false }
    if name.isEmpty || !(after.sees ' ' || after.atEnd || after.seesAny isBreak) then
      after.flaw .directive
    else if name = "YAML".toList then
      match readVersion after with
      | .error failure => .error failure
      | .ok (major, place) => finish (some (Number.digitsValue major)) place
    else if name = "TAG".toList then after.flaw .unsupported
    else finish none (after.dropWhile fun c => !isBreak c)

def beginsPlain (inFlow : Bool) : List Char → Bool
  | [] => false
  | c :: rest =>
    !(isSpacing c || isBreak c || "-?:,[]{}#&*!|>'\"%@\x60".toList.contains c) ||
      (!isGapHead rest && (c = '-' || (!inFlow && (c = '?' || c = ':'))))

/-- Takes the token that begins at the present place, which is not the end. -/
def takeToken (lexer : Lexer) (c : Char) (rest : List Char) : Except Failure Lexer :=
  let cursor := lexer.cursor
  let flow := lexer.inFlow
  let spaced := isGapHead rest
  if c = '%' && cursor.column = 0 then lexer.takeDirective
  else if c = '-' && cursor.column = 0 && cursor.seesMarker then lexer.takeMarker .documentStart
  else if c = '.' && cursor.column = 0 && cursor.seesMarker then lexer.takeMarker .documentEnd
  else if c = '[' then lexer.openBracket .flowSequence
  else if c = '{' then lexer.openBracket .flowMapping
  else if c = ']' then lexer.closeBracket .flowSequenceEnd
  else if c = '}' then lexer.closeBracket .flowMappingEnd
  else if c = ',' then lexer.takeSeparator
  else if c = '-' && spaced then lexer.takeEntry
  else if c = '?' && (flow || spaced) then lexer.takeKey
  else if c = ':' && (flow || spaced) then lexer.takeValue
  else if c = '*' || c = '&' || c = '!' then cursor.flaw .unsupported
  else if c = '|' && !flow then lexer.takeBlock false
  else if c = '>' && !flow then lexer.takeBlock true
  else if c = '\'' || c = '"' then lexer.takeQuoted c
  else if beginsPlain flow cursor.rest then lexer.takePlain
  else cursor.flaw .noToken

def run : Nat → Lexer → Except Failure Lexer
  | 0, lexer => .ok lexer
  | fuel + 1, lexer =>
    match lexer.toToken.dropStale with
    | .error failure => .error failure
    | .ok lexer =>
      let lexer := lexer.unwindTo lexer.cursor.column
      match lexer.cursor.rest with
      | [] => lexer.closeAll
      | c :: rest =>
        match lexer.takeToken c rest with
        | .error failure => .error failure
        | .ok lexer => run fuel lexer

end Lexer

def isAllowed (c : Char) : Bool :=
  c = '\t' || c = '\n' || c = '\r' || (' ' ≤ c && c ≤ '~') || c = '\x85' ||
    ('\xa0' ≤ c && c ≠ '\uFFFE' && c ≠ '\uFFFF')

def tokens (text : List Char) : Except Failure (List Token) :=
  if text.all isAllowed then
    ((Lexer.start text).run (text.length + 1)).map fun lexer => lexer.slots.toList.flatten
  else (Cursor.start text).flaw .unprintable

end Remedy.Yaml

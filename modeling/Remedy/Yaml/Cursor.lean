/-!
Places in a YAML text. A cursor holds the characters that are left and tells how many were passed,
on which line it stands and in which column, both counted from zero.
-/

namespace Remedy.Yaml

inductive Flaw where
  | unprintable
  | noToken
  | entryNotAllowed
  | keyNotAllowed
  | valueNotAllowed
  | colonExpected
  | unclosedQuote
  | marker
  | escape
  | blockHeader
  | directive
  | unsupported
  | node
  | blockEnd
  | flowSeparator
  | singleDocument
  | keyKind
  | valueKind
  deriving Repr, DecidableEq

namespace Flaw

def message : Flaw → String
  | unprintable => "special characters are not allowed"
  | noToken => "found a character that cannot start any token"
  | entryNotAllowed => "sequence entries are not allowed here"
  | keyNotAllowed => "mapping keys are not allowed here"
  | valueNotAllowed => "mapping values are not allowed here"
  | colonExpected => "could not find expected ':'"
  | unclosedQuote => "found unexpected end of a quoted text"
  | marker => "found unexpected document separator"
  | escape => "found an unknown escape"
  | blockHeader => "unexpected text in the header of a block of text"
  | directive => "malformed directive"
  | unsupported => "anchors, aliases, tags and merged mappings are not supported"
  | node => "expected a node"
  | blockEnd => "expected the end of a block"
  | flowSeparator => "expected ',' or the end of a collection"
  | singleDocument => "expected a single document"
  | keyKind => "found a key that is a collection"
  | valueKind => "found a value of no known kind"

end Flaw

inductive Misfit where
  | year
  | month
  | day
  | emptyNumber (base : Nat)
  | tooManyDigits (digits : Nat)
  | tooLarge
  | noCharacter
  | hugeCode
  deriving Repr, DecidableEq

/-- Why a text has no value: a flaw at a line and column, or a value that cannot be formed. -/
inductive Failure where
  | flaw (reason : Flaw) (line column : Nat)
  | misfit (reason : Misfit)
  deriving Repr, DecidableEq

structure Cursor where
  rest : List Char
  passed : Nat
  line : Nat
  column : Nat
  deriving Repr, DecidableEq

def isBreak (c : Char) : Bool :=
  c == '\n' || c == '\r' || c == '\x85' || c == '\u2028' || c == '\u2029'

def isSpacing (c : Char) : Bool :=
  c == ' ' || c == '\t'

/-- Whether nothing of a word follows: a blank, the end of a line or the end of the text. -/
def isGapHead (text : List Char) : Bool :=
  match text with
  | [] => true
  | c :: _ => isSpacing c || isBreak c

namespace Cursor

def start (text : List Char) : Cursor := ⟨text, 0, 0, 0⟩

def sees (cursor : Cursor) (c : Char) : Bool :=
  cursor.rest.head? = some c

def seesAny (cursor : Cursor) (isMember : Char → Bool) : Bool :=
  cursor.rest.head?.any isMember

def atEnd (cursor : Cursor) : Bool :=
  cursor.rest.isEmpty

def past (cursor : Cursor) (c : Char) (rest : List Char) : Cursor :=
  if isBreak c && !(c = '\r' && rest.head? = some '\n') then
    ⟨rest, cursor.passed + 1, cursor.line + 1, 0⟩
  else if c = '\uFEFF' then ⟨rest, cursor.passed + 1, cursor.line, cursor.column⟩
  else ⟨rest, cursor.passed + 1, cursor.line, cursor.column + 1⟩

def next (cursor : Cursor) : Cursor :=
  match cursor.rest with
  | [] => cursor
  | c :: rest => cursor.past c rest

def skip (cursor : Cursor) : Nat → Cursor
  | 0 => cursor
  | n + 1 => cursor.next.skip n

def takeWhile (cursor : Cursor) (isMember : Char → Bool) : List Char × Cursor :=
  let taken := cursor.rest.takeWhile isMember
  (taken, cursor.skip taken.length)

def dropWhile (cursor : Cursor) (isMember : Char → Bool) : Cursor :=
  (cursor.takeWhile isMember).2

/-- The end of a line that is next, as it counts in a text, and the place after it. -/
def takeBreak (cursor : Cursor) : List Char × Cursor :=
  match cursor.rest with
  | '\r' :: '\n' :: _ => (['\n'], cursor.skip 2)
  | c :: _ =>
    if c = '\u2028' || c = '\u2029' then ([c], cursor.next)
    else if isBreak c then (['\n'], cursor.next)
    else ([], cursor)
  | [] => ([], cursor)

def seesMarker (cursor : Cursor) : Bool :=
  match cursor.rest with
  | '-' :: '-' :: '-' :: rest => isGapHead rest
  | '.' :: '.' :: '.' :: rest => isGapHead rest
  | _ => false

def flaw {α : Type} (cursor : Cursor) (reason : Flaw) : Except Failure α :=
  .error (.flaw reason cursor.line cursor.column)

end Cursor

end Remedy.Yaml

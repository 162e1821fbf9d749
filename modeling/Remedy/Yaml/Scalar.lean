import Remedy.Json.Reader
import Remedy.Yaml.Cursor

/-!
Scalars in YAML texts: plain ones, quoted ones and blocks of text. Where a scalar goes over
several lines, a single end of line counts as a space and of several all but the first count.
-/

namespace Remedy.Yaml

/-- What lies between two parts of a scalar on different lines: an end of line that stands alone
is a space. -/
def fold (ending : List Char) (further : List Char) : List Char :=
  if ending ≠ ['\n'] then ending ++ further
  else if further.isEmpty then [' ']
  else further

/-! ## Plain scalars -/

/-- Whether a plain scalar ends where a text begins; between brackets more characters end it. -/
def endsPlain (inFlow : Bool) : List Char → Bool
  | [] => true
  | c :: rest =>
    isSpacing c || isBreak c ||
      (c = ':' && (isGapHead rest || (inFlow && rest.head?.any (",[]{}".toList.contains ·)))) ||
      (inFlow && ",?[]{}".toList.contains c)

def plainPart (inFlow : Bool) : List Char → List Char
  | [] => []
  | c :: rest => if endsPlain inFlow (c :: rest) then [] else c :: plainPart inFlow rest

/-- Ends of lines and spaces after an end of line within a plain scalar; nothing if a document
begins or ends there. -/
def plainBreaks (ends : List Char) : Nat → Cursor → Option (List Char) × Cursor
  | 0, cursor => (some ends, cursor)
  | fuel + 1, cursor =>
    if cursor.sees ' ' then plainBreaks ends fuel cursor.next
    else if cursor.seesAny isBreak then
      let (ending, after) := cursor.takeBreak
      if after.seesMarker then (none, after) else plainBreaks (ends ++ ending) fuel after
    else (some ends, cursor)

/-- What lies between two parts of a plain scalar, the place after it, and whether a line ended;
nothing if the scalar ends. -/
def plainGap (cursor : Cursor) : List Char × Cursor × Bool :=
  let (blanks, after) := cursor.takeWhile (· == ' ')
  if after.seesAny isBreak then
    let (ending, next) := after.takeBreak
    if next.seesMarker then ([], next, true)
    else
      match plainBreaks [] next.rest.length next with
      | (none, last) => ([], last, true)
      | (some further, last) => (fold ending further, last, true)
  else (blanks, after, false)

/-- A plain scalar after `gap`, of which further lines have to stand in column `indent` at least
if it is not between brackets; and whether a line ended last. -/
def plainFrom (inFlow : Bool) (indent : Int) (gap : List Char) (ended : Bool) :
    Nat → Cursor → List Char × Cursor × Bool
  | 0, cursor => ([], cursor, ended)
  | fuel + 1, cursor =>
    let part := if cursor.sees '#' then [] else plainPart inFlow cursor.rest
    if part.isEmpty then ([], cursor, ended)
    else
      let (between, after, ended) := plainGap (cursor.skip part.length)
      if between.isEmpty || after.sees '#' || (!inFlow && (after.column : Int) < indent) then
        (gap ++ part, after, ended)
      else
        let (more, last, ended) := plainFrom inFlow indent between ended fuel after
        (gap ++ part ++ more, last, ended)

def readPlain (inFlow : Bool) (indent : Int) (cursor : Cursor) : List Char × Cursor × Bool :=
  plainFrom inFlow indent [] false (cursor.rest.length + 1) cursor

/-! ## Quoted scalars -/

def quotedBreaks (ends : List Char) : Nat → Cursor → Except Failure (List Char × Cursor)
  | 0, cursor => .ok (ends, cursor)
  | fuel + 1, cursor =>
    if cursor.seesMarker then cursor.flaw .marker
    else
      let after := cursor.dropWhile isSpacing
      if after.seesAny isBreak then
        let (ending, next) := after.takeBreak
        quotedBreaks (ends ++ ending) fuel next
      else .ok (ends, after)

def quotedGap (cursor : Cursor) : Except Failure (List Char × Cursor) :=
  let (blanks, after) := cursor.takeWhile isSpacing
  if after.atEnd then after.flaw .unclosedQuote
  else if after.seesAny isBreak then
    let (ending, next) := after.takeBreak
    (quotedBreaks [] (next.rest.length + 1) next).map fun (further, last) =>
      (fold ending further, last)
  else .ok (blanks, after)

def escaped? (c : Char) : Option Char :=
  [('0', '\x00'), ('a', '\x07'), ('b', '\x08'), ('t', '\t'), ('\t', '\t'), ('n', '\n'),
    ('v', '\x0b'), ('f', '\x0c'), ('r', '\r'), ('e', '\x1b'), (' ', ' '), ('"', '"'),
    ('\\', '\\'), ('/', '/'), ('N', '\x85'), ('_', '\xa0'), ('L', '\u2028'),
    ('P', '\u2029')].lookup c

def escapeWidth? (c : Char) : Option Nat :=
  [('x', 2), ('u', 4), ('U', 8)].lookup c

def codeChar (code : Nat) : Except Failure Char :=
  if 0x80000000 ≤ code then .error (.misfit .hugeCode)
  else if 0x110000 ≤ code then .error (.misfit .noCharacter)
  else .ok (Text.Point.ofCode code).shown

def readEscape (cursor : Cursor) : Except Failure (List Char × Cursor) :=
  match cursor.rest with
  | [] => cursor.flaw .escape
  | c :: rest =>
    match escaped? c, escapeWidth? c with
    | some d, _ => .ok ([d], cursor.next)
    | _, some width =>
      match (rest.take width).mapM Json.hexValue? with
      | none => cursor.flaw .escape
      | some digits =>
        if digits.length < width then cursor.flaw .escape
        else
          (codeChar (digits.foldl (fun n d => n * 16 + d) 0)).map fun d =>
            ([d], cursor.skip (width + 1))
    | _, _ =>
      if isBreak c then
        let next := cursor.takeBreak.2
        quotedBreaks [] (next.rest.length + 1) next
      else cursor.flaw .escape

def quotedFrom (quote : Char) : Nat → Cursor → Except Failure (List Char × Cursor)
  | 0, cursor => cursor.flaw .unclosedQuote
  | fuel + 1, cursor =>
    let onward (part : Except Failure (List Char × Cursor)) :
        Except Failure (List Char × Cursor) :=
      match part with
      | .error failure => .error failure
      | .ok (chars, after) =>
        (quotedFrom quote fuel after).map fun (more, last) => (chars ++ more, last)
    match cursor.rest with
    | [] => cursor.flaw .unclosedQuote
    | c :: rest =>
      if isSpacing c || isBreak c then onward (quotedGap cursor)
      else if c = quote then
        if quote = '\'' && rest.head? = some '\'' then onward (.ok (['\''], cursor.skip 2))
        else .ok ([], cursor.next)
      else if c = '\\' && quote = '"' then onward (readEscape cursor.next)
      else onward (.ok ([c], cursor.next))

def readQuoted (quote : Char) (cursor : Cursor) : Except Failure (List Char × Cursor) :=
  quotedFrom quote (cursor.rest.length + 1) cursor.next

/-! ## Blocks of text -/

inductive Chomping where
  | clip
  | strip
  | keep
  deriving Repr, DecidableEq

def chompingOf? : List Char → Option Chomping
  | '+' :: _ => some .keep
  | '-' :: _ => some .strip
  | _ => none

def digitOf? : List Char → Option Nat
  | c :: _ => if Text.isAsciiDigit c then some (c.toNat - '0'.toNat) else none
  | [] => none

/-- The rest of a line that may hold a comment after blanks and nothing else. -/
def passLine (reason : Flaw) (cursor : Cursor) : Except Failure Cursor :=
  let after := cursor.dropWhile (· == ' ')
  let last := if after.sees '#' then after.dropWhile (fun c => !isBreak c) else after
  if last.atEnd || last.seesAny isBreak then .ok last.takeBreak.2 else last.flaw reason

/-- The header of a block: chomping and indentation in any order, and the rest of the line. -/
def readHeader (cursor : Cursor) : Except Failure (Chomping × Option Nat × Cursor) :=
  let (chomping, digit, after) :=
    match chompingOf? cursor.rest with
    | some chomping =>
      match digitOf? cursor.next.rest with
      | some n => (chomping, some n, cursor.skip 2)
      | none => (chomping, none, cursor.next)
    | none =>
      match digitOf? cursor.rest with
      | some n =>
        match chompingOf? cursor.next.rest with
        | some chomping => (chomping, some n, cursor.skip 2)
        | none => (.clip, some n, cursor.next)
      | none => (.clip, none, cursor)
  if digit = some 0 then after.flaw .blockHeader
  else if !(after.atEnd || after.seesAny fun c => c == ' ' || isBreak c) then
    after.flaw .blockHeader
  else (passLine .blockHeader after).map fun last => (chomping, digit, last)

/-- Blank lines at the start of a block, and the furthest column that their spaces reach. -/
def leadingBreaks (ends : List Char) (reach : Nat) : Nat → Cursor → List Char × Nat × Cursor
  | 0, cursor => (ends, reach, cursor)
  | fuel + 1, cursor =>
    if cursor.sees ' ' then leadingBreaks ends (max reach cursor.next.column) fuel cursor.next
    else if cursor.seesAny isBreak then
      let (ending, after) := cursor.takeBreak
      leadingBreaks (ends ++ ending) reach fuel after
    else (ends, reach, cursor)

def passIndent (indent : Nat) : Nat → Cursor → Cursor
  | 0, cursor => cursor
  | fuel + 1, cursor =>
    if cursor.column < indent && cursor.sees ' ' then passIndent indent fuel cursor.next
    else cursor

def blockBreaks (indent : Nat) (ends : List Char) : Nat → Cursor → List Char × Cursor
  | 0, cursor => (ends, cursor)
  | fuel + 1, cursor =>
    let inside := passIndent indent indent cursor
    if inside.seesAny isBreak then
      let (ending, after) := inside.takeBreak
      blockBreaks indent (ends ++ ending) fuel after
    else (ends, inside)

def goesOn (indent : Nat) (cursor : Cursor) : Bool :=
  cursor.column = indent && !cursor.atEnd

/-- The lines of a block after blank lines `breaks`; the text so far, the last end of line and
the blank lines after it. -/
def blockLines (folded : Bool) (indent : Nat) (text breaks : List Char) :
    Nat → Cursor → List Char × List Char × List Char × Cursor
  | 0, cursor => (text, [], breaks, cursor)
  | fuel + 1, cursor =>
    let (line, lineEnd) := cursor.takeWhile (fun c => !isBreak c)
    let text := text ++ breaks ++ line
    let (ending, next) := lineEnd.takeBreak
    let (further, after) := blockBreaks indent [] (next.rest.length + 1) next
    if goesOn indent after then
      let isFolded := folded && ending = ['\n'] && !cursor.seesAny isSpacing &&
        !after.seesAny isSpacing
      let joint := if isFolded then (if further.isEmpty then [' '] else []) else ending
      blockLines folded indent (text ++ joint) further fuel after
    else (text, ending, further, after)

def readBlock (folded : Bool) (outer : Int) (cursor : Cursor) :
    Except Failure (List Char × Cursor) :=
  match readHeader cursor with
  | .error failure => .error failure
  | .ok (chomping, digit, body) =>
    let least := (max (outer + 1) 1).toNat
    let (breaks, indent, first) :=
      match digit with
      | some n =>
        let (breaks, first) := blockBreaks (least + n - 1) [] (body.rest.length + 1) body
        (breaks, least + n - 1, first)
      | none =>
        let (breaks, reach, first) := leadingBreaks [] 0 (body.rest.length + 1) body
        (breaks, max least reach, first)
    let (text, ending, further, last) :=
      if goesOn indent first then
        blockLines folded indent [] breaks (first.rest.length + 1) first
      else ([], [], breaks, first)
    .ok (match chomping with
      | .strip => text
      | .clip => text ++ ending
      | .keep => text ++ ending ++ further, last)

end Remedy.Yaml

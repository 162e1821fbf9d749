import Remedy.Json.Basic
import Remedy.Number.Numeral
import Remedy.Text.Point

/-!
Reading JSON texts. Besides the standard the reader takes the names `NaN`, `Infinity` and
`-Infinity`; of several members with one name the last counts. Surrogates are kept as they are, but
the escapes of two that belong together make one character. A fault is reported with its place in
the text, counted in lines and code points. The reader takes containers in containers only as deep
as it has room.
-/

namespace Remedy.Json

open Number Text

inductive Flaw where
  | value
  | propertyName
  | colon
  | comma
  | unterminatedString
  | controlCharacter
  | escape
  | unicodeEscape
  | extraData
  | byteOrderMark
  deriving Repr, DecidableEq

namespace Flaw

def message : Flaw → String
  | value => "Expecting value"
  | propertyName => "Expecting property name enclosed in double quotes"
  | colon => "Expecting ':' delimiter"
  | comma => "Expecting ',' delimiter"
  | unterminatedString => "Unterminated string starting at"
  | controlCharacter => "Invalid control character at"
  | escape => "Invalid \\escape"
  | unicodeEscape => "Invalid \\uXXXX escape"
  | extraData => "Extra data"
  | byteOrderMark => "Unexpected UTF-8 BOM (decode using utf-8-sig)"

end Flaw

/-- Why reading stopped: a flaw, with the number of code points left in the text where it lies, a
whole number of too many digits, or a container for which no room is left. -/
inductive Stop where
  | flaw (reason : Flaw) (left : Nat)
  | tooLong (digits : Nat)
  | tooDeep (container : Container)
  deriving Repr, DecidableEq

/-- The result of reading a part of a text: what it says, and the text after it. -/
abbrev Reading (α : Type) := Except Stop (α × List Point)

def stopAt {α : Type} (reason : Flaw) (text : List Point) : Except Stop α :=
  .error (.flaw reason text.length)

def isGap (c : Char) : Bool :=
  c == ' ' || c == '\t' || c == '\n' || c == '\r'

def skipGap (text : List Point) : List Point :=
  text.dropWhile (·.satisfies isGap)

def hexValue? (c : Char) : Option Nat :=
  if '0' ≤ c && c ≤ '9' then some (c.toNat - '0'.toNat)
  else if 'a' ≤ c && c ≤ 'f' then some (c.toNat - 'a'.toNat + 10)
  else if 'A' ≤ c && c ≤ 'F' then some (c.toNat - 'A'.toNat + 10)
  else none

/-- The number of four hexadecimal digits at the head of a text, of which at least one code point
more has to follow. -/
def readUnit? : List Point → Option (Nat × List Point)
  | .char a :: .char b :: .char c :: .char d :: e :: rest => do
    let a ← hexValue? a
    let b ← hexValue? b
    let c ← hexValue? c
    let d ← hexValue? d
    some (((a * 16 + b) * 16 + c) * 16 + d, e :: rest)
  | _ => none

/-- The code point that a unit and the escape after it denote, and the text after them. A unit
that is followed by a low surrogate's escape joins with it. -/
def joinUnits (unit : Nat) (rest : List Point) : Reading Point :=
  match rest with
  | .char '\\' :: .char 'u' :: more =>
    if isHigh unit && 4 < more.length then
      match readUnit? more with
      | none => stopAt .unicodeEscape (.char 'u' :: more)
      | some (low, after) =>
        if isLow low then
          .ok (.ofCode (pairCode unit low), after)
        else .ok (.ofCode unit, rest)
    else .ok (.ofCode unit, rest)
  | _ => .ok (.ofCode unit, rest)

def simpleEscape? (c : Char) : Option Char :=
  if c = '"' || c = '\\' || c = '/' then some c
  else if c = 'b' then some '\x08'
  else if c = 'f' then some '\x0c'
  else if c = 'n' then some '\n'
  else if c = 'r' then some '\r'
  else if c = 't' then some '\t'
  else none

def readEscape (opening : Nat) : List Point → Reading Point
  | [] => .error (.flaw .unterminatedString opening)
  | .surrogate _ :: rest => .error (.flaw .escape (rest.length + 2))
  | .char c :: rest =>
    if c = 'u' then
      match readUnit? rest with
      | none => stopAt .unicodeEscape (.char c :: rest)
      | some (unit, after) => joinUnits unit after
    else
      match simpleEscape? c with
      | some d => .ok (.char d, rest)
      | none => .error (.flaw .escape (rest.length + 2))

/-- The code points of a string up to its closing quote; `opening` tells where it began. -/
def readPoints (opening : Nat) : Nat → List Point → Reading (List Point)
  | 0, _ => .error (.flaw .unterminatedString opening)
  | _ + 1, [] => .error (.flaw .unterminatedString opening)
  | fuel + 1, p :: rest =>
    if p = .char '"' then .ok ([], rest)
    else if p = .char '\\' then
      match readEscape opening rest with
      | .error stop => .error stop
      | .ok (q, after) =>
        (readPoints opening fuel after).map fun (points, left) => (q :: points, left)
    else if p.satisfies (·.toNat < 0x20) then stopAt .controlCharacter (p :: rest)
    else (readPoints opening fuel rest).map fun (points, left) => (p :: points, left)

def readString (text : List Point) : Reading (List Point) :=
  readPoints (text.length + 1) (text.length + 1) text

def takeDigits (text : List Point) : List Char × List Point :=
  ((text.takeWhile (·.satisfies isAsciiDigit)).filterMap Point.char?,
    text.dropWhile (·.satisfies isAsciiDigit))

def takeFraction (text : List Point) : List Char × List Point :=
  match text with
  | .char '.' :: rest =>
    let (digits, after) := takeDigits rest
    if digits.isEmpty then ([], text) else (digits, after)
  | _ => ([], text)

def takeSign : List Point → Bool × List Point
  | .char '-' :: rest => (true, rest)
  | .char '+' :: rest => (false, rest)
  | text => (false, text)

/-- An exponent at the head of a text: a mark, a sign if there is one, and at least one digit. -/
def takeExponent (text : List Point) : Option Int × List Point :=
  match text with
  | .char mark :: rest =>
    if mark = 'e' || mark = 'E' then
      let (negative, digitsOn) := takeSign rest
      let (digits, after) := takeDigits digitsOn
      if digits.isEmpty then (none, text)
      else (some (Binary64.signed negative (digitsValue digits)), after)
    else (none, text)
  | _ => (none, text)

/-- The whole part of a number: a zero, or digits that begin with another one. -/
def takeWhole (text : List Point) : List Char × List Point :=
  match text with
  | .char '0' :: rest => (['0'], rest)
  | _ => takeDigits text

def readNumber (start : List Point) (negative : Bool) (text : List Point) :
    Reading (Json (List Point)) :=
  let (whole, rest) := takeWhole text
  if whole.isEmpty then stopAt .value start
  else
    let (fraction, rest) := takeFraction rest
    let (exponent, rest) := takeExponent rest
    if fraction.isEmpty && exponent.isNone then
      if maxDigits < whole.length then .error (.tooLong whole.length)
      else .ok (int (Binary64.signed negative (digitsValue whole)), rest)
    else
      let parts : DecimalParts := ⟨whole, fraction, exponent.getD 0⟩
      .ok (float (parts.value negative), rest)

def afterWord? (word text : List Point) : Option (List Point) :=
  if word.isPrefixOf text then some (text.drop word.length) else none

def wordValues : List (String × Json (List Point)) := [
    ("null", null), ("true", bool true), ("false", bool false), ("NaN", float .nan),
    ("Infinity", float (.infinite false)), ("-Infinity", float (.infinite true))]

def readWord? (text : List Point) : Option (Json (List Point) × List Point) :=
  wordValues.findSome? fun (word, value) =>
    (afterWord? (points word) text).map fun rest => (value, rest)

def readNumeral (text : List Point) : Reading (Json (List Point)) :=
  match text with
  | .char '-' :: rest => readNumber text true rest
  | _ => readNumber text false text

mutual

/-- One document at the head of a text, with room for so many containers in each other. Every call
takes at least one code point or one unit of fuel from the next, so the length of the text bounds
the fuel that is needed. -/
def readValue : Nat → Nat → List Point → Reading (Json (List Point))
  | 0, _, text => stopAt .value text
  | fuel + 1, room, text =>
    match text with
    | .char '"' :: rest => (readString rest).map fun (s, after) => (str s, after)
    | .char '[' :: rest =>
      match room with
      | 0 => .error (.tooDeep .array)
      | room + 1 =>
        match skipGap rest with
        | .char ']' :: after => .ok (arr [], after)
        | items => (readItems fuel room items).map fun (items, after) => (arr items, after)
    | .char '\x7b' :: rest =>
      match room with
      | 0 => .error (.tooDeep .object)
      | room + 1 =>
        match skipGap rest with
        | .char '\x7d' :: after => .ok (obj [], after)
        | members =>
          (readMembers fuel room [] members).map fun (members, after) => (obj members, after)
    | _ =>
      match readWord? text with
      | some found => .ok found
      | none => readNumeral text

def readItems : Nat → Nat → List Point → Reading (List (Json (List Point)))
  | 0, _, text => stopAt .value text
  | fuel + 1, room, text =>
    match readValue fuel room text with
    | .error stop => .error stop
    | .ok (item, after) =>
      match skipGap after with
      | .char ']' :: rest => .ok ([item], rest)
      | .char ',' :: rest =>
        (readItems fuel room (skipGap rest)).map fun (items, left) => (item :: items, left)
      | rest => stopAt .comma rest

/-- The members of an object up to its closing brace, added to those read before. -/
def readMembers : Nat → Nat → List (List Point × Json (List Point)) → List Point →
    Reading (List (List Point × Json (List Point)))
  | 0, _, _, text => stopAt .propertyName text
  | fuel + 1, room, before, text =>
    match text with
    | .char '"' :: rest =>
      match readString rest with
      | .error stop => .error stop
      | .ok (name, after) =>
        match skipGap after with
        | .char ':' :: rest =>
          match readValue fuel room (skipGap rest) with
          | .error stop => .error stop
          | .ok (value, after) =>
            let members := insert name value before
            match skipGap after with
            | .char '\x7d' :: rest => .ok (members, rest)
            | .char ',' :: rest => readMembers fuel room members (skipGap rest)
            | rest => stopAt .comma rest
        | rest => stopAt .colon rest
    | _ => stopAt .propertyName text

end

def readDocument (room : Nat) (text : List Point) : Except Stop (Json (List Point)) :=
  let start := skipGap text
  match readValue (2 * start.length + 2) room start with
  | .error stop => .error stop
  | .ok (value, after) =>
    match skipGap after with
    | [] => .ok value
    | rest => stopAt .extraData rest

inductive ReadError where
  | flaw (reason : Flaw) (line column position : Nat)
  | tooLong (digits : Nat)
  | tooDeep (container : Container)
  deriving Repr, DecidableEq

namespace ReadError

def message : ReadError → String
  | flaw reason line column position =>
    reason.message ++ ": line " ++ toString line ++ " column " ++ toString column ++ " (char " ++
      toString position ++ ")"
  | tooLong digits => tooLongMessage digits
  | tooDeep container => container.tooDeepMessage

end ReadError

def locate (text : List Point) (reason : Flaw) (left : Nat) : ReadError :=
  let before := text.take (text.length - left)
  let lastLine := before.reverse.takeWhile (· ≠ .char '\n')
  .flaw reason (before.count (.char '\n') + 1) (lastLine.length + 1) before.length

/-- The document that code points are, with room for so many containers in each other. -/
def ofPoints (room : Nat) (text : List Point) : Except ReadError (Json (List Point)) :=
  match readDocument room text with
  | .ok value => .ok value
  | .error (.flaw reason left) => .error (locate text reason left)
  | .error (.tooLong digits) => .error (.tooLong digits)
  | .error (.tooDeep container) => .error (.tooDeep container)

/-- The document that a text is. A text must not begin with a byte order mark. -/
def read (room : Nat) (text : String) : Except ReadError (Json (List Point)) :=
  let text := points text
  match text with
  | .char '\uFEFF' :: _ => .error (locate text .byteOrderMark text.length)
  | _ => ofPoints room text

end Remedy.Json

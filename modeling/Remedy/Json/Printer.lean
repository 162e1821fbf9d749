import Remedy.Json.Basic

/-!
JSON texts in ASCII. Characters outside the printable ASCII range are escaped in UTF-16 units. A
document is written on one line, or with one item a line, each level further in by a number of
blanks.
-/

namespace Remedy.Json

/-- How a document is laid out: on one line, or one item a line with an indentation. -/
inductive Layout where
  | oneLine
  | indented (width : Nat)
  deriving Repr, DecidableEq

def escapeUnit (unit : Nat) : List Char :=
  '\\' :: 'u' :: Text.hexDigits 4 unit

def escapeChar (c : Char) : List Char :=
  if c = '"' then ['\\', '"']
  else if c = '\\' then ['\\', '\\']
  else if c = '\n' then ['\\', 'n']
  else if c = '\r' then ['\\', 'r']
  else if c = '\t' then ['\\', 't']
  else if c = '\x08' then ['\\', 'b']
  else if c = '\x0c' then ['\\', 'f']
  else if ' ' ≤ c && c ≤ '~' then [c]
  else if c.toNat < 0x10000 then escapeUnit c.toNat
  else
    let rest := c.toNat - 0x10000
    escapeUnit (0xD800 + rest / 0x400) ++ escapeUnit (0xDC00 + rest % 0x400)

def quote (text : String) : List Char :=
  '"' :: text.toList.flatMap escapeChar ++ ['"']

/-- A number with a fraction or an exponent, with the names that stand for infinities and for no
number. -/
def floatText : Number.Binary64 → List Char
  | .nan => "NaN".toList
  | .infinite negative => if negative then "-Infinity".toList else "Infinity".toList
  | x => x.text.toList

def itemBreak : Layout → Nat → List Char
  | .oneLine, _ => [',', ' ']
  | .indented width, depth => ',' :: '\n' :: List.replicate (width * depth) ' '

/-- What follows the opening bracket of a container whose items are at a depth. -/
def openBreak : Layout → Nat → List Char
  | .oneLine, _ => []
  | .indented width, depth => '\n' :: List.replicate (width * depth) ' '

def closeBreak (layout : Layout) (depth : Nat) : List Char :=
  openBreak layout depth

mutual

def print (layout : Layout) (depth : Nat) : Json → List Char
  | null => "null".toList
  | bool b => if b then "true".toList else "false".toList
  | int n => (toString n).toList
  | float x => floatText x
  | str s => quote s
  | arr [] => ['[', ']']
  | arr (j :: rest) =>
    '[' :: openBreak layout (depth + 1) ++ print layout (depth + 1) j ++
      printItems layout (depth + 1) rest ++ closeBreak layout depth ++ [']']
  | obj [] => ['\x7b', '\x7d']
  | obj ((n, j) :: rest) =>
    '\x7b' :: openBreak layout (depth + 1) ++ quote n ++ ':' :: ' ' ::
      print layout (depth + 1) j ++ printMembers layout (depth + 1) rest ++
        closeBreak layout depth ++ ['\x7d']

def printItems (layout : Layout) (depth : Nat) : List Json → List Char
  | [] => []
  | j :: rest => itemBreak layout depth ++ print layout depth j ++ printItems layout depth rest

def printMembers (layout : Layout) (depth : Nat) : List (String × Json) → List Char
  | [] => []
  | (n, j) :: rest =>
    itemBreak layout depth ++ quote n ++ ':' :: ' ' :: print layout depth j ++
      printMembers layout depth rest

end

def render (layout : Layout) (j : Json) : String :=
  String.ofList (print layout 0 j)

end Remedy.Json

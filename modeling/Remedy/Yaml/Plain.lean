import Remedy.Json.Reader
import Remedy.Yaml.Cursor

/-!
What plain scalars mean. A plain scalar is a constant, a number or a date if it is spelled like
one; otherwise it is a text. Numbers may be written in parts of sixty with colons between them,
and underscores between their digits do not count.
-/

namespace Remedy.Yaml

open Number

def nullWords : List String := ["", "~", "null", "Null", "NULL"]

def trueWords : List String :=
  ["yes", "Yes", "YES", "true", "True", "TRUE", "on", "On", "ON"]

def falseWords : List String :=
  ["no", "No", "NO", "false", "False", "FALSE", "off", "Off", "OFF"]

def isMadeOf (isMember : Char → Bool) (text : List Char) : Bool :=
  !text.isEmpty && text.all isMember

def isSpacedDigit (c : Char) : Bool :=
  Text.isAsciiDigit c || c == '_'

/-- Whether a text begins with a digit and goes on with digits and underscores. -/
def isSpacedNumber (text : List Char) : Bool :=
  text.head?.any Text.isAsciiDigit && text.all isSpacedDigit

def isSixtieth : List Char → Bool
  | [c] => Text.isAsciiDigit c
  | [c, d] => '0' ≤ c && c ≤ '5' && Text.isAsciiDigit d
  | _ => false

def dropUnderscores (text : List Char) : List Char :=
  text.filter (· ≠ '_')

/-- The parts of a text between separators; there is always one more than separators. -/
def parts (separator : Char) : List Char → List (List Char)
  | [] => [[]]
  | c :: rest =>
    if c = separator then [] :: parts separator rest
    else
      match parts separator rest with
      | [] => [[c]]
      | part :: more => (c :: part) :: more

/-! ## Whole numbers -/

def valueIn (base : Nat) (digits : List Char) : Nat :=
  digits.foldl (fun n c => n * base + ((Json.hexValue? c).getD 0)) 0

def basedNumber (base : Nat) (digits : List Char) : Except Misfit Nat :=
  if digits.isEmpty then .error (.emptyNumber base) else .ok (valueIn base digits)

def decimalNumber (digits : List Char) : Except Misfit Nat :=
  if maxDigits < digits.length then .error (.tooManyDigits digits.length)
  else .ok (digitsValue digits)

def sixtiethsNumber (digits : List (List Char)) : Except Misfit Nat :=
  (digits.mapM decimalNumber).map fun values => values.foldl (fun n v => n * 60 + v) 0

def readMagnitude? (text : List Char) : Option (Except Misfit Nat) :=
  match text with
  | '0' :: 'b' :: digits =>
    if isMadeOf (fun c => c == '0' || c == '1' || c == '_') digits then
      some (basedNumber 2 (dropUnderscores digits))
    else none
  | '0' :: 'x' :: digits =>
    if isMadeOf (fun c => (Json.hexValue? c).isSome || c == '_') digits then
      some (basedNumber 16 (dropUnderscores digits))
    else none
  | '0' :: digits =>
    if digits.all fun c => ('0' ≤ c && c ≤ '7') || c == '_' then
      some (.ok (valueIn 8 (dropUnderscores digits)))
    else none
  | _ =>
    match parts ':' text with
    | first :: rest =>
      if isSpacedNumber first && rest.all isSixtieth then
        some (if rest.isEmpty then decimalNumber (dropUnderscores first)
          else sixtiethsNumber (dropUnderscores first :: rest))
      else none
    | [] => none

def readInt? (text : List Char) : Option (Except Misfit Int) :=
  let (negative, unsigned) := takeSign text
  (readMagnitude? unsigned).map fun magnitude => magnitude.map (Binary64.signed negative)

/-! ## Numbers with a point -/

/-- The exponent at the end of a number: nothing, or a mark, a sign and digits. -/
def isExponent : List Char → Bool
  | [] => true
  | mark :: sign :: digits =>
    (mark == 'e' || mark == 'E') && (sign == '+' || sign == '-') &&
      isMadeOf Text.isAsciiDigit digits
  | _ => false

def decimalValue (text : List Char) : Binary64 :=
  (readUnsigned? false (dropUnderscores text)).getD .nan

/-- Parts of sixty, the last one first, added up from `total` on; `unit` is what the first of them
counts. -/
def addSixtieths (total : Binary64) (unit : Nat) : List Binary64 → Except Misfit Binary64
  | [] => .ok total
  | part :: rest =>
    match Binary64.ofInt? unit with
    | none => .error .tooLarge
    | some weight => addSixtieths (total.plus (part.times weight)) (unit * 60) rest

/-- Whether a text is the last part of a number with colons: up to two digits, and a point. -/
def isLastPart (text : List Char) : Bool :=
  let whole := text.takeWhile (· ≠ '.')
  match text.drop whole.length with
  | _ :: fraction => isSixtieth whole && fraction.all isSpacedDigit
  | [] => false

/-- The unsigned number with a point that a text spells, if it spells one; a number that begins
with the point has no sign. -/
def readReal? (hasSign : Bool) (text : List Char) : Option (Except Misfit Binary64) :=
  let whole := text.takeWhile isSpacedDigit
  match text.drop whole.length with
  | '.' :: tail =>
    let fraction := tail.takeWhile isSpacedDigit
    let exponent := tail.drop fraction.length
    if whole.isEmpty then
      if [".inf", ".Inf", ".INF"].contains (String.ofList text) then some (.ok (.infinite false))
      else if hasSign then none
      else if [".nan", ".NaN", ".NAN"].contains (String.ofList text) then some (.ok .nan)
      else if isSpacedNumber fraction && isExponent exponent then some (.ok (decimalValue text))
      else none
    else if isSpacedNumber whole && isExponent exponent then some (.ok (decimalValue text))
    else none
  | ':' :: _ =>
    match (parts ':' text).reverse with
    | last :: before =>
      if isSpacedNumber whole && isLastPart last && before.dropLast.all isSixtieth then
        some (addSixtieths (.zero false) 1 ((last :: before).map decimalValue))
      else none
    | [] => none
  | _ => none

def readFloat? (text : List Char) : Option (Except Misfit Binary64) :=
  let (negative, unsigned) := takeSign text
  (readReal? (unsigned.length < text.length) unsigned).map fun number =>
    number.map fun x => if negative then x.opposite else x

/-! ## Dates -/

def isLeap (year : Nat) : Bool :=
  year % 4 = 0 && (year % 100 ≠ 0 || year % 400 = 0)

def monthLength (year month : Nat) : Nat :=
  if month = 2 then (if isLeap year then 29 else 28)
  else if month = 4 || month = 6 || month = 9 || month = 11 then 30
  else 31

def date (year month day : Nat) : Except Misfit Date :=
  if year = 0 then .error .year
  else if month = 0 || 12 < month then .error .month
  else if day = 0 || monthLength year month < day then .error .day
  else .ok ⟨year, month, day⟩

def readDate? (text : List Char) : Option (Except Misfit Date) :=
  match parts '-' text with
  | [year, month, day] =>
    if year.length = 4 && month.length = 2 && day.length = 2 &&
        (year ++ month ++ day).all Text.isAsciiDigit then
      some (date (digitsValue year) (digitsValue month) (digitsValue day))
    else none
  | _ => none

/-! ## All kinds -/

/-- A plain scalar that has a meaning of its own only as the key of a mapping. -/
def mergeWord : String := "<<"

def defaultWord : String := "="

def plainValue (text : String) : Except Misfit Value :=
  let chars := text.toList
  if nullWords.contains text then .ok .null
  else if trueWords.contains text then .ok (.bool true)
  else if falseWords.contains text then .ok (.bool false)
  else
    match readFloat? chars, readInt? chars, readDate? chars with
    | some x, _, _ => x.map .float
    | none, some n, _ => n.map .int
    | none, none, some d => d.map .date
    | none, none, none => .ok (.str text)

end Remedy.Yaml

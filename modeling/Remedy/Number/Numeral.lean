import Remedy.Number.Binary64
import Remedy.Text.Blank
import Remedy.Text.Digit

/-!
Numerals in texts that people write: white space around the numeral is ignored, an underscore may
stand between two digits, and decimal digits of any script count. A whole numeral is a sign and
digits; a decimal one may have a fraction and an exponent, or be a name of infinity or of the
value that is no number.
-/

namespace Remedy.Number

def isAscii (c : Char) : Bool :=
  c.toNat < 128

/-- A character in plain spelling: white space beyond ASCII as a space and a digit of another
script as its ASCII digit. Other characters beyond ASCII have none. -/
def plainChar? (c : Char) : Option Char :=
  if c.toNat < 127 then some c
  else if Text.isBlank c then some ' '
  else (Text.digitValue? c).map Text.digitChar

/-- A text in plain spelling. A text of ASCII characters only is in plain spelling already. -/
def plainSpelling? (text : List Char) : Option (List Char) :=
  if text.all isAscii then some text else text.mapM plainChar?

/-- Whether a character is white space that may surround a numeral in plain spelling. -/
def isPadding (c : Char) : Bool :=
  c == ' ' || ('\t' ≤ c && c ≤ '\r')

def trimPadding (text : List Char) : List Char :=
  Text.trimRight isPadding (Text.trimLeft isPadding text)

/-- Removes underscores, each of which has to stand between two digits; `afterDigit` tells
whether a digit stands before. -/
def dropUnderscores? (afterDigit : Bool) : List Char → Option (List Char)
  | [] => some []
  | '_' :: c :: rest =>
    if afterDigit && Text.isAsciiDigit c then (dropUnderscores? true rest).map (c :: ·) else none
  | c :: rest =>
    if c = '_' then none
    else (dropUnderscores? (Text.isAsciiDigit c) rest).map (c :: ·)

def takeSign : List Char → Bool × List Char
  | '-' :: rest => (true, rest)
  | '+' :: rest => (false, rest)
  | text => (false, text)

def digitsValue (digits : List Char) : Nat :=
  digits.foldl (fun n c => n * 10 + (c.toNat - '0'.toNat)) 0

def maxDigits : Nat := 4300

inductive NumeralError where
  | notANumeral
  | tooLong (digits : Nat)
  deriving Repr, DecidableEq

def tooLongMessage (digits : Nat) : String :=
  "Exceeds the limit (4300 digits) for integer string conversion: value has " ++ toString digits ++
    " digits; use sys.set_int_max_str_digits() to increase the limit"

def wholeOfDigits (negative : Bool) (digits : List Char) : Except NumeralError Int :=
  if digits.isEmpty || !digits.all Text.isAsciiDigit then .error .notANumeral
  else if maxDigits < digits.length then .error (.tooLong digits.length)
  else .ok (Binary64.signed negative (digitsValue digits))

def readWhole (text : String) : Except NumeralError Int :=
  match plainSpelling? text.toList with
  | none => .error .notANumeral
  | some plain =>
    let (negative, body) := takeSign (trimPadding plain)
    match dropUnderscores? false body with
    | none => .error .notANumeral
    | some digits => wholeOfDigits negative digits

structure DecimalParts where
  whole : List Char
  fraction : List Char
  exponent : Int
  deriving Repr

def readExponent? : List Char → Option Int
  | [] => some 0
  | mark :: rest =>
    if mark = 'e' || mark = 'E' then
      let (negative, digits) := takeSign rest
      if digits.isEmpty || !digits.all Text.isAsciiDigit then none
      else some (Binary64.signed negative (digitsValue digits))
    else none

/-- The parts of an unsigned decimal numeral. There is a digit before or after the point. -/
def readParts? (text : List Char) : Option DecimalParts :=
  let whole := text.takeWhile Text.isAsciiDigit
  let rest := text.dropWhile Text.isAsciiDigit
  let (fraction, rest) :=
    match rest with
    | '.' :: more => (more.takeWhile Text.isAsciiDigit, more.dropWhile Text.isAsciiDigit)
    | _ => ([], rest)
  if whole.isEmpty && fraction.isEmpty then none
  else (readExponent? rest).map fun exponent => ⟨whole, fraction, exponent⟩

def DecimalParts.value (negative : Bool) (parts : DecimalParts) : Binary64 :=
  Binary64.ofDecimal negative (digitsValue (parts.whole ++ parts.fraction))
    (parts.exponent - parts.fraction.length)

def asciiLower (text : List Char) : List Char :=
  text.map Char.toLower

def readUnsigned? (negative : Bool) (text : List Char) : Option Binary64 :=
  let name := String.ofList (asciiLower text)
  if name = "inf" || name = "infinity" then some (.infinite negative)
  else if name = "nan" then some .nan
  else (readParts? text).map (·.value negative)

def readDecimal? (text : String) : Option Binary64 := do
  let plain ← plainSpelling? text.toList
  let body := trimPadding plain
  let digits ← if body.contains '_' then dropUnderscores? false body else some body
  let (negative, unsigned) := takeSign digits
  readUnsigned? negative unsigned

end Remedy.Number

import Remedy.Text.Printable

/-!
Quoted texts, as they stand in messages. A text is quoted with apostrophes, or with double quotes
when it holds an apostrophe and no double quote; the quote in use, the backslash and characters
that are not printable are escaped.
-/

namespace Remedy.Text

def hexDigit (n : Nat) : Char :=
  if n < 10 then Char.ofNat (48 + n) else Char.ofNat (87 + n)

def hexDigits : Nat → Nat → List Char
  | 0, _ => []
  | width + 1, n => hexDigits width (n / 16) ++ [hexDigit (n % 16)]

/-- A backslash escape of a code point: two, four or eight hexadecimal digits, as many as the
code point needs. -/
def escapeCode (code : Nat) : List Char :=
  if code < 0x100 then '\\' :: 'x' :: hexDigits 2 code
  else if code < 0x10000 then '\\' :: 'u' :: hexDigits 4 code
  else '\\' :: 'U' :: hexDigits 8 code

def quoteOf (text : List Char) : Char :=
  if text.contains '\'' && !text.contains '"' then '"' else '\''

def quoteChar (quote c : Char) : List Char :=
  if c = quote || c = '\\' then ['\\', c]
  else if c = '\t' then ['\\', 't']
  else if c = '\n' then ['\\', 'n']
  else if c = '\r' then ['\\', 'r']
  else if isPrintable c then [c]
  else escapeCode c.toNat

def quoteChars (text : List Char) : List Char :=
  let quote := quoteOf text
  quote :: text.flatMap (quoteChar quote) ++ [quote]

def quoted (text : String) : String :=
  String.ofList (quoteChars text.toList)

end Remedy.Text

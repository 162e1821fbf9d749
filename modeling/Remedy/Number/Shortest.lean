import Remedy.Number.Binary64
import Remedy.Text.Digit

/-!
Shortest decimals. Among the decimals that read back as a given number, those with the fewest
digits are taken, and of these the nearest to the number. A decimal reads back when it lies in
the interval of values that round to the number; the ends belong to the interval when the
significand is even.
-/

namespace Remedy.Number

structure Digits where
  digits : List Nat
  point : Int
  deriving Repr, DecidableEq

/-- The interval of positive values that round to one number, over a common denominator: its
ends, the number itself, and whether the ends belong to it. -/
structure Interval where
  low : Nat
  value : Nat
  high : Nat
  den : Nat
  closed : Bool
  deriving Repr

namespace Interval

/-- The interval of a finite positive number. Below a power of two the neighbour is half as
far. -/
def of (significand : Nat) (exponent : Int) : Interval :=
  let uneven := significand = Nat.pow 2 52 && Binary64.minExponent < exponent
  let num := significand * 4
  let below := if uneven then 1 else 2
  let up := Nat.pow 2 (exponent - 2).toNat
  let den := Nat.pow 2 (2 - exponent).toNat
  ⟨(num - below) * up, num * up, (num + 2) * up, den, significand % 2 = 0⟩

def holds (i : Interval) (num den : Nat) : Bool :=
  if i.closed then i.low * den ≤ num * i.den && num * i.den ≤ i.high * den
  else i.low * den < num * i.den && num * i.den < i.high * den

end Interval

def digitCount (n : Nat) : Nat :=
  if n < 10 then 1 else digitCount (n / 10) + 1

/-- The least `k`, from `k` on, with `den ≤ num * 10 ^ k`; the search ends after `fuel` steps. -/
def leadingZeros (num den : Nat) : Nat → Nat → Nat
  | 0, k => k
  | fuel + 1, k => if den ≤ num * Nat.pow 10 k then k else leadingZeros num den fuel (k + 1)

/-- The place of the decimal point before the first digit of a positive quotient. -/
def pointOf (num den : Nat) : Int :=
  if den ≤ num then digitCount (num / den) else 1 - (leadingZeros num den 400 0 : Int)

def timesTen (num den : Nat) (power : Int) : Nat × Nat :=
  if 0 ≤ power then (num * Nat.pow 10 power.toNat, den)
  else (num, den * Nat.pow 10 (-power).toNat)

/-- The decimal with `count` digits that reads back and is nearest, as an integer on its grid. -/
def Interval.onGrid? (i : Interval) (point : Int) (count : Nat) : Option Nat :=
  let power := (count : Int) - point
  let (num, den) := timesTen i.value i.den power
  let below := num / den
  let inside (n : Nat) : Bool :=
    let (a, b) := timesTen n 1 (-power)
    i.holds a b
  match inside below, inside (below + 1) with
  | true, true => some (Binary64.divideNearest num den)
  | true, false => some below
  | false, true => some (below + 1)
  | false, false => none

/-- The first grid, from `count` digits on, that has a decimal that reads back. -/
def Interval.search (i : Interval) (point : Int) : Nat → Nat → Nat × Nat
  | 0, count => (i.value / i.den, count)
  | fuel + 1, count =>
    match i.onGrid? point count with
    | some n => (n, count)
    | none => i.search point fuel (count + 1)

/-- The decimal digits of a number, most significant first, in front of `rest`. -/
def decimalDigits (n : Nat) (rest : List Nat) : List Nat :=
  if n < 10 then n :: rest else decimalDigits (n / 10) (n % 10 :: rest)

def shortestDigits (significand : Nat) (exponent : Int) : Digits :=
  let i := Interval.of significand exponent
  let point := pointOf i.value i.den
  let (n, count) := i.search point 17 1
  let digits := decimalDigits n []
  ⟨(digits.reverse.dropWhile (· == 0)).reverse, point + ((digits.length : Int) - count)⟩

/-- The layout of a decimal: up to which place of the point it is written out, and from how far
below one an exponent is used; exponents have a sign and at least two digits, and a number
written out always has a fraction. -/
structure DecimalLayout where
  lowestPoint : Int
  highestPoint : Int
  exponentWidth : Nat
  deriving Repr, DecidableEq

/-- Numbers from `0.0001` up to, but not including, `10 ^ 16` are written out. -/
def plainLayout : DecimalLayout := ⟨-3, 16, 2⟩

def digitText (digits : List Nat) : List Char :=
  digits.map Text.digitChar

def padZeros (width : Nat) (text : List Char) : List Char :=
  List.replicate (width - text.length) '0' ++ text

def exponentText (layout : DecimalLayout) (e : Int) : List Char :=
  (if e < 0 then '-' else '+') ::
    padZeros layout.exponentWidth (digitText (decimalDigits e.natAbs []))

def Digits.text (layout : DecimalLayout) (d : Digits) : List Char :=
  let chars := digitText d.digits
  if layout.lowestPoint ≤ d.point && d.point ≤ layout.highestPoint then
    if d.point ≤ 0 then
      '0' :: '.' :: List.replicate (-d.point).toNat '0' ++ chars
    else
      let whole := chars.take d.point.toNat
      let fraction := chars.drop d.point.toNat
      whole ++ List.replicate (d.point.toNat - whole.length) '0' ++
        '.' :: (if fraction.isEmpty then ['0'] else fraction)
  else
    let mantissa :=
      match chars with
      | [] => []
      | [c] => [c]
      | c :: rest => c :: '.' :: rest
    mantissa ++ 'e' :: exponentText layout (d.point - 1)

def Binary64.text : Binary64 → String
  | .nan => "nan"
  | .infinite negative => if negative then "-inf" else "inf"
  | .finite negative significand exponent =>
    let digits :=
      if significand = 0 then ['0', '.', '0']
      else (shortestDigits significand exponent).text plainLayout
    String.ofList (if negative then '-' :: digits else digits)

/-- The text of a number with one decimal place; the exact value is rounded, and a tie goes to
the even digit. -/
def Binary64.oneDecimal : Binary64 → String
  | .nan => "nan"
  | .infinite negative => if negative then "-inf" else "inf"
  | .finite negative significand exponent =>
    let tenths :=
      if 0 ≤ exponent then significand * 10 * Nat.pow 2 exponent.toNat
      else divideNearest (significand * 10) (Nat.pow 2 (-exponent).toNat)
    let digits :=
      digitText (decimalDigits (tenths / 10) []) ++ ['.', Text.digitChar (tenths % 10)]
    String.ofList (if negative then '-' :: digits else digits)

end Remedy.Number

/-!
Double-precision numbers as exact values. A finite number is a sign, a significand below `2 ^ 53`
and an exponent of two; every operation is carried out exactly and then rounded once to the
nearest such number, a tie going to the even significand.
-/

namespace Remedy.Number

/-- A double-precision number. A finite one is its significand times two to its exponent. -/
inductive Binary64 where
  | nan
  | infinite (negative : Bool)
  | finite (negative : Bool) (significand : Nat) (exponent : Int)
  deriving Repr, DecidableEq, Inhabited

namespace Binary64

def minExponent : Int := -1074

def maxExponent : Int := 971

def zero (negative : Bool) : Binary64 :=
  .finite negative 0 minExponent

def divideNearest (num den : Nat) : Nat :=
  let floor := num / den
  let twice := 2 * (num % den)
  if den < twice then floor + 1
  else if twice < den then floor
  else if floor % 2 = 0 then floor
  else floor + 1

/-- The quotient of two numbers divided by two to an exponent, as a quotient of natural
numbers. -/
def scaledDown (num den : Nat) (exponent : Int) : Nat × Nat :=
  if 0 ≤ exponent then (num, den * Nat.pow 2 exponent.toNat)
  else (num * Nat.pow 2 (-exponent).toNat, den)

/-- The exponent at which a positive quotient has a significand of full width, or the least
exponent. -/
def exponentOf (num den : Nat) : Int :=
  let guess := max ((Nat.log2 num : Int) - Nat.log2 den - 53) minExponent
  let (n, d) := scaledDown num den guess
  if Nat.pow 2 53 ≤ n / d then guess + 1 else guess

/-- A finite number whose significand may have just outgrown its width, and that may be too large
to be finite. -/
def carry (negative : Bool) (significand : Nat) (exponent : Int) : Binary64 :=
  let (s, e) :=
    if significand = Nat.pow 2 53 then (Nat.pow 2 52, exponent + 1) else (significand, exponent)
  if maxExponent < e then .infinite negative else .finite negative s e

def ofRatio (negative : Bool) (num den : Nat) : Binary64 :=
  if num = 0 then zero negative
  else
    let exponent := exponentOf num den
    let (n, d) := scaledDown num den exponent
    carry negative (divideNearest n d) exponent

/-- The nearest double-precision number to a significand times two to an exponent. -/
def ofDyadic (negative : Bool) (significand : Nat) (exponent : Int) : Binary64 :=
  if 0 ≤ exponent then ofRatio negative (significand * Nat.pow 2 exponent.toNat) 1
  else ofRatio negative significand (Nat.pow 2 (-exponent).toNat)

/-- The nearest double-precision number to a coefficient times ten to an exponent. Exponents far
outside the range are decided without computing the power. -/
def ofDecimal (negative : Bool) (coefficient : Nat) (exponent : Int) : Binary64 :=
  let digits : Int := (Nat.log2 coefficient : Int) / 3 + 1
  if coefficient = 0 then zero negative
  else if 400 < exponent then .infinite negative
  else if exponent + digits < -400 then zero negative
  else if 0 ≤ exponent then ofRatio negative (coefficient * Nat.pow 10 exponent.toNat) 1
  else ofRatio negative coefficient (Nat.pow 10 (-exponent).toNat)

def ofInt? (n : Int) : Option Binary64 :=
  match ofRatio (n < 0) n.natAbs 1 with
  | .finite negative significand exponent => some (.finite negative significand exponent)
  | _ => none

def signed (negative : Bool) (n : Nat) : Int :=
  if negative then -(n : Int) else n

def align (s : Int) (e : Int) (t : Int) (f : Int) : Int × Int :=
  if e ≤ f then (s, t * Nat.pow 2 (f - e).toNat) else (s * Nat.pow 2 (e - f).toNat, t)

/-- Whether one number is less than another; a comparison with NaN never holds. -/
def lt : Binary64 → Binary64 → Bool
  | .nan, _ => false
  | _, .nan => false
  | .infinite n, .infinite m => n && !m
  | .infinite n, .finite .. => n
  | .finite .., .infinite m => !m
  | .finite n s e, .finite m t f =>
    let (a, b) := align (signed n s) e (signed m t) f
    a < b

/-- Whether two numbers are equal; the two zeros are, and NaN is not equal to itself. -/
def same : Binary64 → Binary64 → Bool
  | .nan, _ => false
  | _, .nan => false
  | .infinite n, .infinite m => n == m
  | .infinite _, .finite .. => false
  | .finite .., .infinite _ => false
  | .finite n s e, .finite m t f =>
    let (a, b) := align (signed n s) e (signed m t) f
    a = b

/-- An integer as the exact value that comparisons use; it need not fit the width. -/
def exactInt (n : Int) : Binary64 :=
  .finite (n < 0) n.natAbs 0

def isZero : Binary64 → Bool
  | .finite _ 0 _ => true
  | _ => false

def scale (x : Binary64) (power : Nat) : Binary64 :=
  match x with
  | .nan => .nan
  | .infinite negative => .infinite negative
  | .finite negative significand exponent =>
    if 4096 < power then (if significand = 0 then zero negative else .infinite negative)
    else ofDyadic negative significand (exponent + power)

def times (x y : Binary64) : Binary64 :=
  match x, y with
  | .nan, _ => .nan
  | _, .nan => .nan
  | .infinite n, .infinite m => .infinite (n != m)
  | .infinite n, .finite m t _ => if t = 0 then .nan else .infinite (n != m)
  | .finite n s _, .infinite m => if s = 0 then .nan else .infinite (n != m)
  | .finite n s e, .finite m t f => ofDyadic (n != m) (s * t) (e + f)

def plus (x y : Binary64) : Binary64 :=
  match x, y with
  | .nan, _ => .nan
  | _, .nan => .nan
  | .infinite n, .infinite m => if n = m then .infinite n else .nan
  | .infinite n, .finite .. => .infinite n
  | .finite .., .infinite m => .infinite m
  | .finite n s e, .finite m t f =>
    let (a, b) := align (signed n s) e (signed m t) f
    if a + b = 0 then zero (n && m) else ofDyadic (a + b < 0) (a + b).natAbs (min e f)

def opposite : Binary64 → Binary64
  | .nan => .nan
  | .infinite n => .infinite (!n)
  | .finite n s e => .finite (!n) s e

end Binary64

end Remedy.Number

/-!
Sets of code points, written as ascending runs. Membership stops at the first run that begins
beyond the code point, so short codes are decided early.
-/

namespace Remedy.Text

/-- Runs of code points, each with its first and last member, in ascending order. -/
abbrev CodeRanges := List (Nat × Nat)

namespace CodeRanges

def find? : CodeRanges → Nat → Option Nat
  | [], _ => none
  | (first, last) :: rest, code =>
    if code < first then none
    else if code ≤ last then some first
    else find? rest code

def contains (ranges : CodeRanges) (code : Nat) : Bool :=
  (ranges.find? code).isSome

end CodeRanges

end Remedy.Text

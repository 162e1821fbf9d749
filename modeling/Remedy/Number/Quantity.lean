import Remedy.Number.Shortest

/-!
Quantities: whole numbers of any size and double-precision numbers, compared by exact value.
-/

namespace Remedy.Number

inductive Quantity where
  | whole (n : Int)
  | real (x : Binary64)
  deriving Repr, DecidableEq, Inhabited

namespace Quantity

def exact : Quantity → Binary64
  | .whole n => .exactInt n
  | .real x => x

/-- Whether one quantity is less than another; NaN is not less than anything. -/
def lt (a b : Quantity) : Bool :=
  match a, b with
  | .whole n, .whole m => n < m
  | _, _ => a.exact.lt b.exact

def same (a b : Quantity) : Bool :=
  match a, b with
  | .whole n, .whole m => n = m
  | _, _ => a.exact.same b.exact

def le (a b : Quantity) : Bool :=
  a.lt b || a.same b

end Quantity

end Remedy.Number

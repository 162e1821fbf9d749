/-!
Abridged texts: a text that is too long is cut and ends in a mark instead.
-/

namespace Remedy.Report

/-- The first `count` characters of a text; a negative count leaves out as many at the end. -/
def leading (count : Int) (text : String) : String :=
  if 0 ≤ count then String.ofList (text.toList.take count.toNat)
  else String.ofList (text.toList.take (text.length - count.natAbs))

/-- A text that is no longer than `limit`, or its start with a mark in place of the rest. -/
def abridge (limit : Int) (mark text : String) : String :=
  if (text.length : Int) ≤ limit then text else leading (limit - mark.length) text ++ mark

end Remedy.Report

import Remedy.Pattern.Basic

/-!
Searching a line for a pattern. The search takes the first place where the pattern matches, and
at that place the preferred match; choices that lead nowhere are taken back.
-/

namespace Remedy.Pattern

def attemptRun {α : Type} (k : CharClass) (next : Option Char → List Char → Option α) :
    Option Char → List Char → Option α
  | before, [] => next before []
  | before, c :: rest =>
    if k.contains c then
      match attemptRun k next (some c) rest with
      | some result => some result
      | none => next before (c :: rest)
    else next before (c :: rest)

/-- The matches of a pattern at the head of a text, in order of preference, each handed on to
`next` with the last character and the rest of the text; the first answer counts. -/
def attempt {α : Type} : Pattern → (Option Char → List Char → Option α) →
    Option Char → List Char → Option α
  | empty, next, before, text => next before text
  | wordEdge, next, before, text => if isEdge before text.head? then next before text else none
  | one _, _, _, [] => none
  | one k, next, _, c :: rest => if k.contains c then next (some c) rest else none
  | run k, next, before, text => attemptRun k next before text
  | optional p, next, before, text =>
    match attempt p next before text with
    | some result => some result
    | none => next before text
  | choice p q, next, before, text =>
    match attempt p next before text with
    | some result => some result
    | none => attempt q next before text
  | seq p q, next, before, text => attempt p (attempt q next) before text

def restAfter? (p : Pattern) (before : Option Char) (text : List Char) : Option (List Char) :=
  attempt p (fun _ rest => some rest) before text

def matchAt? (p : Pattern) (before : Option Char) (text : List Char) : Option (List Char) :=
  (restAfter? p before text).map fun rest => text.take (text.length - rest.length)

def searchFrom (p : Pattern) : Option Char → List Char → Option (List Char)
  | before, [] => matchAt? p before []
  | before, c :: rest =>
    match matchAt? p before (c :: rest) with
    | some found => some found
    | none => searchFrom p (some c) rest

def search? (p : Pattern) (line : String) : Option String :=
  (searchFrom p none line.toList).map String.ofList

end Remedy.Pattern

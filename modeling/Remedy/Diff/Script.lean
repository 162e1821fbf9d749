/-!
Edit scripts between two lists of lines. A script keeps stretches of lines and changes others; the
kept and removed lines make up the old list, the kept and added lines the new one. Scripts are
found by taking the longest common stretch first and going on with what lies before and after it.
In long lists, lines that occur very often do not count towards the longest stretch.
-/

namespace Remedy.Diff

inductive Edit (α : Type) where
  | keep (lines : List α)
  | change (removed added : List α)
  deriving Repr, DecidableEq

namespace Edit

variable {α : Type}

def old : Edit α → List α
  | keep lines => lines
  | change removed _ => removed

def new : Edit α → List α
  | keep lines => lines
  | change _ added => added

end Edit

section

variable {α : Type} [DecidableEq α]

def sharedStart : List α → List α → List α
  | x :: xs, y :: ys => if x = y then x :: sharedStart xs ys else []
  | _, _ => []

structure Stretch where
  oldStart : Nat
  newStart : Nat
  size : Nat
  deriving Repr, DecidableEq

def isCommonplace (lines : List α) (line : α) : Bool :=
  200 ≤ lines.length && lines.length / 100 + 1 < lines.count line

/-- For every line of the new list, how long the common stretch is that ends there and in a given
line of the old list; `diagonal` holds the lengths for the line before, one place further on. -/
def stretchLengths (line : α) : List Nat → List α → List Nat
  | d :: diagonal, y :: ys => (if y = line then d + 1 else 0) :: stretchLengths line diagonal ys
  | _, _ => []

/-- The best stretch so far and those that end in line `i` of the old list; only a longer one is
better. -/
def improve (i : Nat) : Nat → List Nat → Stretch → Stretch
  | _, [], best => best
  | j, size :: rest, best =>
    improve i (j + 1) rest
      (if best.size < size then ⟨i + 1 - size, j + 1 - size, size⟩ else best)

/-- The longest stretch, of equal ones the first, among those that end in the old lines from the
`i`-th on. -/
def longestFrom (counts : α → Bool) (new : List α) :
    Nat → List Nat → Stretch → List α → Stretch
  | _, _, best, [] => best
  | i, lengths, best, line :: rest =>
    let lengths :=
      if counts line then stretchLengths line (0 :: lengths) new else new.map fun _ => 0
    longestFrom counts new (i + 1) lengths (improve i 0 lengths best) rest

def longest (counts : α → Bool) (old new : List α) : Stretch :=
  longestFrom counts new 0 (new.map fun _ => 0) ⟨0, 0, 0⟩ old

structure Cut (α : Type) where
  oldBefore : List α
  newBefore : List α
  shared : List α
  oldAfter : List α
  newAfter : List α
  deriving Repr

/-- Cuts two lists around the longest common stretch, made as long as possible at both ends. -/
def cut (counts : α → Bool) (old new : List α) : Cut α :=
  let found := longest counts old new
  let onward := sharedStart (old.drop found.oldStart) (new.drop found.newStart)
  let back := (sharedStart (old.take found.oldStart).reverse
    (new.take found.newStart).reverse).reverse
  ⟨old.take (found.oldStart - back.length), new.take (found.newStart - back.length),
    back ++ onward,
    old.drop (found.oldStart + onward.length), new.drop (found.newStart + onward.length)⟩

/-- The script between two lists, without merging its parts. Every round shortens the old list, so
its length bounds the fuel that is needed; without fuel everything is changed. -/
def rawScript (counts : α → Bool) : Nat → List α → List α → List (Edit α)
  | 0, old, new => [.change old new]
  | fuel + 1, old, new =>
    let c := cut counts old new
    if c.shared.isEmpty then [.change old new]
    else
      rawScript counts fuel c.oldBefore c.newBefore ++
        .keep c.shared :: rawScript counts fuel c.oldAfter c.newAfter

/-- A part in front of a script: empty changes vanish and neighbouring kept stretches become
one. -/
def consEdit (edit : Edit α) (script : List (Edit α)) : List (Edit α) :=
  match edit, script with
  | .change [] [], _ => script
  | .keep xs, .keep ys :: rest => .keep (xs ++ ys) :: rest
  | _, _ => edit :: script

def script (old new : List α) : List (Edit α) :=
  (rawScript (fun line => !isCommonplace new line) (old.length + 1) old new).foldr consEdit []

end

end Remedy.Diff

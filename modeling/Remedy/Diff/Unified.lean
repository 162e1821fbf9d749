import Remedy.Diff.Script
import Remedy.Text.Lines

/-!
Unified diffs. Changes that lie close together share a hunk; each hunk shows three lines of
context around its changes and is headed by the ranges of lines that it covers in both texts. A
line keeps its own ending, so a line without one is followed at once by the next.
-/

namespace Remedy.Diff

def context : Nat := 3

/-- A hunk: how many lines lie before it in both texts, and its part of the script. -/
structure Hunk where
  oldBefore : Nat
  newBefore : Nat
  edits : List (Edit String)
  deriving Repr, DecidableEq

namespace Hunk

def oldSize (hunk : Hunk) : Nat :=
  (hunk.edits.flatMap fun e => e.old).length

def newSize (hunk : Hunk) : Nat :=
  (hunk.edits.flatMap fun e => e.new).length

def hasChange (hunk : Hunk) : Bool :=
  hunk.edits.any fun e =>
    match e with
    | .keep _ => false
    | .change _ _ => true

end Hunk

def closeHunk (hunk : Hunk) (kept : List String) : Hunk :=
  { hunk with edits := hunk.edits ++ [.keep (kept.take context)] }

/-- The hunk that begins with the last three of some unchanged lines, of which as many as given
lie before. -/
def openHunk (oldBefore newBefore : Nat) (kept : List String) : Hunk :=
  let skipped := kept.length - context
  ⟨oldBefore + skipped, newBefore + skipped, [.keep (kept.drop skipped)]⟩

/-- The hunks of the rest of a script, the first of which has been begun; as many lines as given
lie before the rest. -/
def hunksFrom (oldBefore newBefore : Nat) (hunk : Hunk) : List (Edit String) → List Hunk
  | [] => [hunk]
  | [.keep kept] => [closeHunk hunk kept]
  | .keep kept :: rest =>
    let oldBefore' := oldBefore + kept.length
    let newBefore' := newBefore + kept.length
    if 2 * context < kept.length then
      closeHunk hunk kept ::
        hunksFrom oldBefore' newBefore' (openHunk oldBefore newBefore kept) rest
    else
      hunksFrom oldBefore' newBefore' { hunk with edits := hunk.edits ++ [.keep kept] } rest
  | .change removed added :: rest =>
    hunksFrom (oldBefore + removed.length) (newBefore + added.length)
      { hunk with edits := hunk.edits ++ [.change removed added] } rest

def hunks (script : List (Edit String)) : List Hunk :=
  let all :=
    match script with
    | .keep kept :: rest =>
      hunksFrom kept.length kept.length (openHunk 0 0 kept) rest
    | _ => hunksFrom 0 0 ⟨0, 0, []⟩ script
  all.filter Hunk.hasChange

/-- A range of lines: the number of its first line and its size; a size of one is not written,
and an empty range names the line before it. -/
def rangeText (before size : Nat) : String :=
  if size = 1 then toString (before + 1)
  else if size = 0 then toString before ++ ",0"
  else toString (before + 1) ++ "," ++ toString size

def marked (mark : String) (lines : List String) : List String :=
  lines.map fun line => mark ++ line

def editLines : Edit String → List String
  | .keep lines => marked " " lines
  | .change removed added => marked "-" removed ++ marked "+" added

def Hunk.header (hunk : Hunk) : String :=
  "@@ -" ++ rangeText hunk.oldBefore hunk.oldSize ++ " +" ++
    rangeText hunk.newBefore hunk.newSize ++ " @@\n"

def Hunk.lines (hunk : Hunk) : List String :=
  hunk.header :: hunk.edits.flatMap editLines

/-- The lines of a diff between two texts of a file; equal texts have none. -/
def unifiedLines (old new path : String) : List String :=
  match hunks (script (Text.linesWithEndings old) (Text.linesWithEndings new)) with
  | [] => []
  | found => ["--- a/" ++ path ++ "\n", "+++ b/" ++ path ++ "\n"] ++ found.flatMap Hunk.lines

def unified (old new path : String) : String :=
  String.join (unifiedLines old new path)

end Remedy.Diff

import Mathlib.Data.List.Basic
import Remedy.Text.Lines

/-!
# Patches

What a unified diff says, seen from the one who reads it: blocks of marked lines, each headed by
the ranges that it covers in the old and in the new text. How many lines of a block there are is
told by the sizes in its header alone, for a removed line may look like a header. A patch is
applied strictly: a block has to stand where both of its ranges say, and the lines that it keeps or
removes have to be there.
-/

set_option autoImplicit false

namespace Remedy.Diff

inductive Mark where
  | kept
  | removed
  | added
  deriving Repr, DecidableEq

/-- A range of lines as a header gives it: the number of its first line and its size. -/
structure Range where
  start : Nat
  size : Nat
  deriving Repr, DecidableEq

/-- How many lines lie before a range. An empty range names the line before it. -/
def Range.before (range : Range) : Nat :=
  if range.size = 0 then range.start else range.start - 1

def Range.behind (before size : Nat) : Range :=
  ⟨if size = 0 then before else before + 1, size⟩

@[simp] theorem Range.before_behind (before size : Nat) :
    (Range.behind before size).before = before := by
  simp only [Range.before, Range.behind]
  split <;> simp

@[simp] theorem Range.size_behind (before size : Nat) : (Range.behind before size).size = size :=
  rfl

structure Block where
  old : Range
  new : Range
  body : List (Mark × String)
  deriving Repr, DecidableEq

/-- A patch: blocks in the order of the lines that they cover. -/
abbrev Patch := List Block

/-! ## Reading -/

def readNumber (chars : List Char) : Option (Nat × List Char) :=
  let digits := chars.takeWhile Char.isDigit
  if digits = [] then none
  else some (Nat.ofDigitChars 10 digits 0, chars.dropWhile Char.isDigit)

def readRange (chars : List Char) : Option (Range × List Char) :=
  match readNumber chars with
  | none => none
  | some (start, ',' :: rest) => (readNumber rest).map fun (size, rest) => (⟨start, size⟩, rest)
  | some (start, rest) => some (⟨start, 1⟩, rest)

def readWord (word : String) (chars : List Char) : Option (List Char) :=
  word.toList.isPrefixOf? chars

/-- Reads the header of a block: its ranges in the old and in the new text. -/
def readHeader (line : String) : Option (Range × Range) := do
  let chars ← readWord "@@ -" line.toList
  let (old, chars) ← readRange chars
  let chars ← readWord " +" chars
  let (new, chars) ← readRange chars
  let _ ← readWord " @@" chars
  some (old, new)

def readMarked (line : String) : Option (Mark × String) :=
  match line.toList with
  | ' ' :: rest => some (.kept, String.ofList rest)
  | '-' :: rest => some (.removed, String.ofList rest)
  | '+' :: rest => some (.added, String.ofList rest)
  | _ => none

/-- The lines of both texts that a block still lacks behind a line of it. -/
def Mark.left : Mark → Nat → Nat → Option (Nat × Nat)
  | kept, old + 1, new + 1 => some (old, new)
  | removed, old + 1, new => some (old, new)
  | added, old, new + 1 => some (old, new)
  | _, _, _ => none

/-- Reads the rest of a block that lacks some lines of both texts, and the blocks behind it. -/
def readBlocks (old new : Nat) : List String → Option (List (Mark × String) × Patch)
  | [] => if old = 0 ∧ new = 0 then some ([], []) else none
  | line :: rest =>
    if old = 0 ∧ new = 0 then
      match readHeader line with
      | none => none
      | some (old, new) =>
        (readBlocks old.size new.size rest).map fun (body, blocks) =>
          ([], ⟨old, new, body⟩ :: blocks)
    else
      match readMarked line with
      | none => none
      | some (mark, text) =>
        match mark.left old new with
        | none => none
        | some (old, new) =>
          (readBlocks old new rest).map fun (body, blocks) => ((mark, text) :: body, blocks)

namespace Patch

/-- The patch that a unified diff is. Two lines name the texts; the empty diff changes nothing. -/
def parse (diff : String) : Option Patch :=
  match Text.linesWithEndings diff with
  | [] => some []
  | old :: new :: rest =>
    if "--- ".toList.isPrefixOf old.toList && "+++ ".toList.isPrefixOf new.toList then
      (readBlocks 0 0 rest).map Prod.snd
    else none
  | _ => none

end Patch

/-! ## Applying -/

namespace Block

/-- Brings the marked lines of a block into lines: what they become, and the lines behind. -/
def rewrite : List (Mark × String) → List String → Option (List String × List String)
  | [], lines => some ([], lines)
  | (.added, text) :: body, lines =>
    (rewrite body lines).map fun (made, behind) => (text :: made, behind)
  | (.kept, text) :: body, line :: lines =>
    if line = text then (rewrite body lines).map fun (made, behind) => (text :: made, behind)
    else none
  | (.removed, text) :: body, line :: lines => if line = text then rewrite body lines else none
  | _ :: _, [] => none

/-- What a marked line is in the old text, if it stands there. -/
def oldText : Mark × String → Option String
  | (.added, _) => none
  | (_, text) => some text

def newText : Mark × String → Option String
  | (.removed, _) => none
  | (_, text) => some text

def oldLines (body : List (Mark × String)) : List String :=
  body.filterMap oldText

def newLines (body : List (Mark × String)) : List String :=
  body.filterMap newText

end Block

namespace Patch

/-- Applies blocks to the lines behind those that are done in the old and in the new text. -/
def applyFrom (oldDone newDone : Nat) : Patch → List String → Option (List String)
  | [], lines => some lines
  | block :: rest, lines =>
    let gap := block.old.before - oldDone
    if oldDone ≤ block.old.before ∧ block.new.before = newDone + gap ∧ gap ≤ lines.length then
      match Block.rewrite block.body (lines.drop gap) with
      | none => none
      | some (made, behind) =>
        (applyFrom (block.old.before + block.old.size) (block.new.before + block.new.size) rest
          behind).map (lines.take gap ++ made ++ ·)
    else none

def apply (patch : Patch) (text : String) : Option String :=
  (patch.applyFrom 0 0 (Text.linesWithEndings text)).map String.join

end Patch

/-! ## Reversal -/

def Mark.reversed : Mark → Mark
  | kept => kept
  | removed => added
  | added => removed

namespace Block

def reversedLine : Mark × String → Mark × String
  | (mark, text) => (mark.reversed, text)

def reversed (block : Block) : Block :=
  ⟨block.new, block.old, block.body.map reversedLine⟩

end Block

def Patch.reversed (patch : Patch) : Patch :=
  patch.map Block.reversed

/-! ## Patches that fit -/

/-- Blocks fit between the rests of two texts, before which some lines lie: what is not covered is
the same in both texts, and what is covered is what the blocks say. -/
inductive Fits : Nat → Nat → Patch → List String → List String → Prop where
  | done (oldDone newDone : Nat) (lines : List String) : Fits oldDone newDone [] lines lines
  | block {oldDone newDone : Nat} {rest : Patch} {old new : List String} (block : Block)
      (gap : List String) (oldStart : block.old.before = oldDone + gap.length)
      (newStart : block.new.before = newDone + gap.length)
      (later : Fits (block.old.before + block.old.size) (block.new.before + block.new.size) rest
        old new) :
      Fits oldDone newDone (block :: rest) (gap ++ (Block.oldLines block.body ++ old))
        (gap ++ (Block.newLines block.body ++ new))

namespace Block

theorem rewrite_oldLines (body : List (Mark × String)) (behind : List String) :
    rewrite body (oldLines body ++ behind) = some (newLines body, behind) := by
  induction body with
  | nil => rfl
  | cons line rest ih =>
    obtain ⟨mark, text⟩ := line
    cases mark with
    | kept =>
      have first : rewrite ((.kept, text) :: rest) (text :: (oldLines rest ++ behind)) =
          some (text :: newLines rest, behind) := by
        rw [rewrite, if_pos rfl, ih, Option.map_some]
      exact first
    | removed =>
      have first : rewrite ((.removed, text) :: rest) (text :: (oldLines rest ++ behind)) =
          some (newLines rest, behind) := by
        rw [rewrite, if_pos rfl, ih]
      exact first
    | added =>
      have first : rewrite ((.added, text) :: rest) (oldLines rest ++ behind) =
          some (text :: newLines rest, behind) := by
        rw [rewrite, ih, Option.map_some]
      exact first

theorem oldLines_reversed (body : List (Mark × String)) :
    oldLines (body.map reversedLine) = newLines body := by
  rw [oldLines, List.filterMap_map]
  exact List.filterMap_congr fun line _ => by
    obtain ⟨mark, text⟩ := line
    cases mark <;> rfl

theorem newLines_reversed (body : List (Mark × String)) :
    newLines (body.map reversedLine) = oldLines body := by
  rw [newLines, List.filterMap_map]
  exact List.filterMap_congr fun line _ => by
    obtain ⟨mark, text⟩ := line
    cases mark <;> rfl

theorem mem_oldLines_or_mem_newLines {body : List (Mark × String)} {line : Mark × String}
    (member : line ∈ body) : line.2 ∈ oldLines body ∨ line.2 ∈ newLines body := by
  obtain ⟨mark, text⟩ := line
  cases mark with
  | kept => exact Or.inl (List.mem_filterMap.mpr ⟨_, member, rfl⟩)
  | removed => exact Or.inl (List.mem_filterMap.mpr ⟨_, member, rfl⟩)
  | added => exact Or.inr (List.mem_filterMap.mpr ⟨_, member, rfl⟩)

end Block

namespace Fits

variable {oldDone newDone : Nat} {patch : Patch} {old new : List String}

theorem applyFrom (fits : Fits oldDone newDone patch old new) :
    patch.applyFrom oldDone newDone old = some new := by
  induction fits with
  | done => rfl
  | @block oldDone newDone rest old new block gap oldStart newStart later ih =>
    have size : block.old.before - oldDone = gap.length := by omega
    simp only [Patch.applyFrom, size, List.drop_left, List.take_left, Block.rewrite_oldLines, ih]
    rw [if_pos ⟨by omega, newStart, by simp⟩, Option.map_some, List.append_assoc]

theorem reversed (fits : Fits oldDone newDone patch old new) :
    Fits newDone oldDone patch.reversed new old := by
  induction fits with
  | done => exact .done _ _ _
  | @block oldDone newDone rest old new block gap oldStart newStart later ih =>
    rw [← Block.oldLines_reversed, ← Block.newLines_reversed block.body]
    exact .block block.reversed gap newStart oldStart ih

theorem mem_or_mem (fits : Fits oldDone newDone patch old new) :
    ∀ block ∈ patch, ∀ line ∈ block.body, line.2 ∈ old ∨ line.2 ∈ new := by
  induction fits with
  | done => exact fun _ none => nomatch none
  | @block oldDone newDone rest old new block gap oldStart newStart later ih =>
    intro other member line among
    rcases List.mem_cons.mp member with rfl | further
    · rcases Block.mem_oldLines_or_mem_newLines among with inOld | inNew
      · exact Or.inl (List.mem_append_right _ (List.mem_append_left _ inOld))
      · exact Or.inr (List.mem_append_right _ (List.mem_append_left _ inNew))
    · rcases ih other further line among with inOld | inNew
      · exact Or.inl (List.mem_append_right _ (List.mem_append_right _ inOld))
      · exact Or.inr (List.mem_append_right _ (List.mem_append_right _ inNew))

/-- Lines before blocks that are not covered may stand in front of both texts. -/
theorem prepend (gap : List String)
    (fits : Fits (oldDone + gap.length) (newDone + gap.length) patch old new) :
    Fits oldDone newDone patch (gap ++ old) (gap ++ new) := by
  cases fits with
  | done lines => exact .done _ _ _
  | block block more oldStart newStart later =>
    rw [← List.append_assoc gap more, ← List.append_assoc gap more]
    exact .block block (gap ++ more) (by rw [oldStart, List.length_append, Nat.add_assoc])
      (by rw [newStart, List.length_append, Nat.add_assoc]) later

end Fits

end Remedy.Diff

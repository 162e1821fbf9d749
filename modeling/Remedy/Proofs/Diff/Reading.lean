import Remedy.Proofs.Diff.Hunks
import Remedy.Proofs.Text.Joining

/-!
# Reading a unified diff

The lines of a unified diff are whole lines as long as the texts have no other ones, and none of
them begins with a line feed, so that the diff has just these lines again. Read with the sizes in
the headers they give the blocks back that were written.
-/

set_option autoImplicit false

namespace Remedy.Diff

open Text

/-! ## Marked lines -/

def Mark.sign : Mark → Char
  | kept => ' '
  | removed => '-'
  | added => '+'

def written (line : Mark × String) : String :=
  line.1.sign.toString ++ line.2

theorem editLines_eq (edit : Edit String) : editLines edit = edit.marked.map written := by
  cases edit with
  | keep lines =>
    rw [Edit.marked, List.map_map]
    rfl
  | change removed added =>
    rw [Edit.marked, List.map_append, List.map_map, List.map_map]
    rfl

theorem Hunk.lines_eq (hunk : Hunk) : hunk.lines = hunk.header :: hunk.body.map written := by
  rw [Hunk.lines, Hunk.body, List.map_flatMap]
  exact congrArg (hunk.header :: ·) (List.flatMap_congr fun edit _ => editLines_eq edit)

theorem readMarked_written (line : Mark × String) : readMarked (written line) = some line := by
  obtain ⟨mark, text⟩ := line
  cases mark <;> simp [readMarked, written, Mark.sign]

/-! ## Headers -/

theorem readNumber_toString (n : Nat) {rest : List Char}
    (ends : ∀ c ∈ rest.head?, c.isDigit = false) :
    readNumber ((toString n).toList ++ rest) = some (n, rest) := by
  have digits : (toString n).toList = Nat.toDigits 10 n := Nat.toList_repr
  have areDigits : ∀ c ∈ Nat.toDigits 10 n, c.isDigit = true := fun c member =>
    Nat.isDigit_of_mem_toDigits (by decide) (by decide) member
  have first : rest.takeWhile Char.isDigit = [] := by
    cases rest with
    | nil => rfl
    | cons c rest => exact List.takeWhile_cons_of_neg (by simp [ends c rfl])
  have behind : rest.dropWhile Char.isDigit = rest := by
    cases rest with
    | nil => rfl
    | cons c rest => exact List.dropWhile_cons_of_neg (by simp [ends c rfl])
  simp only [readNumber]
  rw [digits, List.takeWhile_append_of_pos areDigits, List.dropWhile_append_of_pos areDigits, first,
    behind, List.append_nil, if_neg Nat.toDigits_ne_nil,
    Nat.ofDigitChars_toDigits (by decide) (by decide)]

theorem readRange_rangeText (before size : Nat) (rest : List Char) :
    readRange ((rangeText before size).toList ++ ' ' :: rest) =
      some (.behind before size, ' ' :: rest) := by
  have blank (n : Nat) : readNumber ((toString n).toList ++ ' ' :: rest) = some (n, ' ' :: rest) :=
    readNumber_toString n fun c head => by cases head; rfl
  have comma (n : Nat) (more : List Char) :
      readNumber ((toString n).toList ++ ',' :: more) = some (n, ',' :: more) :=
    readNumber_toString n fun c head => by cases head; rfl
  simp only [rangeText, Range.behind]
  split
  · next one =>
    rw [readRange, blank, one]
    rfl
  · split
    · next zero =>
      have text : (toString before ++ ",0").toList ++ ' ' :: rest =
          (toString before).toList ++ ',' :: ((toString 0).toList ++ ' ' :: rest) := by
        simp
      rw [readRange, text, comma]
      simp only [blank]
      rw [zero]
      rfl
    · have text : (toString (before + 1) ++ "," ++ toString size).toList ++ ' ' :: rest =
          (toString (before + 1)).toList ++ ',' :: ((toString size).toList ++ ' ' :: rest) := by
        simp
      rw [readRange, text, comma]
      simp only [blank]
      rfl

theorem readWord_append (word : String) (rest : List Char) :
    readWord word (word.toList ++ rest) = some rest :=
  List.isPrefixOf?_eq_some_iff_append_eq.mpr rfl

theorem readHeader_header (hunk : Hunk) :
    readHeader hunk.header = some (hunk.block.old, hunk.block.new) := by
  have text : hunk.header.toList =
      "@@ -".toList ++ ((rangeText hunk.oldBefore hunk.oldSize).toList ++
        ' ' :: '+' :: ((rangeText hunk.newBefore hunk.newSize).toList ++
          ' ' :: '@' :: '@' :: ['\n'])) := by
    simp [Hunk.header]
  have plus (rest : List Char) : readWord " +" (' ' :: '+' :: rest) = some rest :=
    readWord_append " +" rest
  have ends (rest : List Char) : readWord " @@" (' ' :: '@' :: '@' :: rest) = some rest :=
    readWord_append " @@" rest
  rw [readHeader, text, readWord_append]
  simp only [Option.bind_eq_bind, Option.bind_some, readRange_rangeText, plus, ends]
  rfl

/-! ## Blocks -/

theorem readBlocks_marked {mark : Mark} {old new oldLeft newLeft : Nat} (text : String)
    (rest : List String) (left : mark.left old new = some (oldLeft, newLeft)) :
    readBlocks old new (written (mark, text) :: rest) =
      (readBlocks oldLeft newLeft rest).map fun (body, blocks) =>
        ((mark, text) :: body, blocks) := by
  have lacking : ¬ (old = 0 ∧ new = 0) := by
    rintro ⟨rfl, rfl⟩
    cases mark <;> cases left
  simp only [readBlocks, if_neg lacking, readMarked_written, left]

theorem readBlocks_written (body : List (Mark × String)) (rest : List String) :
    readBlocks (Block.oldLines body).length (Block.newLines body).length
        (body.map written ++ rest) =
      (readBlocks 0 0 rest).map fun (behind, blocks) => (body ++ behind, blocks) := by
  induction body with
  | nil => exact (congrFun Option.map_id (readBlocks 0 0 rest)).symm
  | cons line body ih =>
    obtain ⟨mark, text⟩ := line
    have left : mark.left (Block.oldLines ((mark, text) :: body)).length
        (Block.newLines ((mark, text) :: body)).length =
          some ((Block.oldLines body).length, (Block.newLines body).length) := by
      cases mark <;> rfl
    rw [List.map_cons, List.cons_append, readBlocks_marked text _ left, ih, Option.map_map]
    rfl

theorem readBlocks_lines (hunks : List Hunk) :
    readBlocks 0 0 (hunks.flatMap Hunk.lines) = some ([], hunks.map Hunk.block) := by
  induction hunks with
  | nil => rfl
  | cons hunk rest ih =>
    have oldSize : (Block.oldLines hunk.body).length = hunk.oldSize :=
      congrArg List.length (Block.oldLines_flatMap hunk.edits)
    have newSize : (Block.newLines hunk.body).length = hunk.newSize :=
      congrArg List.length (Block.newLines_flatMap hunk.edits)
    have body := readBlocks_written hunk.body (rest.flatMap Hunk.lines)
    rw [oldSize, newSize, ih] at body
    rw [List.flatMap_cons, Hunk.lines_eq, List.cons_append, readBlocks, readHeader_header]
    simp [Hunk.block, body]

end Remedy.Diff

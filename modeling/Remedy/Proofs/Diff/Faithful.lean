import Remedy.Proofs.Diff.Context
import Remedy.Proofs.Diff.Reading

/-!
# Unified diffs are faithful

There is something in the unified diff of two texts exactly if they differ. Where both texts end
with a boundary of lines the diff can be read back as a patch, which makes the new text of the old
one and, taken back, the old text of the new one. A text whose last line has no ending is another
matter: what follows it in the diff continues that line.
-/

set_option autoImplicit false

namespace Remedy.Diff

open Text Text.Line

def hunksBetween (old new : String) : List Hunk :=
  hunks (script (linesWithEndings old) (linesWithEndings new))

def titles (path : String) : List String :=
  ["--- a/" ++ path ++ "\n", "+++ b/" ++ path ++ "\n"]

theorem unifiedLines_eq (old new path : String) :
    unifiedLines old new path =
      if hunksBetween old new = [] then []
      else titles path ++ (hunksBetween old new).flatMap Hunk.lines := by
  rw [unifiedLines, hunksBetween]
  split
  · next none => rw [if_pos none]
  · next some => rw [if_neg some]; rfl

theorem join_linesWithEndings (text : String) : String.join (linesWithEndings text) = text := by
  apply String.toList_inj.mp
  rw [String.toList_join, linesWithEndings, List.flatMap_map]
  simp only [String.toList_ofList]
  exact chars_split text.toList

theorem hunksBetween_eq_nil_iff (old new : String) : hunksBetween old new = [] ↔ old = new := by
  constructor
  · intro none
    have same := eq_of_hunks_eq_nil none
    rw [script_old, script_new] at same
    rw [← join_linesWithEndings old, same, join_linesWithEndings]
  · rintro rfl
    exact hunks_script_self _

theorem unified_eq_empty_iff (old new path : String) : unified old new path = "" ↔ old = new := by
  rw [← hunksBetween_eq_nil_iff old new, unified, unifiedLines_eq]
  constructor
  · intro empty
    by_contra some
    rw [if_neg some, ← String.toList_inj, String.toList_join] at empty
    simp [titles] at empty
  · intro none
    rw [if_pos none]
    rfl

/-! ## Lines -/

theorem isLineEnd_of_isDigit {c : Char} (digit : c.isDigit = true) : isLineEnd c = false := by
  cases ends : isLineEnd c with
  | false => rfl
  | true =>
    simp only [isLineEnd, Bool.or_eq_true, beq_iff_eq] at ends
    rcases ends with ((((((((rfl | rfl) | rfl) | rfl) | rfl) | rfl) | rfl) | rfl) | rfl) | rfl <;>
      cases digit

theorem inside_of_all {text : String} (all : text.toList.all (fun c => !isLineEnd c) = true) :
    ∀ c ∈ text.toList, isLineEnd c = false := by
  simpa using all

theorem inside_toString (n : Nat) : ∀ c ∈ (toString n).toList, isLineEnd c = false := by
  intro c member
  rw [show (toString n).toList = Nat.toDigits 10 n from Nat.toList_repr] at member
  exact isLineEnd_of_isDigit (Nat.isDigit_of_mem_toDigits (by decide) (by decide) member)

theorem inside_append {first second : String} (before : ∀ c ∈ first.toList, isLineEnd c = false)
    (behind : ∀ c ∈ second.toList, isLineEnd c = false) :
    ∀ c ∈ (first ++ second).toList, isLineEnd c = false := by
  rw [String.toList_append]
  exact List.forall_mem_append.mpr ⟨before, behind⟩

theorem inside_rangeText (before size : Nat) :
    ∀ c ∈ (rangeText before size).toList, isLineEnd c = false := by
  rw [rangeText]
  split
  · exact inside_toString _
  · split
    · exact inside_append (inside_toString _) (inside_of_all rfl)
    · exact inside_append (inside_append (inside_toString _) (inside_of_all rfl))
        (inside_toString _)

theorem isLine_header (hunk : Hunk) : IsLine hunk.header := by
  have text : hunk.header = "@@ -" ++ rangeText hunk.oldBefore hunk.oldSize ++ " +" ++
      rangeText hunk.newBefore hunk.newSize ++ " @@" ++ "\n" := by
    apply String.toList_inj.mp
    simp [Hunk.header]
  rw [text]
  refine isLine_feed (by simp [← String.toList_inj]) ?_
  refine inside_append (inside_append (inside_append (inside_append ?_ ?_) ?_) ?_) ?_
  · exact inside_of_all rfl
  · exact inside_rangeText _ _
  · exact inside_of_all rfl
  · exact inside_rangeText _ _
  · exact inside_of_all rfl

theorem isLine_unifiedLines {old new path : String}
    (inside : ∀ c ∈ path.toList, isLineEnd c = false)
    (oldEnds : Terminated old.toList) (newEnds : Terminated new.toList) :
    ∀ line ∈ unifiedLines old new path, IsLine line := by
  have title {mark : String} (plain : ∀ c ∈ mark.toList, isLineEnd c = false) (some : mark ≠ "") :
      IsLine (mark ++ path ++ "\n") :=
    isLine_feed (by simp [some]) (inside_append plain inside)
  have fits := hunks_fit (script (linesWithEndings old) (linesWithEndings new))
  rw [script_old, script_new] at fits
  rw [unifiedLines_eq]
  split
  · exact fun _ none => nomatch none
  · refine List.forall_mem_append.mpr ⟨?_, fun line member => ?_⟩
    · exact List.forall_mem_cons.mpr ⟨title (inside_of_all rfl) (by decide),
        List.forall_mem_singleton.mpr (title (inside_of_all rfl) (by decide))⟩
    · obtain ⟨hunk, among, stands⟩ := List.mem_flatMap.mp member
      rw [Hunk.lines_eq] at stands
      rcases List.mem_cons.mp stands with rfl | stands
      · exact isLine_header hunk
      · obtain ⟨marked, covered, rfl⟩ := List.mem_map.mp stands
        have sign : isLineEnd marked.1.sign = false := by
          cases marked.1 <;> rfl
        rcases fits.mem_or_mem hunk.block (List.mem_map_of_mem among) marked covered with
          inOld | inNew
        · exact isLine_mark sign oldEnds inOld
        · exact isLine_mark sign newEnds inNew

theorem parse_unified {old new path : String} (inside : ∀ c ∈ path.toList, isLineEnd c = false)
    (oldEnds : Terminated old.toList) (newEnds : Terminated new.toList) :
    Patch.parse (unified old new path) = some ((hunksBetween old new).map Hunk.block) := by
  have lines := linesWithEndings_join (isLine_unifiedLines inside oldEnds newEnds)
  rw [Patch.parse, unified, lines, unifiedLines_eq]
  split_ifs with none
  · rw [none]
    rfl
  · have named : "--- ".toList.isPrefixOf ("--- a/" ++ path ++ "\n").toList = true ∧
        "+++ ".toList.isPrefixOf ("+++ b/" ++ path ++ "\n").toList = true := by
      simp [List.isPrefixOf]
    simp only [titles, List.cons_append, List.nil_append, named, Bool.and_self, if_true,
      readBlocks_lines, Option.map_some]

/-- A removed line that looks like a title is none, for the header says that a line comes. -/
example : Patch.parse (unified "-- a/x\n" "" "x") =
    some [⟨⟨1, 1⟩, ⟨0, 0⟩, [(.removed, "-- a/x\n")]⟩] := by
  decide

/-- The unified diff of two texts is empty exactly if they are the same. If both are empty or end
with a boundary it is a patch with three lines of context that leads from each text to the other. -/
theorem unified_faithful (old new path : String) :
    (unified old new path = "" ↔ old = new) ∧
      ((∀ c ∈ path.toList, isLineEnd c = false) → Terminated old.toList → Terminated new.toList →
        ∃ patch, Patch.parse (unified old new path) = some patch ∧
          patch.apply old = some new ∧ patch.reversed.apply new = some old ∧
          ∀ block ∈ patch, block.ShowsContext 3 (linesWithEndings old).length) := by
  refine ⟨unified_eq_empty_iff old new path, fun inside oldEnds newEnds => ?_⟩
  have fits := hunks_fit (script (linesWithEndings old) (linesWithEndings new))
  rw [script_old, script_new] at fits
  refine ⟨_, parse_unified inside oldEnds newEnds, ?_, ?_, ?_⟩
  · rw [Patch.apply, hunksBetween, fits.applyFrom, Option.map_some, join_linesWithEndings]
  · rw [Patch.apply, hunksBetween, fits.reversed.applyFrom, Option.map_some,
      join_linesWithEndings]
  · intro block member
    obtain ⟨hunk, among, rfl⟩ := List.mem_map.mp member
    have shows := hunks_showContext (normal_script _ _) hunk among
    rw [script_old] at shows
    exact shows

/-- One line of a script is replaced and taken back. -/
theorem unified_faithful_script :
    let old := "let a;\nexec(x)\n"
    let new := "let a;\nrun(x)\n"
    (∀ c ∈ "a.js".toList, isLineEnd c = false) ∧ Terminated old.toList ∧ Terminated new.toList ∧
      unified old new "a.js" ≠ "" ∧
      ∃ patch, Patch.parse (unified old new "a.js") = some patch ∧
        patch.apply old = some new ∧ patch.reversed.apply new = some old := by
  intro old new
  have inside : ∀ c ∈ "a.js".toList, isLineEnd c = false := inside_of_all rfl
  have oldEnds : Terminated old.toList := terminated_of_feed (by decide)
  have newEnds : Terminated new.toList := terminated_of_feed (by decide)
  obtain ⟨empty, faithful⟩ := unified_faithful old new "a.js"
  obtain ⟨patch, parsed, applied, takenBack, -⟩ := faithful inside oldEnds newEnds
  exact ⟨inside, oldEnds, newEnds, fun none => absurd (empty.mp none) (by decide), patch, parsed,
    applied, takenBack⟩

end Remedy.Diff

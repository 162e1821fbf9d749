import Remedy.Proofs.Diff.Alternation
import Remedy.Proofs.Diff.Faithful
import Remedy.Proofs.Diff.Pieces
import Remedy.Proofs.Text.LastLine

/-!
# Legibility of unified diffs

A diff is read line by line. Each line of a hunk keeps its own ending, and the last line of a text
may have none, so the question is what follows that line in the diff. If the old text ends in lines
that are replaced, the added lines do: the last removed line and the first added one become one
physical line, and the header promises one line more than a reader finds. In every other diff each
line stands on its own.
-/

set_option autoImplicit false

namespace Remedy.Diff

open Text Text.Line

/-! ## Lines under their headers -/

def isHeader (line : String) : Bool :=
  "@@".toList.isPrefixOf line.toList

/-- The headers among some lines, each with the lines up to the next one. -/
def sections : List String → List (String × List String)
  | [] => []
  | line :: rest =>
    if isHeader line then (line, rest.takeWhile fun next => !isHeader next) :: sections rest
    else sections rest

/-- Under a header stand as many lines of the old and of the new text as it says. -/
def Tallies (part : String × List String) : Prop :=
  ∃ old new, readHeader part.1 = some (old, new) ∧
    (Block.oldLines (part.2.filterMap readMarked)).length = old.size ∧
    (Block.newLines (part.2.filterMap readMarked)).length = new.size

theorem sections_append {body : List String} (plain : ∀ line ∈ body, isHeader line = false)
    (rest : List String) : sections (body ++ rest) = sections rest := by
  induction body with
  | nil => rfl
  | cons line body ih =>
    obtain ⟨first, later⟩ := List.forall_mem_cons.mp plain
    rw [List.cons_append, sections, first]
    exact ih later

theorem sections_flatMap {parts : List (String × List String)}
    (headed : ∀ part ∈ parts, isHeader part.1 = true)
    (plain : ∀ part ∈ parts, ∀ line ∈ part.2, isHeader line = false) :
    sections (parts.flatMap fun part => part.1 :: part.2) = parts := by
  induction parts with
  | nil => rfl
  | cons part rest ih =>
    obtain ⟨header, body⟩ := part
    obtain ⟨first, headers⟩ := List.forall_mem_cons.mp headed
    obtain ⟨lines, bodies⟩ := List.forall_mem_cons.mp plain
    have stops : (rest.flatMap fun part => part.1 :: part.2).takeWhile
        (fun next => !isHeader next) = [] := by
      cases rest with
      | nil => rfl
      | cons next more =>
        exact List.takeWhile_cons_of_neg (by simp [headers next (List.mem_cons_self ..)])
    have passed : ∀ line ∈ body, (!isHeader line) = true := fun line member => by
      rw [lines line member]
      rfl
    rw [List.flatMap_cons, List.cons_append, sections, if_pos first, sections_append lines,
      List.takeWhile_append_of_pos passed, stops, List.append_nil, ih headers bodies]

theorem isHeader_header (hunk : Hunk) : isHeader hunk.header = true := by
  simp [isHeader, Hunk.header, List.isPrefixOf]

theorem isHeader_written (line : Mark × String) : isHeader (written line) = false := by
  obtain ⟨mark, text⟩ := line
  cases mark <;> simp [isHeader, written, Mark.sign, List.isPrefixOf]

theorem filterMap_readMarked (body : List (Mark × String)) :
    (body.map written).filterMap readMarked = body := by
  rw [List.filterMap_map]
  exact (List.filterMap_congr fun line _ => readMarked_written line).trans List.filterMap_some

theorem isLineEnd_sign (mark : Mark) : isLineEnd mark.sign = false := by
  cases mark <;> rfl

theorem isLine_written {line : Mark × String} (ended : Ended line.2) : IsLine (written line) :=
  ended _ (isLineEnd_sign _)

theorem isUnended_written {line : Mark × String} (unended : IsUnended line.2) :
    IsUnended (written line) :=
  unended.mark (isLineEnd_sign _)

/-! ## Lines of a hunk -/

namespace Hunk

def part (hunk : Hunk) : String × List String :=
  (hunk.header, hunk.body.map written)

theorem length_newLines (hunk : Hunk) : (Block.newLines hunk.body).length = hunk.newSize :=
  congrArg List.length (Block.newLines_flatMap hunk.edits)

theorem tallies_part (hunk : Hunk) : Tallies hunk.part := by
  refine ⟨_, _, readHeader_header hunk, ?_, ?_⟩
  · rw [part, filterMap_readMarked]
    exact congrArg List.length (Block.oldLines_flatMap hunk.edits)
  · rw [part, filterMap_readMarked]
    exact hunk.length_newLines

theorem isHeader_of_mem_part {hunk : Hunk} {line : String} (member : line ∈ hunk.part.2) :
    isHeader line = false := by
  obtain ⟨marked, -, rfl⟩ := List.mem_map.mp member
  exact isHeader_written marked

end Hunk

theorem flatMap_lines (hunks : List Hunk) :
    hunks.flatMap Hunk.lines = (hunks.map Hunk.part).flatMap fun part => part.1 :: part.2 := by
  rw [List.flatMap_map]
  exact List.flatMap_congr fun hunk _ => hunk.lines_eq

theorem linewise_lines {hunks : List Hunk} (filled : ∀ hunk ∈ hunks, hunk.body ≠ [])
    (linewise : Linewise ((hunks.flatMap Hunk.body).map written)) :
    Linewise (hunks.flatMap Hunk.lines) := by
  induction hunks with
  | nil => exact linewise
  | cons hunk rest ih =>
    obtain ⟨-, others⟩ := List.forall_mem_cons.mp filled
    rw [List.flatMap_cons, List.map_append] at linewise
    obtain ⟨within, behind, before⟩ := List.pairwise_append.mp linewise.followed
    obtain ⟨here, later⟩ := List.forall_mem_append.mp linewise.each
    have rests := ih others ⟨behind, later⟩
    rw [List.flatMap_cons, Hunk.lines_eq, List.cons_append]
    refine Linewise.append (List.forall_mem_singleton.mpr (isLine_header hunk)) ?_
    refine ⟨List.pairwise_append.mpr ⟨within, rests.followed, fun text member other below => ?_⟩,
      List.forall_mem_append.mpr ⟨here, rests.each⟩⟩
    obtain ⟨next, among, -⟩ := List.mem_flatMap.mp below
    obtain ⟨line, covered⟩ := List.exists_mem_of_ne_nil _ (others next among)
    exact before text member _
      (List.mem_map_of_mem (List.mem_flatMap.mpr ⟨next, among, covered⟩))

theorem isLine_of_mem_lines {hunks : List Hunk}
    (ended : ∀ line ∈ hunks.flatMap Hunk.body, Ended line.2) :
    ∀ text ∈ hunks.flatMap Hunk.lines, IsLine text := by
  intro text member
  obtain ⟨hunk, among, stands⟩ := List.mem_flatMap.mp member
  rw [Hunk.lines_eq] at stands
  rcases List.mem_cons.mp stands with rfl | stands
  · exact isLine_header hunk
  · obtain ⟨line, covered, rfl⟩ := List.mem_map.mp stands
    exact isLine_written (ended line (List.mem_flatMap.mpr ⟨hunk, among, covered⟩))

/-! ## Lines of a script -/

/-- The old text ends without a boundary, in lines that others replace. -/
def ReplacesEnd (old new : String) : Prop :=
  ¬ Terminated old.toList ∧ ∃ front removed added,
    script (linesWithEndings old) (linesWithEndings new) = front ++ [.change removed added] ∧
      removed ≠ [] ∧ added ≠ []

theorem mem_old_or_mem_new {edits : List (Edit String)} {line : Mark × String}
    (member : line ∈ edits.flatMap Edit.marked) :
    line.2 ∈ edits.flatMap Edit.old ∨ line.2 ∈ edits.flatMap Edit.new := by
  rw [← Block.oldLines_flatMap, ← Block.newLines_flatMap]
  exact Block.mem_oldLines_or_mem_newLines member

/-- What holds of every line that another follows in its text holds of all lines before the last
part of a script. -/
theorem Parted.forall_front {P : String → Prop} {front : List (Edit String)} {edit : Edit String}
    (parted : Parted (front ++ [edit])) (changes : edit ≠ .change [] [])
    (inOld : (front.flatMap Edit.old ++ edit.old).Pairwise fun line _ => P line)
    (inNew : (front.flatMap Edit.new ++ edit.new).Pairwise fun line _ => P line) :
    ∀ line ∈ front.flatMap Edit.marked, P line.2 := by
  obtain ⟨frontOld, -, oldFollowed⟩ := List.pairwise_append.mp inOld
  obtain ⟨frontNew, -, newFollowed⟩ := List.pairwise_append.mp inNew
  intro line member
  cases edit with
  | keep kept =>
    obtain ⟨next, among⟩ := List.exists_mem_of_ne_nil kept fun none =>
      parted.filled (by rw [none]; simp)
    rcases mem_old_or_mem_new member with found | found
    · exact oldFollowed _ found next among
    · exact newFollowed _ found next among
  | change removed added =>
    obtain rfl | ⟨earlier, kept, last, rfl⟩ := parted.before_change
    · cases member
    rw [List.flatMap_append, List.flatMap_singleton] at frontOld frontNew member
    rw [List.flatMap_append, List.flatMap_singleton] at oldFollowed newFollowed
    have lastKept : last ∈ kept ++ [last] := List.mem_append_right _ (List.mem_singleton_self last)
    rcases List.mem_append.mp member with before | stays
    · rcases mem_old_or_mem_new before with found | found
      · exact (List.pairwise_append.mp frontOld).2.2 _ found last lastKept
      · exact (List.pairwise_append.mp frontNew).2.2 _ found last lastKept
    · obtain ⟨text, among, rfl⟩ := List.mem_map.mp stays
      have inFront (lines : List String) : text ∈ lines ++ (kept ++ [last]) :=
        List.mem_append_right _ among
      by_cases none : removed = []
      · obtain ⟨next, added⟩ := List.exists_mem_of_ne_nil added fun noneAdded =>
          changes (by rw [none, noneAdded])
        exact newFollowed text (inFront _) next added
      · obtain ⟨next, removed⟩ := List.exists_mem_of_ne_nil removed none
        exact oldFollowed text (inFront _) next removed

section Texts

variable {old new : String}

theorem ended_or_isUnended_of_mem_script {line : Mark × String}
    (member : line ∈ (script (linesWithEndings old) (linesWithEndings new)).flatMap Edit.marked) :
    Ended line.2 ∨ IsUnended line.2 := by
  rcases mem_old_or_mem_new member with found | found
  · rw [script_old] at found
    exact ended_or_isUnended found
  · rw [script_new] at found
    exact ended_or_isUnended found

section Last

variable {front : List (Edit String)} {edit : Edit String}

theorem linesWithEndings_old
    (made : script (linesWithEndings old) (linesWithEndings new) = front ++ [edit]) :
    linesWithEndings old = front.flatMap Edit.old ++ edit.old := by
  rw [← List.flatMap_singleton Edit.old edit, ← List.flatMap_append, ← made, script_old]

theorem linesWithEndings_new
    (made : script (linesWithEndings old) (linesWithEndings new) = front ++ [edit]) :
    linesWithEndings new = front.flatMap Edit.new ++ edit.new := by
  rw [← List.flatMap_singleton Edit.new edit, ← List.flatMap_append, ← made, script_new]

theorem ended_of_mem_front
    (made : script (linesWithEndings old) (linesWithEndings new) = front ++ [edit]) :
    ∀ line ∈ front.flatMap Edit.marked, Ended line.2 := by
  have parted := parted_script (linesWithEndings old) (linesWithEndings new)
  have normal := normal_script (linesWithEndings old) (linesWithEndings new)
  rw [made] at parted normal
  refine parted.forall_front (fun same => normal.changes (by simp [same])) ?_ ?_
  · rw [← linesWithEndings_old made]
    exact pairwise_ended old
  · rw [← linesWithEndings_new made]
    exact pairwise_ended new

/-- In the last part of a script, too, every line of each text that another follows there has its
ending. -/
theorem pairwise_ended_last
    (made : script (linesWithEndings old) (linesWithEndings new) = front ++ [edit]) :
    (edit.old.Pairwise fun line _ => Ended line) ∧ edit.new.Pairwise fun line _ => Ended line := by
  have inOld := pairwise_ended old
  have inNew := pairwise_ended new
  rw [linesWithEndings_old made] at inOld
  rw [linesWithEndings_new made] at inNew
  exact ⟨(List.pairwise_append.mp inOld).2.1, (List.pairwise_append.mp inNew).2.1⟩

end Last

/-- If the end is not replaced, every line of the script that another follows has its ending. -/
theorem pairwise_ended_marked (legible : ¬ ReplacesEnd old new) :
    ((script (linesWithEndings old) (linesWithEndings new)).flatMap Edit.marked).Pairwise
      fun line _ => Ended line.2 := by
  rcases List.eq_nil_or_concat' (script (linesWithEndings old) (linesWithEndings new)) with
    none | ⟨front, edit, made⟩
  · rw [none]
    exact .nil
  have before := ended_of_mem_front made
  obtain ⟨ofOld, ofNew⟩ := pairwise_ended_last made
  rw [made, List.flatMap_append, List.flatMap_singleton]
  refine List.pairwise_append.mpr ⟨List.pairwise_of_forall_mem_list fun line member _ _ =>
    before line member, ?_, fun line member _ _ => before line member⟩
  cases edit with
  | keep kept => exact List.pairwise_map.mpr ofOld
  | change removed added =>
    refine List.pairwise_append.mpr ⟨List.pairwise_map.mpr ofOld, List.pairwise_map.mpr ofNew, ?_⟩
    intro line first other second
    obtain ⟨text, among, rfl⟩ := List.mem_map.mp first
    obtain ⟨next, behind, -⟩ := List.mem_map.mp second
    have terminated : Terminated old.toList := by
      by_contra unfinished
      exact legible ⟨unfinished, front, removed, added, made, List.ne_nil_of_mem among,
        List.ne_nil_of_mem behind⟩
    refine ended_of_terminated terminated text ?_
    rw [linesWithEndings_old made]
    exact List.mem_append_right _ among

theorem linewise_of_not_replacesEnd (legible : ¬ ReplacesEnd old new) :
    Linewise ((hunksBetween old new).flatMap Hunk.lines) := by
  have taken := hunks_body_sublist (script (linesWithEndings old) (linesWithEndings new))
  refine linewise_lines (body_ne_nil_of_mem_hunks (normal_script _ _)) ⟨?_, ?_⟩
  · refine List.pairwise_map.mpr (((pairwise_ended_marked legible).sublist taken).imp ?_)
    exact fun ended => isLine_written ended
  · intro text member
    obtain ⟨line, covered, rfl⟩ := List.mem_map.mp member
    exact (ended_or_isUnended_of_mem_script (taken.subset covered)).imp isLine_written
      isUnended_written

end Texts

/-! ## Lines that run together -/

/-- Hunks in the last of which an unended line is removed and others are added: up to there all
lines have their endings. -/
structure RunsTogether (before : List Hunk) (last : Hunk) (shown : List (Mark × String))
    (text next : String) (rest : List (Mark × String)) : Prop where
  body : last.body = shown ++ (.removed, text) :: (.added, next) :: rest
  above : ∀ line ∈ before.flatMap Hunk.body ++ shown, Ended line.2
  unended : IsUnended text
  below : Linewise (((.added, next) :: rest).map written)

theorem ReplacesEnd.runsTogether {old new : String} (replaces : ReplacesEnd old new) :
    ∃ before last shown text next rest, hunksBetween old new = before ++ [last] ∧
      RunsTogether before last shown text next rest := by
  obtain ⟨unfinished, front, removed, added, made, some, more⟩ := replaces
  obtain ⟨others, text, rfl⟩ := (List.eq_nil_or_concat' removed).resolve_left some
  obtain ⟨next, later, rfl⟩ := List.exists_cons_of_ne_nil more
  obtain ⟨before, last, earlier, found, ends⟩ := hunks_concat_change front (others ++ [text])
    (next :: later)
  have body : last.body = earlier.flatMap Edit.marked ++
      (Edit.change (others ++ [text]) (next :: later)).marked := by
    rw [Hunk.body, ends, List.flatMap_append, List.flatMap_singleton]
  have taken : List.Sublist (before.flatMap Hunk.body ++ earlier.flatMap Edit.marked)
      (front.flatMap Edit.marked) := by
    have whole := hunks_body_sublist (front ++ [.change (others ++ [text]) (next :: later)])
    rw [found, List.flatMap_append, List.flatMap_singleton, body, ← List.append_assoc,
      List.flatMap_append, List.flatMap_singleton] at whole
    exact (List.append_sublist_append_right _).mp whole
  obtain ⟨ofOld, ofNew⟩ := pairwise_ended_last made
  refine ⟨before, last, earlier.flatMap Edit.marked ++ others.map (Mark.removed, ·), text, next,
    later.map (Mark.added, ·), by rw [hunksBetween, made, found], ?_, ?_, ?_, ?_⟩
  · rw [body, Edit.marked, List.map_append]
    simp
  · rw [← List.append_assoc]
    refine List.forall_mem_append.mpr ⟨fun line member =>
      ended_of_mem_front made line (taken.subset member), List.forall_mem_map.mpr ?_⟩
    exact fun line member =>
      (List.pairwise_append.mp ofOld).2.2 line member text (List.mem_singleton_self text)
  · exact isUnended_of_last unfinished
      ((linesWithEndings_old made).trans (List.append_assoc _ others [text]).symm)
  · have added : ((Mark.added, next) :: later.map (Mark.added, ·)).map written =
        (next :: later).map fun line => written (.added, line) := by
      rw [List.map_cons, List.map_map]
      rfl
    rw [added]
    refine ⟨List.pairwise_map.mpr (ofNew.imp isLine_written), ?_⟩
    refine List.forall_mem_map.mpr fun line member => ?_
    have inNew : line ∈ linesWithEndings new := by
      rw [linesWithEndings_new made]
      exact List.mem_append_right _ member
    exact (ended_or_isUnended inNew).imp isLine_written isUnended_written

namespace RunsTogether

variable {before : List Hunk} {last : Hunk} {shown rest : List (Mark × String)}
  {text next : String}

/-- The removed line and the first added one make one physical line, and it looks removed. -/
theorem lines (together : RunsTogether before last shown text next rest) :
    linesWithEndings (String.join ((before ++ [last]).flatMap Hunk.lines)) =
      before.flatMap Hunk.lines ++ last.header ::
        (shown ++ (.removed, text ++ written (.added, next)) :: rest).map written := by
  obtain ⟨inBefore, inShown⟩ := List.forall_mem_append.mp together.above
  have above : ∀ line ∈ before.flatMap Hunk.lines ++ last.header :: shown.map written,
      IsLine line :=
    List.forall_mem_append.mpr ⟨isLine_of_mem_lines inBefore, List.forall_mem_cons.mpr
      ⟨isLine_header last, List.forall_mem_map.mpr fun line member =>
        isLine_written (inShown line member)⟩⟩
  have texts : (before ++ [last]).flatMap Hunk.lines =
      before.flatMap Hunk.lines ++ last.header :: shown.map written ++
        written (.removed, text) :: written (.added, next) :: rest.map written := by
    rw [List.flatMap_append, List.flatMap_singleton, Hunk.lines_eq, together.body, List.map_append]
    simp
  have glued : written (.removed, text) ++ written (.added, next) =
      written (.removed, text ++ written (.added, next)) := String.append_assoc ..
  have unended : IsUnended (written (.removed, text)) := isUnended_written together.unended
  have linewise := Linewise.append above (together.below.glue unended)
  rw [texts, join_glue, linewise.linesWithEndings_join, glued, List.map_append]
  simp

/-- A reader finds one line less of the new text than the header of the last hunk says. -/
theorem not_tallies (together : RunsTogether before last shown text next rest) :
    ¬ Tallies (last.header,
      (shown ++ (.removed, text ++ written (.added, next)) :: rest).map written) := by
  rintro ⟨old, new, header, -, newSize⟩
  rw [readHeader_header] at header
  cases header
  have promised := last.length_newLines
  rw [together.body, Block.newLines, List.filterMap_append, List.length_append] at promised
  rw [filterMap_readMarked, Block.newLines, List.filterMap_append, List.length_append,
    Hunk.block, Range.size_behind] at newSize
  simp only [List.filterMap_cons, Block.newText, List.length_cons] at promised newSize
  omega

end RunsTogether

/-! ## Legible diffs -/

theorem sections_lines (hunks : List Hunk) :
    sections (hunks.flatMap Hunk.lines) = hunks.map Hunk.part := by
  rw [flatMap_lines]
  exact sections_flatMap (List.forall_mem_map.mpr fun hunk _ => isHeader_header hunk)
    (List.forall_mem_map.mpr fun _ _ _ member => Hunk.isHeader_of_mem_part member)

theorem mem_sections_last (before : List Hunk) (last : Hunk) (body : List (Mark × String)) :
    (last.header, body.map written) ∈
      sections (before.flatMap Hunk.lines ++ last.header :: body.map written) := by
  have parts : before.flatMap Hunk.lines ++ last.header :: body.map written =
      (before.map Hunk.part ++ [(last.header, body.map written)]).flatMap
        fun part => part.1 :: part.2 := by
    rw [flatMap_lines, List.flatMap_append, List.flatMap_singleton]
  rw [parts, sections_flatMap]
  · exact List.mem_append_right _ (List.mem_singleton_self _)
  · exact List.forall_mem_append.mpr ⟨List.forall_mem_map.mpr fun hunk _ => isHeader_header hunk,
      List.forall_mem_singleton.mpr (isHeader_header last)⟩
  · exact List.forall_mem_append.mpr
      ⟨List.forall_mem_map.mpr fun _ _ _ member => Hunk.isHeader_of_mem_part member,
        List.forall_mem_singleton.mpr (List.forall_mem_map.mpr fun line _ => isHeader_written line)⟩

/-- The lines of a diff are those of its titles and, below them, those of its hunks. -/
theorem linesWithEndings_unified {old new : String} (different : old ≠ new) (path : String) :
    linesWithEndings (unified old new path) = linesWithEndings (String.join (titles path)) ++
      linesWithEndings (String.join ((hunksBetween old new).flatMap Hunk.lines)) := by
  have some : hunksBetween old new ≠ [] := fun none =>
    different ((hunksBetween_eq_nil_iff old new).mp none)
  have chars : (unified old new path).toList = (String.join (titles path)).toList ++
      (String.join ((hunksBetween old new).flatMap Hunk.lines)).toList := by
    rw [unified, unifiedLines_eq, if_neg some]
    simp only [String.toList_join, List.flatMap_append]
  have last : (String.join (titles path)).toList.getLast? = Option.some '\n' := by
    have ends : (String.join (titles path)).toList =
        ("--- a/" ++ path ++ "\n" ++ "+++ b/" ++ path).toList ++ ['\n'] := by
      simp [titles]
    rw [ends, List.getLast?_concat]
  rw [linesWithEndings, chars, split_append (terminated_of_feed last), List.map_append]
  · rfl
  · rw [last]
    exact fun other => absurd other (by decide)

/-- A diff of two different texts shows every line of its hunks on a line of its own, and as many
under each header as it says, exactly if the old text does not end without a boundary in lines that
others replace. -/
theorem unified_legible_iff {old new : String} (different : old ≠ new) (path : String) :
    ∃ below,
      linesWithEndings (unified old new path) =
          linesWithEndings (String.join (titles path)) ++ below ∧
        (below = (hunksBetween old new).flatMap Hunk.lines ↔ ¬ ReplacesEnd old new) ∧
        ((∀ part ∈ sections below, Tallies part) ↔ ¬ ReplacesEnd old new) := by
  refine ⟨_, linesWithEndings_unified different path, ?_⟩
  by_cases replaces : ReplacesEnd old new
  · obtain ⟨before, last, shown, text, next, rest, hunksEq, together⟩ := replaces.runsTogether
    have wrong : ¬ ∀ part ∈ sections (linesWithEndings
        (String.join ((hunksBetween old new).flatMap Hunk.lines))), Tallies part := by
      rw [hunksEq, together.lines]
      exact fun all => together.not_tallies (all _ (mem_sections_last before last _))
    have apart : linesWithEndings (String.join ((hunksBetween old new).flatMap Hunk.lines)) ≠
        (hunksBetween old new).flatMap Hunk.lines := by
      intro same
      rw [same, sections_lines] at wrong
      exact wrong (List.forall_mem_map.mpr fun hunk _ => hunk.tallies_part)
    exact ⟨iff_of_false apart (not_not_intro replaces),
      iff_of_false wrong (not_not_intro replaces)⟩
  · rw [(linewise_of_not_replacesEnd replaces).linesWithEndings_join, sections_lines]
    exact ⟨iff_of_true rfl replaces,
      iff_of_true (List.forall_mem_map.mpr fun hunk _ => hunk.tallies_part) replaces⟩

/-- A statement is taken out at the end of a text without a boundary there: what is replaced stands
before it, and the diff is legible. -/
theorem unified_legible_iff_script :
    let old := "let a;\nrun(a);\nexec(x)"
    let new := "let b;\nrun(a);\n"
    old ≠ new ∧ ¬ Terminated old.toList ∧ ∃ below,
      linesWithEndings (unified old new "a.js") =
          linesWithEndings (String.join (titles "a.js")) ++ below ∧
        below = ["@@ -1,3 +1,2 @@\n", "-let a;\n", "+let b;\n", " run(a);\n", "-exec(x)"] ∧
        ∀ part ∈ sections below, Tallies part := by
  intro old new
  have different : old ≠ new := by decide
  have parts : script (linesWithEndings old) (linesWithEndings new) =
      [.change ["let a;\n"] ["let b;\n"], .keep ["run(a);\n"]] ++ [.change ["exec(x)"] []] := by
    decide
  have legible : ¬ ReplacesEnd old new := by
    rintro ⟨-, front, removed, added, made, -, some⟩
    rw [parts] at made
    obtain ⟨-, same⟩ := List.append_inj' made rfl
    cases same
    exact some rfl
  obtain ⟨below, lines, shown, tallies⟩ := unified_legible_iff different "a.js"
  refine ⟨different, fun ends => ?_, below, lines, ?_, tallies.mpr legible⟩
  · have wrong := ends ')' (by decide)
    cases wrong
  · rw [shown.mpr legible]
    decide

/-- Two texts of one line without an ending: the removed line and the added one are one line of the
diff, and the header says that a line is added where none is to be found. -/
theorem last_lines_run_together :
    let below := ["@@ -1 +1 @@\n", "-a+b"]
    "a" ≠ "b" ∧ ¬ Terminated "a".toList ∧ ¬ Terminated "b".toList ∧
      linesWithEndings (unified "a" "b" "x.js") =
        linesWithEndings (String.join (titles "x.js")) ++ below ∧
      below ≠ (hunksBetween "a" "b").flatMap Hunk.lines ∧
      ¬ ∀ part ∈ sections below, Tallies part := by
  have read : readHeader "@@ -1 +1 @@\n" = some (⟨1, 1⟩, ⟨1, 1⟩) := by decide
  refine ⟨by decide, fun ends => absurd (ends 'a' rfl) (by decide),
    fun ends => absurd (ends 'b' rfl) (by decide), by decide, by decide,
    fun all => ?_⟩
  obtain ⟨old, new, header, -, newSize⟩ := all ("@@ -1 +1 @@\n", ["-a+b"]) (by decide)
  rw [read] at header
  cases header
  exact absurd newSize (by decide)

end Remedy.Diff

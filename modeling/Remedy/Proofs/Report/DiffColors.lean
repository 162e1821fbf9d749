import Remedy.Proofs.Diff.Legibility
import Remedy.Report.Format

/-!
# Colours of a diff

A report tells added and removed lines of a diff by their first characters, and the lines that name
the two texts by the three with which these begin. An added line of code that begins with two
pluses itself has three of them, too, and a removed one that begins with two minuses three minuses:
they are taken for names and have no colour. All other lines of the hunks have the colour of their
kind.
-/

set_option autoImplicit false

namespace Remedy

/-! ## Lines without endings -/

namespace Text

open Line

def bare (line : String) : String :=
  String.ofList (line.toList.takeWhile fun c => !isLineEnd c)

theorem bare_ofList {line : Line} (listed : line.Whole ∨ line.Unended) :
    bare (String.ofList line.chars) = String.ofList line.body := by
  have inside : ∀ c ∈ line.body, (!isLineEnd c) = true := by
    intro c member
    rcases listed with whole | unended
    · rw [whole.1 c member]
      rfl
    · rw [unended.2.1 c member]
      rfl
  have ends : line.ending.takeWhile (fun c => !isLineEnd c) = [] := by
    rcases listed with ⟨-, pair | ⟨c, isEnd, single⟩⟩ | ⟨-, -, none⟩
    · rw [pair]
      rfl
    · rw [single]
      exact List.takeWhile_cons_of_neg (by simp [isEnd])
    · rw [none]
      rfl
  rw [bare, String.toList_ofList, chars, List.takeWhile_append_of_pos inside, ends,
    List.append_nil]

theorem lines_eq_map_bare (text : String) : lines text = (linesWithEndings text).map bare := by
  rw [lines, linesWithEndings, List.map_map]
  exact List.map_congr_left fun line member =>
    (bare_ofList ((listed_split text.toList).each line member)).symm

theorem prefix_bare_iff {part : List Char} (inside : ∀ c ∈ part, isLineEnd c = false)
    (line : String) : part <+: (bare line).toList ↔ part <+: line.toList := by
  rw [bare, String.toList_ofList]
  constructor
  · exact fun begins => begins.trans (List.takeWhile_prefix _)
  · rintro ⟨rest, whole⟩
    have passed : ∀ c ∈ part, (!isLineEnd c) = true := fun c member => by
      rw [inside c member]
      rfl
    rw [← whole, List.takeWhile_append_of_pos passed]
    exact List.prefix_append part _

end Text

namespace Report

open Diff

/-! ## Styles of lines -/

def kindStyle? : Mark → Option Style
  | .kept => none
  | .removed => some .red
  | .added => some .green

def Disguised (line : Mark × String) : Prop :=
  line.1 = .added ∧ beginsWith line.2 "++" = true ∨
    line.1 = .removed ∧ beginsWith line.2 "--" = true

instance (line : Mark × String) : Decidable (Disguised line) :=
  inferInstanceAs (Decidable (_ ∨ _))

def reportStyle? (line : Mark × String) : Option Style :=
  if Disguised line then none else kindStyle? line.1

theorem beginsWith_bare {start : String} (inside : ∀ c ∈ start.toList, Text.isLineEnd c = false)
    (line : String) : beginsWith (Text.bare line) start = beginsWith line start := by
  rw [Bool.eq_iff_iff, beginsWith, beginsWith, List.isPrefixOf_iff_prefix,
    List.isPrefixOf_iff_prefix]
  exact Text.prefix_bare_iff inside line

theorem diffStyle?_bare (line : String) : diffStyle? (Text.bare line) = diffStyle? line := by
  have begins {start : String} (inside : start.toList.all (fun c => !Text.isLineEnd c) = true) :=
    beginsWith_bare (inside_of_all inside) line
  rw [diffStyle?, diffStyle?, begins rfl, begins rfl, begins rfl, begins rfl]

theorem beginsWith_written (line : Mark × String) (c : Char) (start : String) :
    beginsWith (written line) (c.toString ++ start) =
      (c == line.1.sign && beginsWith line.2 start) := by
  simp [beginsWith, written, List.isPrefixOf]

theorem diffStyle?_written (line : Mark × String) :
    diffStyle? (written line) = reportStyle? line := by
  have one : beginsWith line.2 "" = true := by
    simp [beginsWith]
  have plus : beginsWith (written line) "+" = _ := beginsWith_written line '+' ""
  have pluses : beginsWith (written line) "+++" = _ := beginsWith_written line '+' "++"
  have minus : beginsWith (written line) "-" = _ := beginsWith_written line '-' ""
  have minuses : beginsWith (written line) "---" = _ := beginsWith_written line '-' "--"
  rw [diffStyle?, plus, pluses, minus, minuses, one]
  obtain ⟨mark, text⟩ := line
  cases mark with
  | kept => rfl
  | removed =>
    cases begins : beginsWith text "--" <;>
      simp [reportStyle?, Disguised, begins, kindStyle?, Mark.sign]
  | added =>
    cases begins : beginsWith text "++" <;>
      simp [reportStyle?, Disguised, begins, kindStyle?, Mark.sign]

theorem diffStyle?_header (hunk : Hunk) : diffStyle? hunk.header = none := by
  simp [diffStyle?, beginsWith, Hunk.header, List.isPrefixOf]

/-! ## Printed lines -/

def printedLine (style : Option Style) (line : String) : String :=
  StyledLine.render true [.plain "      ", ⟨style, line⟩]

theorem toList_printedLine (style : Option Style) (line : String) :
    (printedLine style line).toList =
      "      ".toList ++ (Span.render true ⟨style, line⟩).toList := by
  simp [printedLine, StyledLine.render, Span.render, Span.plain]

theorem opening_injective : Function.Injective Style.opening := by
  intro first second
  cases first <;> cases second <;> decide

theorem printedLine_inj {first second : Option Style} {line : String} :
    printedLine first line = printedLine second line ↔ first = second := by
  refine ⟨fun same => ?_, congrArg (printedLine · line)⟩
  have spans : (Span.render true ⟨first, line⟩).toList =
      (Span.render true ⟨second, line⟩).toList := by
    rw [← String.toList_inj, toList_printedLine, toList_printedLine] at same
    exact List.append_cancel_left same
  have longer (style : Style) : line.toList ≠ (Span.render true ⟨some style, line⟩).toList := by
    intro equal
    have lengths := congrArg List.length equal
    simp only [Span.render, String.toList_append, List.length_append] at lengths
    have positive : 0 < Style.closing.toList.length := by decide
    omega
  cases first with
  | none =>
    cases second with
    | none => rfl
    | some style => exact absurd spans (longer style)
  | some style =>
    cases second with
    | none => exact absurd spans.symm (longer style)
    | some other =>
      simp only [Span.render, String.toList_append] at spans
      have openings := List.append_cancel_right (List.append_cancel_right spans)
      exact congrArg some (opening_injective (String.toList_inj.mp openings))

/-- The lines that name the two texts, as they are printed when they have these styles. -/
def printedNames (style : String → Option Style) (path : String) : List String :=
  (Text.lines (String.join (titles path))).map fun line => printedLine (style line) line

/-- A hunk as it is printed when its lines have these styles; its header has none. -/
def printedHunk (style : Mark × String → Option Style) (hunk : Hunk) : List String :=
  printedLine none (Text.bare hunk.header) ::
    hunk.body.map fun line => printedLine (style line) (Text.bare (written line))

/-- A diff as it is printed when the lines that name the texts and those of the hunks have these
styles. -/
def printedDiff (nameStyle : String → Option Style) (style : Mark × String → Option Style)
    (old new path : String) : List String :=
  printedNames nameStyle path ++ (hunksBetween old new).flatMap (printedHunk style)

section Styles

variable {nameStyle otherName : String → Option Style} {style other : Mark × String → Option Style}

theorem printedNames_inj {path : String} :
    printedNames nameStyle path = printedNames otherName path ↔
      ∀ line ∈ Text.lines (String.join (titles path)), nameStyle line = otherName line := by
  rw [printedNames, printedNames, List.map_inj_left]
  exact forall₂_congr fun line _ => printedLine_inj

theorem printedHunk_inj {hunk : Hunk} :
    printedHunk style hunk = printedHunk other hunk ↔
      ∀ line ∈ hunk.body, style line = other line := by
  rw [printedHunk, printedHunk, List.cons_inj_right, List.map_inj_left]
  exact forall₂_congr fun line _ => printedLine_inj

theorem printedHunks_inj {hunks : List Hunk} :
    hunks.flatMap (printedHunk style) = hunks.flatMap (printedHunk other) ↔
      ∀ hunk ∈ hunks, ∀ line ∈ hunk.body, style line = other line := by
  rw [← forall₂_congr fun hunk _ => printedHunk_inj]
  refine ⟨fun same => ?_, List.flatMap_congr⟩
  induction hunks with
  | nil => exact List.forall_mem_nil _
  | cons hunk hunks ih =>
    rw [List.flatMap_cons, List.flatMap_cons] at same
    obtain ⟨here, later⟩ := List.append_inj same (by simp only [printedHunk, List.length_cons,
      List.length_map])
    exact List.forall_mem_cons.mpr ⟨here, ih later⟩

/-- Two ways to print a diff agree just if they give its lines the same styles. -/
theorem printedDiff_inj {old new path : String} :
    printedDiff nameStyle style old new path = printedDiff otherName other old new path ↔
      (∀ line ∈ Text.lines (String.join (titles path)), nameStyle line = otherName line) ∧
        ∀ hunk ∈ hunksBetween old new, ∀ line ∈ hunk.body, style line = other line := by
  rw [← printedHunks_inj, ← printedNames_inj]
  constructor
  · refine fun same => List.append_inj same ?_
    rw [printedNames, printedNames, List.length_map, List.length_map]
  · rintro ⟨names, parts⟩
    exact congrArg₂ (· ++ ·) names parts

end Styles

/-! ## Diffs in a report -/

theorem isInfix_diffLines {file : FileOutcome} (some : file.diff ≠ "") :
    (Text.lines file.diff).map diffLine <:+: fileLines true file := by
  have block : (Text.lines file.diff).map diffLine <:+: diffBlock file.diff :=
    ⟨[blankLine], [blankLine], rfl⟩
  simp only [fileLines, ne_eq, some, not_false_eq_true, Bool.and_true, decide_true, if_true]
  exact block.trans (List.suffix_append _ _).isInfix

theorem isInfix_fileLines (verbose : Bool) {outcome : RunOutcome} {file : FileOutcome}
    (member : file ∈ outcome.files) (failOnError : Bool) :
    fileLines verbose file <:+: outcomeLines verbose outcome failOnError := by
  have notEmpty : outcome.files.isEmpty = false := by
    cases files : outcome.files with
    | nil =>
      rw [files] at member
      cases member
    | cons first rest => rfl
  have among : fileLines verbose file <:+: outcome.files.flatMap (fileLines verbose) := by
    rw [List.flatMap_def]
    exact List.infix_of_mem_flatten (List.mem_map_of_mem member)
  simp only [outcomeLines, notEmpty, Bool.false_eq_true, if_false]
  exact among.trans (((List.suffix_append _ _).isInfix.trans
    (List.prefix_append _ _).isInfix).trans (List.suffix_append _ _).isInfix)

theorem render_map_diffLine (lines : List String) :
    (lines.map diffLine).map (StyledLine.render true) =
      lines.map fun line => printedLine (diffStyle? line) line :=
  List.map_map

theorem printed_lines (hunk : Hunk) :
    (hunk.lines.map Text.bare).map (fun line => printedLine (diffStyle? line) line) =
      printedHunk reportStyle? hunk := by
  have line (line : Mark × String) :
      printedLine (diffStyle? (Text.bare (written line))) (Text.bare (written line)) =
        printedLine (reportStyle? line) (Text.bare (written line)) := by
    rw [diffStyle?_bare, diffStyle?_written]
  rw [Hunk.lines_eq, List.map_cons, List.map_cons, diffStyle?_bare, diffStyle?_header,
    List.map_map, List.map_map, printedHunk]
  exact congrArg (printedLine none (Text.bare hunk.header) :: ·)
    (List.map_congr_left fun marked _ => line marked)

/-- The diff of two texts, the first of which ends with a boundary, is printed line by line, and the
lines of its hunks have their styles. -/
theorem printed_unified {old new : String} (different : old ≠ new)
    (oldEnds : Text.Line.Terminated old.toList) (path : String) :
    ((Text.lines (unified old new path)).map diffLine).map (StyledLine.render true) =
      printedDiff diffStyle? reportStyle? old new path := by
  have lines : Text.lines (unified old new path) = Text.lines (String.join (titles path)) ++
      (hunksBetween old new).flatMap fun hunk => hunk.lines.map Text.bare := by
    rw [Text.lines_eq_map_bare, linesWithEndings_unified different, List.map_append,
      ← Text.lines_eq_map_bare,
      (linewise_of_not_replacesEnd fun replaces => replaces.1 oldEnds).linesWithEndings_join,
      List.map_flatMap]
  rw [render_map_diffLine, lines, List.map_append, List.map_flatMap, printedDiff, printedNames,
    List.flatMap_congr fun hunk _ => printed_lines hunk]

theorem reportStyle?_eq_iff (line : Mark × String) :
    reportStyle? line = kindStyle? line.1 ↔ ¬ Disguised line := by
  by_cases disguised : Disguised line
  · rw [reportStyle?, if_pos disguised]
    refine iff_of_false ?_ (not_not_intro disguised)
    rcases disguised with ⟨added, -⟩ | ⟨removed, -⟩
    · rw [added]
      exact nofun
    · rw [removed]
      exact nofun
  · rw [reportStyle?, if_neg disguised]
    exact iff_of_true rfl disguised

/-- The lines that name the texts have no style, if the path stands on one line. -/
theorem diffStyle?_name {path : String} (inside : ∀ c ∈ path.toList, Text.isLineEnd c = false) :
    ∀ name ∈ Text.lines (String.join (titles path)), diffStyle? name = none := by
  have names : Text.lines (String.join (titles path)) = ["--- a/" ++ path, "+++ b/" ++ path] := by
    have feeds : titles path =
        ["--- a/" ++ path, "+++ b/" ++ path].map fun name => name ++ "\n" := rfl
    rw [feeds]
    refine Text.lines_join_feeds (List.forall_mem_cons.mpr ⟨?_, List.forall_mem_singleton.mpr ?_⟩)
    · exact inside_append (inside_of_all rfl) inside
    · exact inside_append (inside_of_all rfl) inside
  rw [names]
  refine List.forall_mem_cons.mpr ⟨?_, List.forall_mem_singleton.mpr ?_⟩
  · simp [diffStyle?, beginsWith, List.isPrefixOf]
  · simp [diffStyle?, beginsWith, List.isPrefixOf]

theorem isInfix_printed {old new : String} (different : old ≠ new)
    (oldEnds : Text.Line.Terminated old.toList) {path : String} {outcome : RunOutcome}
    {file : FileOutcome} (member : file ∈ outcome.files) (shows : file.diff = unified old new path)
    (failOnError : Bool) :
    ∃ lines, (⟨.text, true, true⟩ : Writer).outcome outcome failOnError = "\n".intercalate lines ∧
      printedDiff diffStyle? reportStyle? old new path <:+: lines := by
  have some : file.diff ≠ "" := by
    rw [shows]
    exact fun none => different ((unified_eq_empty_iff old new path).mp none)
  have report : (⟨.text, true, true⟩ : Writer).outcome outcome failOnError = "\n".intercalate
      ((outcomeLines true outcome failOnError).map (StyledLine.render true)) := by
    rw [Writer.outcome, renderLines]
  have within := ((isInfix_diffLines some).trans
    (isInfix_fileLines true member failOnError)).map (StyledLine.render true)
  rw [shows, printed_unified different oldEnds path] at within
  exact ⟨_, report, within⟩

/-- In the detailed report with colours of an outcome whose diff is that of two different texts, the
first of which ends with a boundary, the diff stands line by line. Added lines are green, removed
ones red and no other lines coloured, exactly if no added line begins with two pluses, no removed
one with two minuses, and no piece of a line that names a text looks like an added or a removed
line; there are no such pieces if the path has no boundary in it. -/
theorem diff_colors_iff {old new : String} (different : old ≠ new)
    (oldEnds : Text.Line.Terminated old.toList) {path : String} {outcome : RunOutcome}
    {file : FileOutcome} (member : file ∈ outcome.files) (shows : file.diff = unified old new path)
    (failOnError : Bool) :
    let printed := printedDiff diffStyle? reportStyle? old new path
    let expected := printedDiff (fun _ => none) (fun line => kindStyle? line.1) old new path
    (∃ lines, (⟨.text, true, true⟩ : Writer).outcome outcome failOnError = "\n".intercalate lines ∧
        printed <:+: lines) ∧
      (printed = expected ↔
        (∀ name ∈ Text.lines (String.join (titles path)), diffStyle? name = none) ∧
          ∀ hunk ∈ hunksBetween old new, ∀ line ∈ hunk.body, ¬ Disguised line) ∧
      ((∀ c ∈ path.toList, Text.isLineEnd c = false) →
        ∀ name ∈ Text.lines (String.join (titles path)), diffStyle? name = none) := by
  intro printed expected
  have exactly : printed = expected ↔
      (∀ name ∈ Text.lines (String.join (titles path)), diffStyle? name = none) ∧
        ∀ hunk ∈ hunksBetween old new, ∀ line ∈ hunk.body, ¬ Disguised line :=
    printedDiff_inj.trans (and_congr_right fun _ =>
      forall₂_congr fun hunk _ => forall₂_congr fun line _ => reportStyle?_eq_iff line)
  exact ⟨isInfix_printed different oldEnds member shows failOnError, exactly, diffStyle?_name⟩

/-- A call is replaced in the second line of a script. -/
theorem diff_colors_iff_script :
    let old := "run(a);\nexec(x);\n"
    let new := "run(a);\nrun(x);\n"
    let file : FileOutcome :=
      ⟨"a.js", .flaggedFixed, [.commandInjection], "done", unified old new "a.js"⟩
    old ≠ new ∧ Text.Line.Terminated old.toList ∧ file ∈ [file] ∧
      file.diff = unified old new "a.js" ∧
      ∃ lines, (⟨.text, true, true⟩ : Writer).outcome ⟨[file]⟩ false = "\n".intercalate lines ∧
        ["      --- a/a.js", "      +++ b/a.js", "      @@ -1,2 +1,2 @@", "       run(a);",
          "      \x1b[91m-exec(x);\x1b[0m", "      \x1b[92m+run(x);\x1b[0m"] <:+: lines := by
  intro old new file
  have different : old ≠ new := by decide
  have ends : Text.Line.Terminated old.toList := Text.Line.terminated_of_feed (by decide)
  have member : file ∈ [file] := List.mem_singleton_self file
  have shows : file.diff = unified old new "a.js" := by
    simp only [file]
  obtain ⟨⟨lines, report, within⟩, exactly, named⟩ :=
    @diff_colors_iff old new different ends "a.js" ⟨[file]⟩ file member shows false
  have plain : ∀ hunk ∈ hunksBetween old new, ∀ line ∈ hunk.body, ¬ Disguised line := by
    decide
  have shown : printedDiff (fun _ => none) (fun line => kindStyle? line.1) old new "a.js" =
      ["      --- a/a.js", "      +++ b/a.js", "      @@ -1,2 +1,2 @@", "       run(a);",
        "      \x1b[91m-exec(x);\x1b[0m", "      \x1b[92m+run(x);\x1b[0m"] := by
    decide
  refine ⟨different, ends, member, shows, lines, report, ?_⟩
  rwa [exactly.mpr ⟨named (inside_of_all rfl), plain⟩, shown] at within

/-- A statement is replaced by an increment: the added line is taken for the name of a text. -/
theorem added_increment_plain :
    let old := "a;\n"
    let new := "++i;\n"
    let file : FileOutcome := ⟨"x.js", .flaggedFixed, [.xss], "done", unified old new "x.js"⟩
    (hunksBetween old new).map Hunk.body = [[(.removed, "a;\n"), (.added, "++i;\n")]] ∧
      ∃ lines, (⟨.text, true, true⟩ : Writer).outcome ⟨[file]⟩ false = "\n".intercalate lines ∧
        ["      --- a/x.js", "      +++ b/x.js", "      @@ -1 +1 @@",
          "      \x1b[91m-a;\x1b[0m", "      +++i;"] <:+: lines ∧
        "      +++i;" ≠ printedLine (some .green) "+++i;" := by
  intro old new file
  have ends : Text.Line.Terminated old.toList := Text.Line.terminated_of_feed (by decide)
  have shows : file.diff = unified old new "x.js" := by
    simp only [file]
  have shown : printedDiff diffStyle? reportStyle? old new "x.js" =
      ["      --- a/x.js", "      +++ b/x.js", "      @@ -1 +1 @@",
        "      \x1b[91m-a;\x1b[0m", "      +++i;"] := by
    decide
  obtain ⟨lines, report, within⟩ := @isInfix_printed old new (by decide) ends "x.js" ⟨[file]⟩ file
    (List.mem_singleton_self file) shows false
  rw [shown] at within
  exact ⟨by decide, lines, report, within, by decide⟩

end Report

end Remedy

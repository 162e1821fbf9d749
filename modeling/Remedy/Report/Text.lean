import Remedy.Outcome
import Remedy.Report.Abridged
import Remedy.Report.Styled
import Remedy.Text.Lines

/-!
Reports for people. A report on a run gives its numbers and then each file; a report on verdicts
lists the flagged files with their findings, of each file only the first few unless more is asked
for. In the report of a diff added lines are green and removed ones red.
-/

namespace Remedy.Report

def blankLine : StyledLine := []

def plainLine (text : String) : StyledLine := [.plain text]

def styledLine (style : Style) (text : String) : StyledLine := [.styled style text]

def repeated (count : Nat) (c : Char) : String :=
  String.ofList (List.replicate count c)

def header (title : String) : List StyledLine :=
  [blankLine, styledLine .dim (repeated 70 '='), styledLine .bold (" " ++ title ++ " "),
    styledLine .dim (repeated 70 '='), blankLine]

def sectionHead (title : String) : List StyledLine :=
  [styledLine .bold title, styledLine .dim (repeated 40 '-')]

def resultMark : FileResult → String × String × Style
  | .flaggedFixed => ("✅", "[FIXED]", .green)
  | .flaggedUnfixed => ("⚠", "[UNFIXED]", .yellow)
  | .error => ("❌", "[ERROR]", .red)
  | .skipped => ("·", "[SKIPPED]", .dim)

def beginsWith (text start : String) : Bool :=
  start.toList.isPrefixOf text.toList

/-- The style of a line of a diff. The lines that name the two texts have none. -/
def diffStyle? (line : String) : Option Style :=
  if beginsWith line "+" && !beginsWith line "+++" then some .green
  else if beginsWith line "-" && !beginsWith line "---" then some .red
  else none

def diffLine (line : String) : StyledLine :=
  [.plain "      ", ⟨diffStyle? line, line⟩]

def diffBlock (diff : String) : List StyledLine :=
  blankLine :: (Text.lines diff).map diffLine ++ [blankLine]

def detail (name text : String) : StyledLine :=
  [.plain "      ", .styled .dim name, .plain (" " ++ text)]

def fileLines (verbose : Bool) (file : FileOutcome) : List StyledLine :=
  let (glyph, name, style) := resultMark file.result
  [[.plain ("  " ++ glyph ++ " "), .styled style name, .plain (" " ++ file.filePath)]] ++
    (if file.categories.isEmpty then []
      else [detail "Categories:" (Category.labels file.categories)]) ++
    (if file.message = "" then [] else [detail "Detail:" file.message]) ++
    (if file.diff ≠ "" && verbose then diffBlock file.diff else [])

def figure (name : String) (number : Nat) : StyledLine :=
  plainLine ("  " ++ name ++ toString number)

def figures (outcome : RunOutcome) (failOnError : Bool) : List StyledLine :=
  [figure "Files processed:   " outcome.files.length,
    figure "Remediated:        " (outcome.count .flaggedFixed),
    figure "Not fixed:         " (outcome.count .flaggedUnfixed),
    figure "Clean (skipped):   " (outcome.count .skipped),
    figure "Errors:            " (outcome.count .error),
    figure "Exit code:         " (outcome.exitCode failOnError), blankLine]

def outcomeLines (verbose : Bool) (outcome : RunOutcome) (failOnError : Bool) :
    List StyledLine :=
  header "SECURITY REMEDIATION RESULTS" ++ sectionHead "Summary" ++ figures outcome failOnError ++
    (if outcome.files.isEmpty then [styledLine .green "  No changed source files.", blankLine]
      else sectionHead "Files" ++ outcome.files.flatMap (fileLines verbose) ++ [blankLine])

def shownFindings : Nat := 5

def matchLimit : Int := 60

def padLeft (width : Nat) (text : String) : String :=
  repeated (width - text.length) ' ' ++ text

def findingLine (finding : Finding) : StyledLine :=
  [.plain ("    " ++ padLeft 4 (toString finding.line) ++ " │ "), .styled .dim finding.ruleId,
    .plain (" " ++ abridge matchLimit "..." finding.matchedText)]

def verdictLines (verbose : Bool) (verdict : Verdict) : List StyledLine :=
  let shown := if verbose then verdict.findings else verdict.findings.take shownFindings
  let hidden := verdict.findings.length - shown.length
  [[.styled .cyan ("🚨 " ++ verdict.filePath),
      .plain ("  [" ++ Category.labels verdict.categories ++ "]")]] ++
    shown.map findingLine ++
    (if hidden = 0 then []
      else [styledLine .dim ("    ... " ++ toString hidden ++ " more (use -v)")]) ++
    [blankLine]

def verdictsLines (verbose : Bool) (verdicts : List Verdict) : List StyledLine :=
  let flagged := verdicts.filter Verdict.isFlagged
  header "SECURITY SCAN RESULTS" ++
    [figure "Files scanned:     " verdicts.length, figure "Files flagged:     " flagged.length,
      blankLine] ++
    (if flagged.isEmpty then
      [styledLine .green "  No vulnerability patterns found!", blankLine]
      else flagged.flatMap (verdictLines verbose))

end Remedy.Report

import Remedy.Report.Text
import Remedy.Text.Casing

/-!
Formats of reports: a text for people, or data for programs. Only the text can have colours, and
only on a terminal.
-/

namespace Remedy.Report

inductive Format where
  | text
  | json
  deriving Repr, DecidableEq

def Format.ofName? (name : String) : Option Format :=
  let lowered := Text.lower name
  if lowered = "text" || lowered = "cli" then some .text
  else if lowered = "json" then some .json
  else none

/-- The report on a run as data. They give diffs only if all details are asked for. -/
def dataOutcome (layout : Json.Layout) (verbose : Bool) (outcome : RunOutcome)
    (failOnError : Bool) : String :=
  if verbose then (outcome.toJson failOnError).render layout
  else (outcome.toJsonWith failOnError FileOutcome.toSummary).render layout

def verdictsJson (verdicts : List Verdict) : Json :=
  .obj [("summary", .obj [("files_scanned", .int verdicts.length),
      ("files_flagged", .int (verdicts.countP Verdict.isFlagged))]),
    ("files", .arr (verdicts.map Verdict.toJson))]

def dataVerdicts (layout : Json.Layout) (verdicts : List Verdict) : String :=
  (verdictsJson verdicts).render layout

/-- How a report is written: its format, whether it gives all details, and whether colours are
used. -/
structure Writer where
  format : Format
  verbose : Bool
  colored : Bool
  deriving Repr, DecidableEq

namespace Writer

def dataLayout : Json.Layout := .indented 2

def outcome (writer : Writer) (outcome : RunOutcome) (failOnError : Bool) : String :=
  match writer.format with
  | .text => renderLines writer.colored (outcomeLines writer.verbose outcome failOnError)
  | .json => dataOutcome dataLayout writer.verbose outcome failOnError

def verdicts (writer : Writer) (verdicts : List Verdict) : String :=
  match writer.format with
  | .text => renderLines writer.colored (verdictsLines writer.verbose verdicts)
  | .json => dataVerdicts dataLayout verdicts

end Writer

end Remedy.Report

import Remedy.Json.Printer
import Remedy.Verdict

/-!
Outcomes. Each file that was looked at has one result; the outcome of a run lists them in the
order in which the files were looked at and reduces them to an exit status.
-/

namespace Remedy

inductive FileResult where
  | skipped
  | flaggedUnfixed
  | flaggedFixed
  | error
  deriving Repr, DecidableEq, Inhabited

namespace FileResult

def all : List FileResult :=
  [skipped, flaggedUnfixed, flaggedFixed, error]

def name : FileResult → String
  | skipped => "skipped"
  | flaggedUnfixed => "flagged-unfixed"
  | flaggedFixed => "flagged-fixed"
  | error => "error"

def ofName? (name : String) : Option FileResult :=
  all.find? fun r => r.name = name

def unknownMessage (name : String) : String :=
  Text.quoted name ++ " is not a valid FileResult"

end FileResult

/-- The outcome for one file. The diff is empty when no correction came up. -/
structure FileOutcome where
  filePath : String
  result : FileResult
  categories : List Category
  message : String
  diff : String
  deriving Repr, DecidableEq

namespace FileOutcome

def summaryMembers (outcome : FileOutcome) : List (String × Json) :=
  [("file_path", .str outcome.filePath), ("result", .str outcome.result.name),
    ("categories", Category.namesJson outcome.categories), ("message", .str outcome.message)]

def toSummary (outcome : FileOutcome) : Json :=
  .obj outcome.summaryMembers

def toJson (outcome : FileOutcome) : Json :=
  if outcome.diff = "" then outcome.toSummary
  else .obj (outcome.summaryMembers ++ [("diff", .str outcome.diff)])

end FileOutcome

/-- The exit statuses of the program. A command line with a mistake shares its number with a run
that replaced files, and a search that found something with a run that could not start. -/
inductive ExitStatus where
  | clean
  | fatal
  | flagged
  | changesApplied
  | misused
  | fileErrors
  | interrupted
  deriving Repr, DecidableEq

namespace ExitStatus

def code : ExitStatus → Nat
  | clean => 0
  | fatal => 1
  | flagged => 1
  | changesApplied => 2
  | misused => 2
  | fileErrors => 3
  | interrupted => 130

end ExitStatus

structure RunOutcome where
  files : List FileOutcome
  deriving Repr, DecidableEq

namespace RunOutcome

def count (outcome : RunOutcome) (result : FileResult) : Nat :=
  outcome.files.countP fun f => f.result = result

def anyChangeApplied (outcome : RunOutcome) : Bool :=
  outcome.files.any fun f => f.result = .flaggedFixed

def setResult (path : String) (result : FileResult) :
    List (String × FileResult) → List (String × FileResult)
  | [] => [(path, result)]
  | (p, r) :: rest =>
    if p = path then (p, result) :: rest else (p, r) :: setResult path result rest

/-- The last result of each path, in the order in which the paths first stand. -/
def resultsByPath (outcome : RunOutcome) : List (String × FileResult) :=
  outcome.files.foldl (fun results f => setResult f.filePath f.result results) []

/-- The exit status of a run. A replaced file counts more than anything else; errors count only
on demand. -/
def exitStatus (outcome : RunOutcome) (failOnError : Bool) : ExitStatus :=
  if outcome.anyChangeApplied then .changesApplied
  else if failOnError && 0 < outcome.count .error then .fileErrors
  else .clean

def exitCode (outcome : RunOutcome) (failOnError : Bool) : Nat :=
  (outcome.exitStatus failOnError).code

def summary (outcome : RunOutcome) (failOnError : Bool) : Json :=
  .obj [("files_processed", .int outcome.files.length),
    ("fixed", .int (outcome.count .flaggedFixed)),
    ("unfixed", .int (outcome.count .flaggedUnfixed)),
    ("skipped", .int (outcome.count .skipped)),
    ("errors", .int (outcome.count .error)),
    ("any_change_applied", .bool outcome.anyChangeApplied),
    ("exit_code", .int (outcome.exitCode failOnError))]

def toJsonWith (outcome : RunOutcome) (failOnError : Bool) (file : FileOutcome → Json) : Json :=
  .obj [("summary", outcome.summary failOnError), ("files", .arr (outcome.files.map file))]

def toJson (outcome : RunOutcome) (failOnError : Bool) : Json :=
  outcome.toJsonWith failOnError FileOutcome.toJson

def jsonText (outcome : RunOutcome) (failOnError : Bool) (layout : Json.Layout) : String :=
  (outcome.toJson failOnError).render layout

end RunOutcome

end Remedy

import Remedy.ChangeSet
import Remedy.Generator.Transport
import Remedy.Prompt
import Remedy.Remediation
import Remedy.Settings.Check

/-!
The pipeline. One file of a change set after the other is read, looked at and, if it is flagged,
submitted to a generator, whose completion may replace it. Whatever goes wrong with a file becomes
the outcome of that file and does not keep the others from being looked at; only an interruption
ends a run.
-/

namespace Remedy

inductive Phase where
  | initial
  | resolvingChanges
  | processing
  | doneClean
  | doneDirty
  deriving Repr, DecidableEq

def Phase.name : Phase → String
  | initial => "init"
  | resolvingChanges => "resolving_changes"
  | processing => "processing"
  | doneClean => "done_clean"
  | doneDirty => "done_dirty"

/-- What a run finds around it: the working directory, the changing part of the names of temporary
files, the failures that are held ready, and the answer of version control. -/
structure Surroundings where
  directory : Path
  tag : String
  faults : ReplaceStep → Option String
  versionControl : DiffAnswer

/-- A pipeline: the directory that paths start from, the change set that it takes when none is
given, the detector, and whether it leaves files as they are. -/
structure Pipeline where
  root : String
  changes : ChangeSet
  detector : Detector
  dryRun : Bool
  deriving Repr

/-- Where a run stands: its phase, the files, and the state of the generator. -/
structure RunState (σ : Type) where
  phase : Phase
  tree : FileTree
  generator : σ

namespace Verdict

def journal (verdict : Verdict) : Journal :=
  if verdict.isFlagged then
    [.debug (verdict.filePath ++ ": " ++ toString verdict.findings.length ++ " finding(s) in " ++
      ", ".intercalate (Category.sortedNames verdict.categories))]
  else []

end Verdict

namespace Pipeline

def ofSettings (settings : Settings) (root : String) : Except Fault Pipeline :=
  let selection : Selection := ⟨settings .extensions, settings .excludedPaths⟩
  match selection.check with
  | .error fault => .error (.type fault)
  | .ok () =>
    settings.enabledCategories.map fun categories =>
      ⟨root, ⟨root, settings .baseRef, settings .remote, selection⟩, .standard categories,
        (settings .dryRun).truthy⟩

variable {σ : Type}

def errorOutcome (path : String) (categories : List Category) (message : String) : FileOutcome :=
  ⟨path, .error, categories, message, ""⟩

def locationOf (pipeline : Pipeline) (path : String) : String :=
  Path.join pipeline.root path

def remediation (pipeline : Pipeline) (around : Surroundings) (verdict : Verdict)
    (content : String) : Remediation :=
  ⟨verdict.filePath, content, verdict.categories, pipeline.dryRun,
    ⟨around.directory, pipeline.locationOf verdict.filePath, around.tag, "utf-8", around.faults⟩⟩

def applyCompletion (pipeline : Pipeline) (around : Surroundings) (verdict : Verdict)
    (content completion : String) (state : RunState σ) : Step (RunState σ) FileOutcome :=
  let effect :=
    (pipeline.remediation around verdict content).apply state.tree (Completion.clean completion)
  ⟨effect.journal, { state with tree := effect.tree },
    effect.result.mapError fun error => .fault (.replacement error)⟩

def settle (pipeline : Pipeline) (around : Surroundings) (verdict : Verdict) (content : String)
    (state : RunState σ) (reply : Except Halt (Option String)) :
    Step (RunState σ) FileOutcome :=
  match reply with
  | .error (.fault (.generator error)) =>
    (Step.done state (errorOutcome verdict.filePath verdict.categories
      ("backend error: " ++ error.message))).after
      [.error ("❌ " ++ verdict.filePath ++ ": backend call failed: " ++ error.message)]
  | .error halt => Step.halted state halt
  | .ok none =>
    (Step.done state ⟨verdict.filePath, .flaggedUnfixed, verdict.categories,
      "no result from backend", ""⟩).after
      [.warning ("⚠ " ++ verdict.filePath ++
        ": AI returned no result; file left unchanged")]
  | .ok (some completion) =>
    pipeline.applyCompletion around verdict content completion state

def announcement (verdict : Verdict) (prompt : String) : Journal :=
  verdict.journal ++
    [.info ("🚨 Vulnerability detected in " ++ verdict.filePath ++ ": " ++
      Category.labels verdict.categories), .prompt prompt]

def treat (pipeline : Pipeline) (generate : Generator σ) (around : Surroundings)
    (path content : String) (state : RunState σ) : Step (RunState σ) FileOutcome :=
  let verdict := pipeline.detector.detect content path
  if verdict.isFlagged then
    let prompt := (Prompt.build path content verdict.categories).text
    let answer := generate prompt state.generator
    (pipeline.settle around verdict content { state with generator := answer.state }
      answer.result).after (announcement verdict prompt ++ answer.journal)
  else
    (Step.done state ⟨path, .skipped, [], "", ""⟩).after
      [.info ("· " ++ path ++ ": no vulnerability patterns; skipped")]

/-- Reads a file and treats it. A file that cannot be read has an outcome; a path that cannot be
one is a fault. -/
def examine (pipeline : Pipeline) (generate : Generator σ) (around : Surroundings) (path : String)
    (state : RunState σ) : Step (RunState σ) FileOutcome :=
  match state.tree.readText around.directory (pipeline.locationOf path) with
  | .error .nulCharacter => Step.halted state (.fault (.file .nulCharacter))
  | .error error =>
    (Step.done state (errorOutcome path [] ("read failed: " ++ error.message))).after
      [.error ("❌ " ++ path ++ ": could not read file: " ++ error.message)]
  | .ok content => pipeline.treat generate around path content state

/-- An activity for a file in which every fault has become the outcome of the file. -/
def contain (path : String) (step : Step (RunState σ) FileOutcome) :
    Step (RunState σ) FileOutcome :=
  match step.result with
  | .error (.fault fault) =>
    ⟨step.journal ++
        [.error ("❌ " ++ path ++ ": unexpected " ++ fault.kind ++ ": " ++ fault.message),
          .debug ("Traceback for " ++ path)], step.state,
      .ok (errorOutcome path [] (fault.kind ++ ": " ++ fault.message))⟩
  | _ => step

def process (pipeline : Pipeline) (generate : Generator σ) (around : Surroundings) (path : String)
    (state : RunState σ) : Step (RunState σ) FileOutcome :=
  contain path (pipeline.examine generate around path state)

def processAll (pipeline : Pipeline) (generate : Generator σ) (around : Surroundings) :
    List String → RunState σ → Step (RunState σ) (List FileOutcome)
  | [], state => Step.done state []
  | path :: rest, state =>
    (pipeline.process generate around path state).andThen fun outcome state =>
      (pipeline.processAll generate around rest state).andThen fun outcomes state =>
        Step.done state (outcome :: outcomes)

def enter (phase : Phase) (state : RunState σ) : Step (RunState σ) Unit :=
  ⟨[.debug ("Pipeline " ++ state.phase.name ++ " -> " ++ phase.name)],
    { state with phase := phase }, .ok ()⟩

/-- The paths that are processed: those of a list that are selected, or the change set. -/
def candidates (pipeline : Pipeline) (around : Surroundings) :
    Option (List String) → Journal × Except TypeFault (List String)
  | some paths => ([], pipeline.changes.selection.select paths)
  | none => pipeline.changes.resolve around.versionControl

def closing (outcome : RunOutcome) : Journal :=
  (if outcome.anyChangeApplied then
    [.info ("🔁 Remediation applied to " ++ toString (outcome.count .flaggedFixed) ++
      " file(s); changes need re-validation.")]
    else [.info "✅ No remediation applied."]) ++
  (if outcome.count .error = 0 then []
    else [.warning (toString (outcome.count .error) ++ " file(s) could not be processed.")])

def finish (outcomes : List FileOutcome) (state : RunState σ) : Step (RunState σ) RunOutcome :=
  let outcome : RunOutcome := ⟨outcomes⟩
  (enter (if outcome.anyChangeApplied then .doneDirty else .doneClean) state).andThen
    fun _ state => (Step.done state outcome).after (closing outcome)

def runOver (pipeline : Pipeline) (generate : Generator σ) (around : Surroundings)
    (paths : List String) (state : RunState σ) : Step (RunState σ) RunOutcome :=
  if paths.isEmpty then
    ((enter .doneClean state).andThen fun _ state => Step.done state ⟨[]⟩).after
      [.info "No changed source files found; nothing to do."]
  else
    (enter .processing state).andThen fun _ state =>
      (pipeline.processAll generate around paths state).andThen finish

def run (pipeline : Pipeline) (generate : Generator σ) (around : Surroundings)
    (paths : Option (List String)) (state : RunState σ) : Step (RunState σ) RunOutcome :=
  (enter .resolvingChanges state).andThen fun _ state =>
    match pipeline.candidates around paths with
    | (journal, .error fault) => (Step.halted state (.fault (.type fault))).after journal
    | (journal, .ok chosen) => (pipeline.runOver generate around chosen state).after journal

end Pipeline

end Remedy

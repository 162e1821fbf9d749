import Remedy.Command.Fix
import Remedy.Command.Scan
import Remedy.Command.Usage
import Remedy.Settings.Template

/-!
The program: from a command line to an output, messages about errors, an exit status, and a changed
world. A fault ends the program with a message and the fatal status; when faults are to be shown in
full the fault leaves the program as well.
-/

namespace Remedy.Command

variable [Interpreter] {σ : Type}

def debugVariable : String := "DEBUG"

def settingsName : String := ".securityagent.yaml"

/-- The command that creates a settings file, but not in place of another one unless that is
forced. -/
def runInit (force : Bool) (session : Session σ) (world : World σ) :
    Step (World σ) Conclusion :=
  if !force && (world.tree.lookAt session.around.directory settingsName).isSome then
    Step.done world ⟨"Configuration file " ++ settingsName ++
      " already exists.\nUse --force to overwrite.\n", .fatal⟩
  else
    match world.tree.writeBytes session.around.directory settingsName
        (Text.Utf8.encode Settings.template) with
    | .error error => Step.halted world (.fault (.file error))
    | .ok tree =>
      Step.done { world with tree := tree }
        ⟨"Created configuration file: " ++ settingsName ++ "\n", .clean⟩

namespace Invocation

def run (session : Session σ) (world : World σ) : Invocation → Step (World σ) Conclusion
  | overview => Step.done world ⟨Part.program.usage, .clean⟩
  | fix options => options.run session world
  | scan options => options.run session world
  | init force => runInit force session world

def threshold : Invocation → LogLevel
  | fix options => options.common.threshold
  | scan options => options.common.threshold
  | _ => .info

end Invocation

/-- How the program ends: with an exit status, or by a fault that leaves it. -/
inductive Exit where
  | status (status : ExitStatus)
  | fault (fault : Fault)
  deriving Repr, DecidableEq

structure Ending (σ : Type) where
  journal : Journal
  world : World σ
  output : String
  complaint : String
  exit : Exit

namespace Ending

def showsFaults (environment : Environment) : Bool :=
  (Variable.text? environment debugVariable).isSome

def ofStep (environment : Environment) (step : Step (World σ) Conclusion) : Ending σ :=
  match step.result with
  | .ok conclusion =>
    ⟨step.journal, step.state, conclusion.output, "", .status conclusion.status⟩
  | .error .interrupted =>
    ⟨step.journal, step.state, "", "\nInterrupted.\n", .status .interrupted⟩
  | .error (.fault fault) =>
    ⟨step.journal, step.state, "", "Error: " ++ fault.message ++ "\n",
      if showsFaults environment then .fault fault else .status .fatal⟩

def ofDismissal (dismissal : Dismissal) (world : World σ) : Ending σ :=
  ⟨[], world, dismissal.output, dismissal.complaint, .status dismissal.exitStatus⟩

def atLeast (threshold : LogLevel) (ending : Ending σ) : Ending σ :=
  { ending with journal := ending.journal.atLeast threshold }

end Ending

def execute (line : List String) (session : Session σ) (world : World σ) : Ending σ :=
  match Invocation.ofLine line with
  | .error dismissal => .ofDismissal dismissal world
  | .ok invocation =>
    (Ending.ofStep session.environment (invocation.run session world)).atLeast
      invocation.threshold

end Remedy.Command

import Remedy.Command.Options
import Remedy.Pipeline
import Remedy.Report.Format
import Remedy.Settings.File

/-!
Sessions: what a command finds around it, what it changes, and what it ends with. The options that
commands share decide where the settings come from, how a report is written, and where it goes.
Options are the highest layer of settings.
-/

namespace Remedy.Command

/-- What a command finds around it: the surroundings of its run, the environment, whether its
output goes to a terminal, and the way to the network. -/
structure Session (σ : Type) where
  around : Surroundings
  environment : Environment
  terminal : Bool
  transport : Transport σ

structure World (σ : Type) where
  tree : FileTree
  network : σ

structure Conclusion where
  output : String
  status : ExitStatus
  deriving Repr, DecidableEq

def nonempty (value : Option String) : Option String :=
  value.filter (· ≠ "")

def switched (on : Bool) : Option Value :=
  if on then some (.bool true) else none

namespace CommonOptions

def layer (options : CommonOptions) : Layer
  | .root => some (.str options.root)
  | .baseRef => (nonempty options.baseRef).map .str
  | .categories =>
    if options.categories.isEmpty then none else some (Setting.texts options.categories)
  | .outputFormat => (nonempty options.format).map .str
  | _ => none

variable [Interpreter] {σ : Type}

def settingsBelow (options : CommonOptions) (layer : Layer) (session : Session σ)
    (tree : FileTree) : Except Fault Settings :=
  (Settings.load tree session.around.directory options.config options.root
    session.environment).map fun settings => settings.below layer

def writer (options : CommonOptions) (session : Session σ) (settings : Settings) :
    Except Fault Report.Writer :=
  match settings .outputFormat with
  | .str name =>
    match Report.Format.ofName? name with
    | none => .error (.unknownFormat name)
    | some format => .ok ⟨format, options.verbose, !options.noColor && session.terminal⟩
  | v => .error (.type (.noAttribute v.typeName "lower"))

/-- Brings a report to where it should go, a file or the output; what is left for the output is
the result. -/
def deliver (options : CommonOptions) (session : Session σ) (report : String) (world : World σ) :
    Step (World σ) String :=
  match nonempty options.output with
  | none => Step.done world (report ++ "\n")
  | some path =>
    match world.tree.writeBytes session.around.directory path (Text.Utf8.encode report) with
    | .error error => Step.halted world (.fault (.file error))
    | .ok tree =>
      (Step.done { world with tree := tree } "").after [.info ("Results written to " ++ path)]

def threshold (options : CommonOptions) : LogLevel :=
  if options.verbose then .debug else if options.quiet then .warning else .info

end CommonOptions

end Remedy.Command

import Remedy.Command.Session
import Remedy.Generator.Service

/-!
The command that replaces files. Nothing is looked at before the settings have been found to allow
a run. The exit status is that of the run once its report is delivered.
-/

namespace Remedy.Command

namespace FixOptions

def layer (options : FixOptions) : Layer
  | .provider => (nonempty options.provider).map .str
  | .dryRun => switched options.dryRun
  | .failOnError => switched options.failOnError
  | setting => options.common.layer setting

def modelSetting (provider : String) : Setting :=
  if provider = "gemini" then .geminiModel else .ollamaModel

/-- Settings with the model of the options, which is that of the provider in use. -/
def withModel (options : FixOptions) (settings : Settings) : Except Fault Settings :=
  match nonempty options.model with
  | none => .ok settings
  | some model =>
    (Settings.lowered (settings .provider)).map fun provider =>
      settings.below (.single (modelSetting provider) (.str model))

variable [Interpreter] {σ : Type}

def settings (options : FixOptions) (session : Session σ) (tree : FileTree) :
    Except Fault Settings :=
  match options.common.settingsBelow options.layer session tree with
  | .error fault => .error fault
  | .ok settings => options.withModel settings

def namedPaths (options : FixOptions) : Option (List String) :=
  if options.paths.isEmpty then none else some options.paths

def equipment (options : FixOptions) (settings : Settings) : Except Fault (Client × Pipeline) :=
  match Client.ofSettings settings with
  | .error fault => .error fault
  | .ok client =>
    (Pipeline.ofSettings settings options.common.root).map fun pipeline => (client, pipeline)

def runPipeline (options : FixOptions) (session : Session σ) (client : Client)
    (pipeline : Pipeline) (world : World σ) : Step (World σ) RunOutcome :=
  (pipeline.run (client.generator session.transport) session.around options.namedPaths
    ⟨.initial, world.tree, world.network⟩).within fun state => ⟨state.tree, state.generator⟩

def conclude (options : FixOptions) (session : Session σ) (settings : Settings)
    (outcome : RunOutcome) (world : World σ) : Step (World σ) Conclusion :=
  let strict := (settings .failOnError).truthy
  (Step.attempt world (options.common.writer session settings)).andThen fun writer world =>
    (options.common.deliver session (writer.outcome outcome strict) world).andThen
      fun output world => Step.done world ⟨output, outcome.exitStatus strict⟩

def runWith (options : FixOptions) (session : Session σ) (settings : Settings)
    (world : World σ) : Step (World σ) Conclusion :=
  (Step.attempt world settings.validate).andThen fun _ world =>
    ((Step.attempt world (options.equipment settings)).andThen fun (client, pipeline) world =>
      (options.runPipeline session client pipeline world).andThen
        (options.conclude session settings)).after
      [.debug ("Configuration: " ++ settings.toValue.display)]

def run (options : FixOptions) (session : Session σ) (world : World σ) :
    Step (World σ) Conclusion :=
  (Step.attempt world (options.settings session world.tree)).andThen
    (options.runWith session)

end FixOptions

end Remedy.Command

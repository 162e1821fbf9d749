import Remedy.Command.Program
import Remedy.Proofs.Pipeline.Run

/-!
# The exit status of a run that replaces files

The exit status of a command line with a run is that of its outcome, but only once the report on
the run is delivered. Which files are rewritten is settled before that: a format that no report has
and a place where none can be written are found out about afterwards, and the run then ends as one
that could not start.
-/

set_option autoImplicit false

namespace Remedy

namespace RunOutcome

theorem code_exitStatus_ne_one (outcome : RunOutcome) (failOnError : Bool) :
    (outcome.exitStatus failOnError).code ≠ 1 := by
  simp only [exitStatus]
  split
  · decide
  · split <;> decide

end RunOutcome

namespace Command

variable {σ : Type}

def Ending.ExitsWith (ending : Ending σ) (code : Nat) : Prop :=
  ∃ status, ending.exit = .status status ∧ status.code = code

/-! ## Delivering a report -/

namespace CommonOptions

def Formattable (settings : Settings) : Prop :=
  ∃ name format, settings .outputFormat = .str name ∧ Report.Format.ofName? name = some format

/-- The file that a report should go to, if there is one, can be written. -/
def Deliverable (options : CommonOptions) (session : Session σ) (tree : FileTree) : Prop :=
  ∀ path, nonempty options.output = some path → tree.Writable session.around.directory path

variable (options : CommonOptions) (session : Session σ) {settings : Settings}

theorem writer_of_formattable (formattable : Formattable settings) :
    ∃ writer, options.writer session settings = .ok writer := by
  obtain ⟨name, format, named, known⟩ := formattable
  simp only [writer, named, known]
  exact ⟨_, rfl⟩

theorem writer_of_not_formattable (formless : ¬ Formattable settings) :
    ∃ fault, options.writer session settings = .error fault := by
  simp only [writer]
  split
  · next name named =>
    split
    · exact ⟨_, rfl⟩
    · next format known => exact absurd ⟨name, format, named, known⟩ formless
  · exact ⟨_, rfl⟩

variable {options session} {world : World σ}

theorem deliver_of_deliverable (deliverable : options.Deliverable session world.tree)
    (report : String) : ∃ output, (options.deliver session report world).result = .ok output := by
  simp only [deliver]
  split
  · exact ⟨_, rfl⟩
  · next path chosen =>
    obtain ⟨after, wrote⟩ := (FileTree.writeBytes_isOk_iff world.tree session.around.directory path
      (Text.Utf8.encode report)).mpr (deliverable path chosen)
    rw [wrote]
    exact ⟨_, rfl⟩

theorem deliver_of_not_deliverable (lost : ¬ options.Deliverable session world.tree)
    (report : String) :
    (options.deliver session report world).state = world ∧
      ∃ fault, (options.deliver session report world).result = .error (.fault fault) := by
  simp only [deliver]
  split
  · next absent => exact absurd (fun path chosen => by rw [absent] at chosen; cases chosen) lost
  · next path chosen =>
    cases wrote : world.tree.writeBytes session.around.directory path
        (Text.Utf8.encode report) with
    | error error => exact ⟨rfl, _, rfl⟩
    | ok after =>
      refine absurd (fun other alsoChosen => ?_) lost
      rw [chosen] at alsoChosen
      cases alsoChosen
      exact (FileTree.writeBytes_isOk_iff _ _ _ _).mp ⟨after, wrote⟩

end CommonOptions

namespace FixOptions

/-- The paths of the files that a command rewrites, in the order in which it does. Without settings
that allow a run there are none. -/
def rewritten [Interpreter] (options : FixOptions) (session : Session σ) (world : World σ) :
    List String :=
  match options.settings session world.tree with
  | .error _ => []
  | .ok settings =>
    match settings.validate, options.equipment settings with
    | .ok (), .ok (client, pipeline) =>
      match (pipeline.candidates session.around options.namedPaths).2 with
      | .error _ => []
      | .ok chosen =>
        pipeline.rewritten (client.generator session.transport) session.around chosen
          ⟨.processing, world.tree, world.network⟩
    | _, _ => []

def Reportable (options : FixOptions) (session : Session σ) (settings : Settings)
    (tree : FileTree) : Prop :=
  CommonOptions.Formattable settings ∧ options.common.Deliverable session tree

variable {options : FixOptions} {session : Session σ} {settings : Settings} {world : World σ}

theorem conclude_of_reportable (reportable : options.Reportable session settings world.tree)
    (outcome : RunOutcome) :
    ∃ output, (options.conclude session settings outcome world).result =
      .ok ⟨output, outcome.exitStatus (settings .failOnError).truthy⟩ := by
  obtain ⟨formattable, deliverable⟩ := reportable
  obtain ⟨writer, written⟩ := CommonOptions.writer_of_formattable options.common session formattable
  obtain ⟨output, delivered⟩ := CommonOptions.deliver_of_deliverable deliverable
    (writer.outcome outcome (settings .failOnError).truthy)
  refine ⟨output, ?_⟩
  rw [conclude, written, Step.attempt_ok_andThen, Step.andThen_of_ok delivered]
  rfl

theorem conclude_of_not_reportable (lost : ¬ options.Reportable session settings world.tree)
    (outcome : RunOutcome) :
    (options.conclude session settings outcome world).state = world ∧
      ∃ fault, (options.conclude session settings outcome world).result =
        .error (.fault fault) := by
  by_cases formattable : CommonOptions.Formattable settings
  · obtain ⟨writer, written⟩ :=
      CommonOptions.writer_of_formattable options.common session formattable
    obtain ⟨same, fault, failed⟩ := CommonOptions.deliver_of_not_deliverable
      (fun deliverable => lost ⟨formattable, deliverable⟩)
      (writer.outcome outcome (settings .failOnError).truthy)
    rw [conclude, written, Step.attempt_ok_andThen, Step.andThen_of_error failed]
    exact ⟨same, fault, rfl⟩
  · obtain ⟨fault, unwritten⟩ :=
      CommonOptions.writer_of_not_formattable options.common session formattable
    rw [conclude, unwritten, Step.attempt_error_andThen]
    exact ⟨rfl, fault, rfl⟩

/-! ## The whole command -/

theorem runPipeline_of_unresolved [Interpreter] (world : World σ) (client : Client)
    {pipeline : Pipeline} {fault : TypeFault}
    (unresolved : (pipeline.candidates session.around options.namedPaths).2 = .error fault) :
    (options.runPipeline session client pipeline world).state = world ∧
      (options.runPipeline session client pipeline world).result =
        .error (.fault (.type fault)) := by
  cases found : pipeline.candidates session.around options.namedPaths with
  | mk journal result =>
    rw [found] at unresolved
    simp only [runPipeline, Pipeline.run, Pipeline.enter, Step.andThen, found,
      show result = .error fault from unresolved]
    exact ⟨rfl, rfl⟩

/-- A run over resolved paths has an outcome, which says whether a file was rewritten. It leaves
the directories and the names of files as they are. -/
theorem runPipeline_of_resolved [Interpreter] (calm : session.transport.Uninterrupted)
    (world : World σ)
    (client : Client) {pipeline : Pipeline} {chosen : List String}
    (resolved : (pipeline.candidates session.around options.namedPaths).2 = .ok chosen) :
    ∃ outcome, (options.runPipeline session client pipeline world).result = .ok outcome ∧
      FileTree.SameShape world.tree
        (options.runPipeline session client pipeline world).state.tree ∧
      (outcome.anyChangeApplied = true ↔
        pipeline.rewritten (client.generator session.transport) session.around chosen
          ⟨.processing, world.tree, world.network⟩ ≠ []) ∧
      (pipeline.rewritten (client.generator session.transport) session.around chosen
          ⟨.processing, world.tree, world.network⟩ = [] →
        (options.runPipeline session client pipeline world).state.tree = world.tree) := by
  obtain ⟨outcomes, last, course, ended, stateEq⟩ := Pipeline.run_course
    (client.generator_uninterrupted calm) resolved ⟨.initial, world.tree, world.network⟩
  have treeEq : (options.runPipeline session client pipeline world).state.tree = last.tree := by
    simp only [runPipeline, Step.within, stateEq]
  rw [treeEq]
  exact ⟨⟨outcomes⟩, ended, course.sameShape, course.anyChangeApplied_iff,
    course.tree_of_rewritten_nil⟩

theorem run_of_outcome [Interpreter] {client : Client} {pipeline : Pipeline} {outcome : RunOutcome}
    (loaded : options.settings session world.tree = .ok settings)
    (valid : settings.validate = .ok ())
    (equipped : options.equipment settings = .ok (client, pipeline))
    (ended : (options.runPipeline session client pipeline world).result = .ok outcome) :
    (options.run session world).result =
        (options.conclude session settings outcome
          (options.runPipeline session client pipeline world).state).result ∧
      (options.run session world).state =
        (options.conclude session settings outcome
          (options.runPipeline session client pipeline world).state).state := by
  simp only [run, runWith, loaded, valid, equipped, Step.attempt_ok_andThen,
    Step.andThen_of_ok ended, Step.after_result, Step.after_state, and_self]

theorem reportable_iff_of_sameShape {before after : FileTree}
    (shape : FileTree.SameShape before after) :
    options.Reportable session settings before ↔ options.Reportable session settings after := by
  simp only [Reportable, CommonOptions.Deliverable, shape.writable_iff]

/-- A command either does not come to a run, and then has touched nothing, or it has an outcome and
ends with its status just if the report can be delivered. -/
theorem run_cases [Interpreter] (calm : session.transport.Uninterrupted) (options : FixOptions)
    (world : World σ) :
    (options.rewritten session world = [] ∧
        (options.run session world).state.tree = world.tree ∧
        ∃ fault, (options.run session world).result = .error (.fault fault)) ∨
      ∃ settings, ∃ outcome : RunOutcome, options.settings session world.tree = .ok settings ∧
        (outcome.anyChangeApplied = true ↔ options.rewritten session world ≠ []) ∧
        ((options.Reportable session settings world.tree ∧
            ∃ output, (options.run session world).result =
              .ok ⟨output, outcome.exitStatus (settings .failOnError).truthy⟩) ∨
          (¬ options.Reportable session settings world.tree ∧
            (∃ fault, (options.run session world).result = .error (.fault fault)) ∧
            (options.rewritten session world = [] →
              (options.run session world).state.tree = world.tree))) := by
  cases loaded : options.settings session world.tree with
  | error fault =>
    left
    simp only [rewritten, run, loaded]
    exact ⟨trivial, rfl, fault, rfl⟩
  | ok settings =>
    cases valid : settings.validate with
    | error fault =>
      left
      simp only [rewritten, run, runWith, loaded, valid, Step.attempt_ok_andThen]
      exact ⟨trivial, rfl, fault, rfl⟩
    | ok checked =>
      cases equipped : options.equipment settings with
      | error fault =>
        left
        simp only [rewritten, run, runWith, loaded, valid, equipped, Step.attempt_ok_andThen]
        exact ⟨trivial, rfl, fault, rfl⟩
      | ok equipment =>
        obtain ⟨client, pipeline⟩ := equipment
        cases resolved : (pipeline.candidates session.around options.namedPaths).2 with
        | error fault =>
          left
          obtain ⟨same, failed⟩ := runPipeline_of_unresolved world client resolved
          simp only [rewritten, run, runWith, loaded, valid, equipped, resolved,
            Step.attempt_ok_andThen, Step.andThen_of_error failed]
          exact ⟨trivial, congrArg World.tree same, _, rfl⟩
        | ok chosen =>
          right
          obtain ⟨outcome, ended, shape, any, untouched⟩ :=
            runPipeline_of_resolved calm world client resolved
          have writtenEq : options.rewritten session world =
              pipeline.rewritten (client.generator session.transport) session.around chosen
                ⟨.processing, world.tree, world.network⟩ := by
            simp only [rewritten, loaded, valid, equipped, resolved]
          obtain ⟨resultEq, stateEq⟩ := run_of_outcome loaded valid equipped ended
          refine ⟨settings, outcome, rfl, by rw [any, writtenEq], ?_⟩
          rw [resultEq, stateEq, writtenEq]
          by_cases reportable : options.Reportable session settings world.tree
          · left
            exact ⟨reportable,
              conclude_of_reportable ((reportable_iff_of_sameShape shape).mp reportable) outcome⟩
          · right
            obtain ⟨same, failed⟩ := conclude_of_not_reportable
              (fun later => reportable ((reportable_iff_of_sameShape shape).mpr later)) outcome
            exact ⟨reportable, failed, fun nothing => by rw [same, untouched nothing]⟩

/-- The settings of a command can be loaded and let its report be delivered. -/
def Reports [Interpreter] (options : FixOptions) (session : Session σ) (world : World σ) : Prop :=
  ∃ settings, options.settings session world.tree = .ok settings ∧
    options.Reportable session settings world.tree

theorem reports_iff [Interpreter] (loaded : options.settings session world.tree = .ok settings) :
    options.Reports session world ↔ options.Reportable session settings world.tree := by
  constructor
  · rintro ⟨settings', loaded', reportable⟩
    rw [loaded] at loaded'
    cases loaded'
    exact reportable
  · exact fun reportable => ⟨settings, loaded, reportable⟩

end FixOptions

namespace Ending

variable {environment : Environment} {step : Step (World σ) Conclusion}

theorem ofStep_exitsWith_iff {conclusion : Conclusion} (ended : step.result = .ok conclusion)
    (code : Nat) : (ofStep environment step).ExitsWith code ↔ conclusion.status.code = code := by
  simp only [ofStep, ended, ExitsWith, Exit.status.injEq, exists_eq_left']

theorem ofStep_fault_exitsWith_iff (quiet : showsFaults environment = false)
    (failed : ∃ fault, step.result = .error (.fault fault)) (code : Nat) :
    (ofStep environment step).ExitsWith code ↔ 1 = code := by
  obtain ⟨fault, failed⟩ := failed
  simp only [ofStep, failed, quiet, ExitsWith, Bool.false_eq_true, if_false, Exit.status.injEq,
    exists_eq_left', ExitStatus.code]

theorem ofStep_world : (ofStep environment step).world = step.state := by
  simp only [ofStep]
  split <;> rfl

end Ending

/-- The exit code of a command that replaces files. It is 2 just if a file was rewritten and the
report can be delivered; where it cannot, the code is 1 all the same, after files were rewritten.
Otherwise the code 1 means that nothing was touched. -/
theorem execute_fix_exit_code [Interpreter] {line : List String} {options : FixOptions}
    {session : Session σ}
    (parses : Invocation.ofLine line = .ok (.fix options))
    (quiet : Ending.showsFaults session.environment = false)
    (calm : session.transport.Uninterrupted) (world : World σ) :
    ((execute line session world).ExitsWith 2 ↔
      options.rewritten session world ≠ [] ∧ options.Reports session world) ∧
    (options.rewritten session world ≠ [] → ¬ options.Reports session world →
      (execute line session world).ExitsWith 1) ∧
    ((execute line session world).ExitsWith 1 → options.rewritten session world = [] →
      (execute line session world).world.tree = world.tree) := by
  have exits (code : Nat) : (execute line session world).ExitsWith code ↔
      (Ending.ofStep session.environment (options.run session world)).ExitsWith code := by
    rw [execute, parses]
    rfl
  have worldEq : (execute line session world).world = (options.run session world).state := by
    rw [execute, parses]
    exact Ending.ofStep_world
  rw [exits, exits, worldEq]
  rcases FixOptions.run_cases calm options world with
    ⟨nothing, same, failed⟩ | ⟨settings, outcome, loaded, any, ended⟩
  · rw [Ending.ofStep_fault_exitsWith_iff quiet failed, Ending.ofStep_fault_exitsWith_iff quiet
      failed, nothing]
    exact ⟨by simp, by simp, fun _ _ => same⟩
  rw [FixOptions.reports_iff loaded]
  rcases ended with ⟨reportable, output, ended⟩ | ⟨lost, failed, untouched⟩
  · rw [Ending.ofStep_exitsWith_iff ended, Ending.ofStep_exitsWith_iff ended]
    refine ⟨?_, fun _ lost => absurd reportable lost, fun one => ?_⟩
    · rw [and_iff_left reportable, ← any]
      exact outcome.exitCode_eq_two_iff _
    · exact absurd one (outcome.code_exitStatus_ne_one _)
  · rw [Ending.ofStep_fault_exitsWith_iff quiet failed, Ending.ofStep_fault_exitsWith_iff quiet
      failed]
    exact ⟨by simp [lost], fun _ _ => rfl, fun _ => untouched⟩

/-- A script is rewritten, and the report goes to the output. -/
theorem execute_fix_script :
    let line := ["fix", "a.js", "--provider", "local"]
    let session : Session Unit := ⟨⟨[], "k", fun _ => none, .notInstalled⟩, [], false,
      fun _ state =>
        (.response 200 (Text.Utf8.encode "\x7b\"response\": \"a;\"\x7d"), state)⟩
    let world : World Unit := ⟨⟨[(["a.js"], .file (Text.Utf8.encode "exec(x)") 0o644)]⟩, ()⟩
    ∃ options, Invocation.ofLine line = .ok (.fix options) ∧
      options.rewritten session world ≠ [] ∧ options.Reports session world ∧
      (execute line session world).ExitsWith 2 := by
  intro line session world
  obtain ⟨options, parses⟩ : ∃ options, Invocation.ofLine line = .ok (.fix options) :=
    ⟨_, rfl⟩
  have calm : session.transport.Uninterrupted := by
    intro request state interrupted
    cases interrupted
  have exits : (execute line session world).ExitsWith 2 := by
    refine ⟨.changesApplied, ?_, rfl⟩
    decide +kernel
  obtain ⟨wrote, reports⟩ := (execute_fix_exit_code parses rfl calm world).1.mp exits
  exact ⟨options, parses, wrote, reports, exits⟩

/-- Settings with a format that no report has end a run with the code 1 after it has rewritten a
script. -/
theorem unknown_format_hides_rewrite :
    let line := ["fix", "a.js", "--provider", "local"]
    let session : Session Unit := ⟨⟨[], "k", fun _ => none, .notInstalled⟩, [], false,
      fun _ state =>
        (.response 200 (Text.Utf8.encode "\x7b\"response\": \"a;\"\x7d"), state)⟩
    let world : World Unit := ⟨⟨[(["a.js"], .file (Text.Utf8.encode "exec(x)") 0o644),
      ([".securityagent.json"],
        .file (Text.Utf8.encode "\x7b\"output_format\": \"sarif\"\x7d") 0o644)]⟩, ()⟩
    (∃ options, Invocation.ofLine line = .ok (.fix options)) ∧
      Ending.showsFaults session.environment = false ∧ session.transport.Uninterrupted ∧
      (execute line session world).ExitsWith 1 ∧
      (execute line session world).world.tree.find? ["a.js"] =
        some (.file (Text.Utf8.encode "a;") 0o644) ∧
      Text.Utf8.encode "a;" ≠ Text.Utf8.encode "exec(x)" := by
  intro line session world
  have ends : (execute line session world).exit = .status .fatal ∧
      (execute line session world).world.tree.find? ["a.js"] =
        some (.file (Text.Utf8.encode "a;") 0o644) := by
    decide +kernel
  refine ⟨⟨_, rfl⟩, rfl, ?_, ⟨.fatal, ends.1, rfl⟩, ends.2, by decide⟩
  intro request state interrupted
  cases interrupted

end Command

end Remedy

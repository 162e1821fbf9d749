import Remedy.Proofs.Diff.Faithful
import Remedy.Proofs.Pipeline.Isolation

/-!
# Rehearsals

A dry run is a rehearsal of the run in earnest: it leaves the tree as it is, and yet its outcomes
tell those that the run in earnest comes to. Since the files of a run do not hang on each other, it
is enough to compare the two treatments of one file in one tree; they part only where an artifact
has been accepted, and there the run in earnest writes it or fails to.
-/

set_option autoImplicit false

namespace Remedy

namespace FileOutcome

/-- The outcome of a file that only a dry run kept from being written. -/
def IsRehearsed (outcome : FileOutcome) : Prop :=
  outcome.result = .flaggedUnfixed ∧ outcome.message = "dry run"

instance (outcome : FileOutcome) : Decidable outcome.IsRehearsed :=
  inferInstanceAs (Decidable (outcome.result = .flaggedUnfixed ∧ outcome.message = "dry run"))

/-- The outcome of a file for which there was a correction that could not be written. -/
def WriteFailed (outcome : FileOutcome) : Prop :=
  outcome.result = .error ∧ outcome.diff ≠ "" ∧
    ∃ error : ReplaceError, outcome.message = "write failed: " ++ error.message

/-- What the outcome of a file in a dry run says about the one in earnest. -/
inductive Foretells : FileOutcome → FileOutcome → Prop where
  | same {outcome : FileOutcome} (real : ¬ outcome.IsRehearsed)
      (kept : outcome.result ≠ .flaggedFixed) (plain : outcome.diff = "") :
      Foretells outcome outcome
  | fixed (path : String) (categories : List Category) (diff : String) :
      Foretells ⟨path, .flaggedUnfixed, categories, "dry run", diff⟩
        ⟨path, .flaggedFixed, categories, "remediation applied", diff⟩
  | failed (path : String) (categories : List Category) {diff : String} (differs : diff ≠ "")
      (error : ReplaceError) :
      Foretells ⟨path, .flaggedUnfixed, categories, "dry run", diff⟩
        ⟨path, .error, categories, "write failed: " ++ error.message, diff⟩

namespace Foretells

variable {predicted actual : FileOutcome}

theorem not_fixed (foretells : Foretells predicted actual) : predicted.result ≠ .flaggedFixed := by
  cases foretells with
  | same real kept plain => exact kept
  | fixed path categories diff => simp
  | failed path categories differs error => simp

theorem isRehearsed_iff (foretells : Foretells predicted actual) :
    predicted.IsRehearsed ↔ actual.result = .flaggedFixed ∨ actual.WriteFailed := by
  cases foretells with
  | same real kept plain =>
    refine iff_of_false real ?_
    rintro (isFixed | ⟨-, differs, -⟩)
    · exact kept isFixed
    · exact differs plain
  | fixed path categories diff => exact iff_of_true ⟨rfl, rfl⟩ (Or.inl rfl)
  | failed path categories differs error =>
    exact iff_of_true ⟨rfl, rfl⟩ (Or.inr ⟨rfl, differs, error, rfl⟩)

theorem diff_eq (foretells : Foretells predicted actual) :
    predicted.diff = actual.diff ∧ predicted.categories = actual.categories := by
  cases foretells <;> exact ⟨rfl, rfl⟩

theorem eq_of_not_isRehearsed (foretells : Foretells predicted actual)
    (real : ¬ predicted.IsRehearsed) : predicted = actual := by
  cases foretells with
  | same => rfl
  | fixed path categories diff => exact absurd ⟨rfl, rfl⟩ real
  | failed path categories differs error => exact absurd ⟨rfl, rfl⟩ real

end Foretells

end FileOutcome

/-! ## One remediation -/

namespace Replacement

variable {r : Replacement}

/-- A failure that is held ready is an outcome of the file; otherwise the rest decides. -/
theorem failure_of_check {α : Type} {step : ReplaceStep} {rest : Unit → Except ReplaceError α}
    {error : ReplaceError} (failed : (r.check step >>= rest) = .error error) :
    Remediation.isFileFailure error = true ∨ rest () = .error error := by
  unfold check at failed
  split at failed
  · left
    cases failed
    rfl
  · exact Or.inr failed

theorem isFileFailure_of_outlookOnceMade {error : ReplaceError}
    (failed : r.outlookOnceMade = .error error) : Remediation.isFileFailure error = true := by
  unfold outlookOnceMade at failed
  rcases failure_of_check failed with now | failed
  · exact now
  rcases failure_of_check failed with now | failed
  · exact now
  rcases failure_of_check failed with now | failed
  · exact now
  rcases failure_of_check failed with now | failed
  · exact now
  split at failed
  · cases failed
    rfl
  · cases failed

/-- Whatever keeps a file that was read from being replaced is an outcome of the file, as long as
the temporary file can have its name. -/
theorem isFileFailure_of_run (utf8 : r.encoding = "utf-8") {tree : FileTree} {bytes : List UInt8}
    (read : tree.readBytes r.directory r.target = .ok bytes)
    (spellable : '\x00' ∉ (Path.spell r.temporary).toList) {content : String}
    {error : ReplaceError} (failed : (r.run content tree).2 = .error error) :
    Remediation.isFileFailure error = true := by
  rw [run_eq_outlook utf8 read] at failed
  unfold outlook at failed
  rcases failure_of_check failed with now | failed
  · exact now
  have named : (Path.spell r.temporary).toList.contains '\x00' = false := by
    simpa using spellable
  simp only [named, Bool.false_eq_true, if_false] at failed
  split at failed
  · cases failed
    rfl
  · split at failed
    · cases failed
      rfl
    · exact isFileFailure_of_outlookOnceMade failed

end Replacement

namespace Remediation

variable {r : Remediation}

def rehearsal (r : Remediation) : Remediation :=
  { r with dryRun := true }

theorem apply_foretells (earnest : r.dryRun = false) (utf8 : r.replacement.encoding = "utf-8")
    {tree : FileTree} {bytes : List UInt8}
    (read : tree.readBytes r.replacement.directory r.replacement.target = .ok bytes)
    (spellable : '\x00' ∉ (Path.spell r.replacement.temporary).toList) (artifact : String) :
    ∃ predicted actual, (r.rehearsal.apply tree artifact).result = .ok predicted ∧
      (r.apply tree artifact).result = .ok actual ∧ predicted.Foretells actual := by
  by_cases empty : artifact = ""
  · simp only [rehearsal, apply, if_pos empty]
    exact ⟨_, _, rfl, rfl,
      .same (by simp [FileOutcome.IsRehearsed, outcome]) (by simp [outcome]) rfl⟩
  by_cases same : Completion.restoreEnding r.current artifact = r.current
  · simp only [rehearsal, apply, if_neg empty, same, if_true]
    exact ⟨_, _, rfl, rfl,
      .same (by simp [FileOutcome.IsRehearsed, outcome]) (by simp [outcome]) rfl⟩
  have differs :
      Diff.unified r.current (Completion.restoreEnding r.current artifact) r.label ≠ "" :=
    fun nothing => same ((Diff.unified_eq_empty_iff _ _ _).mp nothing).symm
  simp only [rehearsal, apply, if_neg empty, same, replace, earnest, if_true,
    Bool.false_eq_true, if_false]
  rcases ran : r.replacement.run (Completion.restoreEnding r.current artifact) tree with
    ⟨after, error | _⟩
  · have outcomes := Replacement.isFileFailure_of_run utf8 read spellable (congrArg Prod.snd ran)
    simp only [failed, outcomes, if_true]
    exact ⟨_, _, rfl, rfl, .failed r.label r.categories differs error⟩
  · simp only [applied_utf8 utf8]
    exact ⟨_, _, rfl, rfl, .fixed r.label r.categories _⟩

end Remediation

/-- Surroundings whose names hold no NUL character; no system has others. -/
structure Surroundings.NulFree (around : Surroundings) : Prop where
  directory : Path.Lacks '\x00' around.directory
  tag : '\x00' ∉ around.tag.toList

namespace Pipeline

variable {σ τ : Type} {pipeline : Pipeline} {around : Surroundings} {path : String}

def rehearsal (pipeline : Pipeline) : Pipeline :=
  { pipeline with dryRun := true }

theorem temporary_spellable (nulFree : around.NulFree) {tree : FileTree} {bytes : List UInt8}
    (read : tree.readBytes around.directory (pipeline.locationOf path) = .ok bytes) :
    '\x00' ∉ (Path.spell (pipeline.replacementOf around path).temporary).toList := by
  have noNul : '\x00' ∉ (pipeline.locationOf path).toList := by
    simpa using (FileTree.located_of_readBytes read).1
  have place : Path.Lacks '\x00' (pipeline.replacementOf around path).place :=
    nulFree.directory.denoted noNul
  apply Path.Lacks.not_mem_spell _ (by decide)
  intro name member
  rcases List.mem_append.mp member with above | last
  · exact place name (List.dropLast_subset _ above)
  · rw [List.mem_singleton] at last
    have tag : '\x00' ∉ (pipeline.replacementOf around path).tag.toList := nulFree.tag
    have spelled : (pipeline.replacementOf around path).temporaryName =
        ".securityagent-" ++ (pipeline.replacementOf around path).tag ++ ".tmp" := rfl
    simp [last, spelled, tag]

/-! ## One file -/

theorem result_of_applied {generate : Generator σ} {state : RunState σ}
    {content completion : String} {outcome : FileOutcome}
    (readable : state.tree.readText around.directory (pipeline.locationOf path) = .ok content)
    (flagged : (pipeline.detector.detect content path).isFlagged = true)
    (answered : (generate (pipeline.promptOf path content) state.generator).result =
      .ok (some completion))
    (applied : ((pipeline.remediationOf around path content).apply state.tree
      (Completion.clean completion)).result = .ok outcome) :
    (pipeline.process generate around path state).result = .ok outcome := by
  obtain ⟨-, -, ⟨outcome', ended, -, processed⟩ | ⟨⟨error, ended⟩, -⟩⟩ :=
    process_of_completion readable flagged answered rfl
  · rw [applied] at ended
    cases ended
    exact processed
  · rw [applied] at ended
    cases ended

section File

variable (earnest : pipeline.dryRun = false) (nulFree : around.NulFree)
  {reply : String → Except Fault (Option String)} {generate₁ : Generator σ}
  {generate₂ : Generator τ} (answers₁ : generate₁.Answers reply)
  (answers₂ : generate₂.Answers reply)
  {s : RunState σ} {t : RunState τ} (sameTree : s.tree = t.tree)

include earnest nulFree answers₁ answers₂ sameTree

theorem process_foretells_of_flagged {content : String}
    (readable : s.tree.readText around.directory (pipeline.locationOf path) = .ok content)
    (flagged : (pipeline.detector.detect content path).isFlagged = true) :
    ∃ predicted actual,
      (pipeline.rehearsal.process generate₁ around path s).result = .ok predicted ∧
      (pipeline.process generate₂ around path t).result = .ok actual ∧
      predicted.Foretells actual := by
  have readable' := sameTree ▸ readable
  have readable₁ : s.tree.readText around.directory (pipeline.rehearsal.locationOf path) =
      .ok content := readable
  have flagged₁ : (pipeline.rehearsal.detector.detect content path).isFlagged = true := flagged
  have answered₁ : (generate₁ (pipeline.rehearsal.promptOf path content) s.generator).result =
      (reply (pipeline.promptOf path content)).mapError .fault := answers₁ _ _
  have answered₂ := answers₂ (pipeline.promptOf path content) t.generator
  rcases replied : reply (pipeline.promptOf path content) with fault | _ | completion
  · rw [replied] at answered₁ answered₂
    rw [process_of_flagged readable₁ flagged₁, answered₁,
      process_of_flagged readable' flagged, answered₂]
    cases fault <;>
      exact ⟨_, _, rfl, rfl, .same (by simp [FileOutcome.IsRehearsed, errorOutcome])
        (by simp [errorOutcome]) rfl⟩
  · rw [replied] at answered₁ answered₂
    rw [process_of_flagged readable₁ flagged₁, answered₁,
      process_of_flagged readable' flagged, answered₂]
    exact ⟨_, _, rfl, rfl, .same (by simp [FileOutcome.IsRehearsed]) (by simp) rfl⟩
  · rw [replied] at answered₁ answered₂
    obtain ⟨bytes, read, -⟩ := FileTree.readBytes_of_readText readable
    obtain ⟨predicted, actual, rehearsed, done, foretells⟩ :=
      Remediation.apply_foretells (r := pipeline.remediationOf around path content) earnest rfl read
        (temporary_spellable nulFree read) (Completion.clean completion)
    exact ⟨predicted, actual,
      result_of_applied readable₁ flagged₁ answered₁ rehearsed,
      result_of_applied readable' flagged answered₂ (sameTree ▸ done), foretells⟩

theorem process_foretells (path : String) :
    ∃ predicted actual,
      (pipeline.rehearsal.process generate₁ around path s).result = .ok predicted ∧
      (pipeline.process generate₂ around path t).result = .ok actual ∧
      predicted.Foretells actual := by
  cases readable : s.tree.readText around.directory (pipeline.locationOf path) with
  | error error =>
    have unreadable : s.tree.readText around.directory (pipeline.rehearsal.locationOf path) =
        .error error := readable
    unfold process examine
    rw [unreadable, ← sameTree, readable]
    cases error <;>
      exact ⟨_, _, rfl, rfl, .same (by simp [FileOutcome.IsRehearsed, errorOutcome])
        (by simp [errorOutcome]) rfl⟩
  | ok content =>
    cases flagged : (pipeline.detector.detect content path).isFlagged with
    | true =>
      exact process_foretells_of_flagged earnest nulFree answers₁ answers₂ sameTree readable flagged
    | false =>
      have readable₁ : s.tree.readText around.directory (pipeline.rehearsal.locationOf path) =
          .ok content := readable
      have flagged₁ : (pipeline.rehearsal.detector.detect content path).isFlagged = false := flagged
      rw [process, process, examine_of_readable readable₁,
        examine_of_readable (sameTree ▸ readable)]
      simp only [treat, flagged₁, flagged, Bool.false_eq_true, if_false]
      exact ⟨_, _, rfl, rfl, .same (by simp [FileOutcome.IsRehearsed]) (by simp) rfl⟩

end File

/-! ## A run -/

/-- An outcome of a run over different files is the one that its file comes to alone. -/
theorem Course.ended_alone {generate : Generator σ}
    {reply : String → Except Fault (Option String)} (answers : generate.Answers reply)
    {paths : List String} {state last : RunState σ} {outcomes : List FileOutcome}
    (course : Course pipeline generate around paths state outcomes last)
    (distinct : (paths.map (pipeline.placeOf around)).Nodup) {outcome : FileOutcome}
    (member : outcome ∈ outcomes) :
    (pipeline.process generate around outcome.filePath state).result = .ok outcome := by
  have labels := course.filePaths
  have among : outcome.filePath ∈ paths := labels ▸ List.mem_map_of_mem member
  obtain ⟨found, inCourse, labelled, ended, -⟩ := course.alone answers distinct among
  have unlike : (outcomes.map FileOutcome.filePath).Nodup := labels ▸ distinct.of_map _
  rw [List.inj_on_of_nodup_map unlike inCourse member labelled] at ended
  exact ended

/-- Settings build the same pipeline whether they ask for a rehearsal or not, but for that. -/
theorem ofSettings_dryRun (settings : Settings) (root : String) (on : Bool) :
    ofSettings (settings.below (.single .dryRun (.bool on))) root =
      (ofSettings settings root).map fun pipeline => { pipeline with dryRun := on } := by
  have kept (setting : Setting) (other : setting ≠ .dryRun) :
      settings.below (.single .dryRun (.bool on)) setting = settings setting :=
    Settings.below_of_none (by simp [Layer.single, other])
  have set : (settings.below (.single .dryRun (.bool on)) .dryRun).truthy = on := rfl
  have enabled : (settings.below (.single .dryRun (.bool on))).enabledCategories =
      settings.enabledCategories := by
    rw [Settings.enabledCategories, kept .categories (by decide), Settings.enabledCategories]
  simp only [ofSettings, enabled, set, kept .extensions (by decide),
    kept .excludedPaths (by decide), kept .baseRef (by decide), kept .remote (by decide)]
  split
  · rfl
  · cases settings.enabledCategories <;> rfl

section Run

variable (earnest : pipeline.dryRun = false) (nulFree : around.NulFree)
  {reply : String → Except Fault (Option String)} {generate₁ : Generator σ}
  {generate₂ : Generator τ} (answers₁ : generate₁.Answers reply)
  (answers₂ : generate₂.Answers reply)
  {paths : List String} {s last₁ : RunState σ} {t last₂ : RunState τ}
  {predicted actual : List FileOutcome}
  (rehearsed : Course pipeline.rehearsal generate₁ around paths s predicted last₁)
  (done : Course pipeline generate₂ around paths t actual last₂)
  (distinct : (paths.map (pipeline.placeOf around)).Nodup) (sameTree : s.tree = t.tree)

include earnest nulFree answers₁ answers₂ rehearsed done distinct sameTree

/-- The outcomes that a file has in a rehearsal and in earnest are those that it comes to alone in
the tree that both start from. -/
theorem Course.foretells {p a : FileOutcome} (inRehearsal : p ∈ predicted) (inEarnest : a ∈ actual)
    (sameFile : p.filePath = a.filePath) : p.Foretells a := by
  have endedP := rehearsed.ended_alone answers₁ distinct inRehearsal
  have endedA := done.ended_alone answers₂ distinct inEarnest
  obtain ⟨p', a', processedP, processedA, foretells⟩ :=
    process_foretells earnest nulFree answers₁ answers₂ sameTree a.filePath
  rw [sameFile, processedP] at endedP
  rw [processedA] at endedA
  cases endedP
  cases endedA
  exact foretells

theorem Course.rehearsal_changes_nothing :
    (⟨predicted⟩ : RunOutcome).anyChangeApplied = false ∧ last₁.tree = s.tree := by
  have nothing : (⟨predicted⟩ : RunOutcome).anyChangeApplied = false := by
    rw [Bool.eq_false_iff, Ne, RunOutcome.anyChangeApplied_iff]
    rintro ⟨p, member, isFixed⟩
    have among : p.filePath ∈ actual.map FileOutcome.filePath := by
      rw [done.filePaths, ← rehearsed.filePaths]
      exact List.mem_map_of_mem member
    obtain ⟨a, inEarnest, sameFile⟩ := List.mem_map.mp among
    exact (Course.foretells earnest nulFree answers₁ answers₂ rehearsed done distinct sameTree
      member inEarnest sameFile.symm).not_fixed isFixed
  refine ⟨nothing, rehearsed.tree_of_rewritten_nil ?_⟩
  by_contra some
  rw [rehearsed.anyChangeApplied_iff.mpr some] at nothing
  cases nothing

end Run

/-- A rehearsal tells what the run in earnest comes to, for settings that differ in nothing but
that and a generator that answers each prompt by a function. The rehearsal leaves the tree as it
is, and its exit code is never that of changes. Where its outcome is that only the rehearsal kept
the file from being written, and nowhere else, the run in earnest fixes the file or fails to write
it, with the same diff and the same categories; every other file comes to the same outcome. -/
theorem run_foretells {settings : Settings} {root : String} {dry real : Pipeline}
    (rehearsing : ofSettings (settings.below (.single .dryRun (.bool true))) root = .ok dry)
    (earnest : ofSettings (settings.below (.single .dryRun (.bool false))) root = .ok real)
    (nulFree : around.NulFree) {reply : String → Except Fault (Option String)}
    {generate₁ : Generator σ} {generate₂ : Generator τ} (answers₁ : generate₁.Answers reply)
    (answers₂ : generate₂.Answers reply) {paths : Option (List String)} {chosen : List String}
    (resolved : (real.candidates around paths).2 = .ok chosen)
    (distinct : (chosen.map (real.placeOf around)).Nodup) (s : RunState σ) (t : RunState τ)
    (sameTree : s.tree = t.tree) :
    let rehearsal := dry.run generate₁ around paths s
    let run := real.run generate₂ around paths t
    ∃ predicted actual, rehearsal.result = .ok predicted ∧ run.result = .ok actual ∧
      predicted.files.map FileOutcome.filePath = chosen ∧
      actual.files.map FileOutcome.filePath = chosen ∧
      rehearsal.state.tree = s.tree ∧
      (∀ failOnError, predicted.exitCode failOnError ≠ 2) ∧
      ∀ p ∈ predicted.files, ∀ a ∈ actual.files, p.filePath = a.filePath →
        (p.IsRehearsed ↔ a.result = .flaggedFixed ∨ a.WriteFailed) ∧
        (p.IsRehearsed → p.diff = a.diff ∧ p.categories = a.categories) ∧
        (¬ p.IsRehearsed → p = a) := by
  intro rehearsal run
  rw [ofSettings_dryRun] at rehearsing earnest
  obtain ⟨pipeline, built⟩ : ∃ pipeline, ofSettings settings root = .ok pipeline := by
    cases built : ofSettings settings root with
    | ok pipeline => exact ⟨pipeline, rfl⟩
    | error fault =>
      rw [built] at earnest
      cases earnest
  rw [built] at rehearsing earnest
  have isReal : real.dryRun = false := by
    cases earnest
    rfl
  obtain rfl : real.rehearsal = dry := by
    cases rehearsing
    cases earnest
    rfl
  have resolved₁ : (real.rehearsal.candidates around paths).2 = .ok chosen := resolved
  obtain ⟨predicted, last₁, rehearsed, ended₁, state₁⟩ :=
    run_course answers₁.uninterrupted resolved₁ s
  obtain ⟨actual, last₂, done, ended₂, -⟩ := run_course answers₂.uninterrupted resolved t
  obtain ⟨nothing, kept⟩ := Course.rehearsal_changes_nothing isReal nulFree answers₁ answers₂
    rehearsed done distinct sameTree
  refine ⟨⟨predicted⟩, ⟨actual⟩, ended₁, ended₂, rehearsed.filePaths, done.filePaths, ?_, ?_, ?_⟩
  · have ends : rehearsal.state = { last₁ with phase := lastPhase predicted } := state₁
    rw [ends]
    exact kept
  · intro failOnError isTwo
    rw [RunOutcome.exitCode_eq_two_iff, nothing] at isTwo
    cases isTwo
  · intro p inRehearsal a inEarnest sameFile
    have foretells := Course.foretells isReal nulFree answers₁ answers₂ rehearsed done distinct
      sameTree inRehearsal inEarnest sameFile
    exact ⟨foretells.isRehearsed_iff, fun _ => foretells.diff_eq, foretells.eq_of_not_isRehearsed⟩

/-- A rehearsal announces the correction of one script and not of the other. -/
theorem run_foretells_two_scripts :
    let around : Surroundings := ⟨[], "k", fun _ => none, .notInstalled⟩
    let tree : FileTree := ⟨[(["a.js"], .file (Text.Utf8.encode "exec(x)\n") 0o644),
      (["b.js"], .file (Text.Utf8.encode "let b;\n") 0o644)]⟩
    let generate := Generator.steady fun _ => .ok (some "run(x)")
    ∃ dry real,
      ofSettings (Settings.default.below (.single .dryRun (.bool true))) "" = .ok dry ∧
      ofSettings (Settings.default.below (.single .dryRun (.bool false))) "" = .ok real ∧
      let run (pipeline : Pipeline) :=
        pipeline.run generate around (some ["a.js", "b.js"]) ⟨.initial, tree, ()⟩
      ∃ predicted actual, (run dry).result = .ok predicted ∧ (run real).result = .ok actual ∧
        predicted.files.map FileOutcome.filePath = ["a.js", "b.js"] ∧
        predicted.files.map (fun p => decide p.IsRehearsed) = [true, false] ∧
        actual.files.map FileOutcome.result = [.flaggedFixed, .skipped] ∧
        (run dry).state.tree = tree ∧
        (∀ failOnError, predicted.exitCode failOnError ≠ 2) ∧
        ∀ p ∈ predicted.files, ∀ a ∈ actual.files, p.filePath = a.filePath →
          (p.IsRehearsed ↔ a.result = .flaggedFixed ∨ a.WriteFailed) := by
  intro around tree generate
  let pipeline (on : Bool) : Pipeline := ⟨"", ⟨"", .str "main", .str "origin",
    ⟨Setting.default .extensions, Setting.default .excludedPaths⟩⟩, .standard Category.all, on⟩
  have built (on : Bool) :
      ofSettings (Settings.default.below (.single .dryRun (.bool on))) "" = .ok (pipeline on) := by
    cases on <;> rfl
  have resolved : ((pipeline false).candidates around (some ["a.js", "b.js"])).2 =
      .ok ["a.js", "b.js"] := by
    rfl
  have nulFree : around.NulFree := by
    refine ⟨fun name member => ?_, by decide⟩
    cases member
  refine ⟨_, _, built true, built false, ?_⟩
  obtain ⟨predicted, actual, rehearsed, done, files, -, kept, notTwo, foretold⟩ :=
    run_foretells (built true) (built false) nulFree (Generator.answers_steady _)
      (Generator.answers_steady _) resolved (by decide) ⟨.initial, tree, ()⟩
      ⟨.initial, tree, ()⟩ rfl
  have announced : ((pipeline true).run generate around (some ["a.js", "b.js"])
      ⟨.initial, tree, ()⟩).result.toOption.map
        (fun outcome => outcome.files.map fun p => decide p.IsRehearsed) =
      some [true, false] := by
    decide +kernel
  have written : ((pipeline false).run generate around (some ["a.js", "b.js"])
      ⟨.initial, tree, ()⟩).result.toOption.map
        (fun outcome => outcome.files.map FileOutcome.result) =
      some [.flaggedFixed, .skipped] := by
    decide +kernel
  rw [rehearsed] at announced
  rw [done] at written
  exact ⟨predicted, actual, rehearsed, done, files, Option.some.inj announced,
    Option.some.inj written, kept, notTwo,
    fun p inRehearsal a inEarnest sameFile => (foretold p inRehearsal a inEarnest sameFile).1⟩

end Pipeline

end Remedy

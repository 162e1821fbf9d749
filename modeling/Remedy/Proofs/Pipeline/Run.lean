import Mathlib.Data.List.Nodup
import Mathlib.Tactic.TFAE
import Remedy.Proofs.Pipeline.File

/-!
# Runs over many files

A run over paths that nobody interrupts is a course of processed files, one outcome for each path
and in the same order. What a course says about the tree follows by induction from what one file
does to it; when the paths denote different places a file is rewritten once at most, so that the
tree at the end differs from the one at the start exactly in the files that were fixed.
-/

set_option autoImplicit false

namespace Remedy

namespace RunOutcome

theorem anyChangeApplied_iff (outcome : RunOutcome) :
    outcome.anyChangeApplied = true ↔ ∃ file ∈ outcome.files, file.result = .flaggedFixed := by
  simp [anyChangeApplied]

theorem exitCode_eq_two_iff (outcome : RunOutcome) (failOnError : Bool) :
    outcome.exitCode failOnError = 2 ↔ outcome.anyChangeApplied = true := by
  simp only [exitCode, exitStatus]
  cases outcome.anyChangeApplied with
  | true => simp [ExitStatus.code]
  | false =>
    simp only [Bool.false_eq_true, if_false, iff_false]
    split <;> decide

theorem count_add (outcome : RunOutcome) :
    outcome.count .skipped + outcome.count .flaggedUnfixed + outcome.count .flaggedFixed +
      outcome.count .error = outcome.files.length := by
  obtain ⟨files⟩ := outcome
  simp only [count]
  induction files with
  | nil => rfl
  | cons file rest ih =>
    simp only [List.countP_cons, List.length_cons]
    cases file.result <;> simp <;> omega

end RunOutcome

namespace Pipeline

variable {σ : Type}

/-- Files processed one after the other, from a state to another one. -/
inductive Course (pipeline : Pipeline) (generate : Generator σ) (around : Surroundings) :
    List String → RunState σ → List FileOutcome → RunState σ → Prop where
  | done (state : RunState σ) : Course pipeline generate around [] state [] state
  | file {path : String} {rest : List String} {state last : RunState σ} {outcome : FileOutcome}
      {outcomes : List FileOutcome} :
      Processed pipeline generate around path state outcome →
      Course pipeline generate around rest
        (pipeline.process generate around path state).state outcomes last →
      Course pipeline generate around (path :: rest) state (outcome :: outcomes) last

/-- The paths of a list whose processing changes the tree, one after the other. -/
def rewritten (pipeline : Pipeline) (generate : Generator σ) (around : Surroundings) :
    List String → RunState σ → List String
  | [], _ => []
  | path :: rest, state =>
    let next := (pipeline.process generate around path state).state
    if next.tree = state.tree then rewritten pipeline generate around rest next
    else path :: rewritten pipeline generate around rest next

variable {pipeline : Pipeline} {generate : Generator σ} {around : Surroundings}

theorem processAll_cons {path : String} {state : RunState σ} {outcome : FileOutcome}
    (p : Processed pipeline generate around path state outcome) (rest : List String) :
    (pipeline.processAll generate around (path :: rest) state).state =
        (pipeline.processAll generate around rest
          (pipeline.process generate around path state).state).state ∧
      (pipeline.processAll generate around (path :: rest) state).result =
        (pipeline.processAll generate around rest
          (pipeline.process generate around path state).state).result.map (outcome :: ·) := by
  simp only [processAll, Step.andThen, p.ended]
  cases (pipeline.processAll generate around rest
    (pipeline.process generate around path state).state).result with
  | error halt => exact ⟨rfl, rfl⟩
  | ok outcomes => exact ⟨rfl, rfl⟩

/-- Unless somebody interrupts it every list of files is processed to its end. -/
theorem exists_course (pipeline : Pipeline) (around : Surroundings)
    (calm : generate.Uninterrupted) (paths : List String) (state : RunState σ) :
    ∃ outcomes, (pipeline.processAll generate around paths state).result = .ok outcomes ∧
      Course pipeline generate around paths state outcomes
        (pipeline.processAll generate around paths state).state := by
  induction paths generalizing state with
  | nil => exact ⟨[], rfl, .done state⟩
  | cons path rest ih =>
    obtain ⟨outcome, p⟩ := exists_processed pipeline around calm path state
    obtain ⟨outcomes, ended, course⟩ := ih (pipeline.process generate around path state).state
    obtain ⟨stateEq, resultEq⟩ := processAll_cons p rest
    refine ⟨outcome :: outcomes, ?_, ?_⟩
    · rw [resultEq, ended]
      rfl
    · rw [stateEq]
      exact .file p course

namespace Course

variable {paths : List String} {state last : RunState σ} {outcomes : List FileOutcome}

theorem filePaths (course : Course pipeline generate around paths state outcomes last) :
    outcomes.map FileOutcome.filePath = paths := by
  induction course with
  | done => rfl
  | file p _ ih => rw [List.map_cons, p.labelled, ih]

theorem sameShape (course : Course pipeline generate around paths state outcomes last) :
    FileTree.SameShape state.tree last.tree := by
  induction course with
  | done => exact FileTree.SameShape.refl _
  | file p _ ih => exact p.sameShape.trans ih

theorem find?_of_not_mem (course : Course pipeline generate around paths state outcomes last)
    {place : Path} (elsewhere : place ∉ paths.map (pipeline.placeOf around)) :
    last.tree.find? place = state.tree.find? place := by
  induction course with
  | done => rfl
  | file p _ ih =>
    rw [List.map_cons, List.mem_cons, not_or] at elsewhere
    rw [ih elsewhere.2, p.find?_of_ne elsewhere.1]

theorem rewritten_eq (course : Course pipeline generate around paths state outcomes last) :
    pipeline.rewritten generate around paths state =
      (outcomes.filter fun o => o.result = .flaggedFixed).map FileOutcome.filePath := by
  induction course with
  | done => rfl
  | @file path rest state last outcome outcomes p _ ih =>
    simp only [rewritten]
    by_cases isFixed : outcome.result = .flaggedFixed
    · have changed : (pipeline.process generate around path state).state.tree ≠ state.tree := by
        intro same
        exact p.fixed_iff_find?_ne.mp isFixed (by rw [same])
      rw [if_neg changed, ih, List.filter_cons_of_pos (by simpa using isFixed), List.map_cons,
        p.labelled]
    · rw [if_pos (p.unfixed isFixed), ih, List.filter_cons_of_neg (by simpa using isFixed)]

theorem anyChangeApplied_iff
    (course : Course pipeline generate around paths state outcomes last) :
    (⟨outcomes⟩ : RunOutcome).anyChangeApplied = true ↔
      pipeline.rewritten generate around paths state ≠ [] := by
  rw [course.rewritten_eq, RunOutcome.anyChangeApplied_iff]
  simp [List.filter_eq_nil_iff]

theorem tree_of_rewritten_nil
    (course : Course pipeline generate around paths state outcomes last)
    (nothing : pipeline.rewritten generate around paths state = []) :
    last.tree = state.tree := by
  induction course with
  | done => rfl
  | @file path rest state last outcome outcomes p _ ih =>
    simp only [rewritten] at nothing
    split at nothing
    · next same => exact (ih nothing).trans same
    · cases nothing

section Distinct

variable (course : Course pipeline generate around paths state outcomes last)
  (distinct : (paths.map (pipeline.placeOf around)).Nodup)

include course distinct

theorem find?_ne_iff (place : Path) :
    last.tree.find? place ≠ state.tree.find? place ↔
      ∃ outcome ∈ outcomes, outcome.result = .flaggedFixed ∧
        pipeline.placeOf around outcome.filePath = place := by
  induction course with
  | done => simp
  | @file path rest state last outcome outcomes p course ih =>
    rw [List.map_cons, List.nodup_cons] at distinct
    simp only [List.mem_cons, exists_eq_or_imp]
    by_cases here : place = pipeline.placeOf around path
    · have left := course.find?_of_not_mem (here ▸ distinct.1)
      have notLater : ¬ ∃ later ∈ outcomes, later.result = .flaggedFixed ∧
          pipeline.placeOf around later.filePath = place := by
        rw [← ih distinct.2]
        exact fun differs => differs left
      rw [left, or_iff_left notLater, p.labelled, here, ← p.fixed_iff_find?_ne]
      simp
    · rw [← p.find?_of_ne here, ih distinct.2, or_iff_right]
      rintro ⟨-, denoted⟩
      rw [p.labelled] at denoted
      exact here denoted.symm

/-- With different files a fixed one holds the revision of what it held at the start, with the
completion that the generator gave in its turn. -/
theorem revision_of_fixed {outcome : FileOutcome} (member : outcome ∈ outcomes)
    (isFixed : outcome.result = .flaggedFixed) :
    ∃ earlier later, paths = earlier ++ outcome.filePath :: later ∧
      ∃ v : Revision pipeline generate around outcome.filePath state.tree
          (pipeline.processAll generate around earlier state).state.generator,
        last.tree.find? (pipeline.placeOf around outcome.filePath) =
          some (.file (Text.Utf8.encode v.after) v.mode) := by
  induction course with
  | done => cases member
  | @file path rest state last first outcomes p course ih =>
    rw [List.map_cons, List.nodup_cons] at distinct
    rcases List.mem_cons.mp member with rfl | member
    · obtain ⟨v, tree⟩ := p.fixed isFixed
      have labelled := p.labelled
      subst labelled
      refine ⟨[], rest, rfl, v, ?_⟩
      rw [course.find?_of_not_mem distinct.1, tree,
        FileTree.find?_put_self _ v.place_ne_root]
      rfl
    · obtain ⟨earlier, later, rfl, v, held⟩ := ih distinct.2 member
      have other : pipeline.placeOf around outcome.filePath ≠ pipeline.placeOf around path := by
        intro same
        exact distinct.1 (by simp [← same])
      have asked := (processAll_cons p earlier).1
      obtain ⟨bytes, mode, before, completion, heldBefore, decoded, flagged, answered, differs⟩ := v
      refine ⟨path :: earlier, later, rfl, ⟨bytes, mode, before, completion, ?_, decoded, flagged,
        ?_, differs⟩, held⟩
      · rw [← p.find?_of_ne other, heldBefore]
      · rw [asked, answered]

end Distinct

end Course

/-! ## A run from its first phase to its last -/

def lastPhase (outcomes : List FileOutcome) : Phase :=
  if (⟨outcomes⟩ : RunOutcome).anyChangeApplied then .doneDirty else .doneClean

theorem lastPhase_eq_doneDirty_iff (outcomes : List FileOutcome) :
    lastPhase outcomes = .doneDirty ↔ (⟨outcomes⟩ : RunOutcome).anyChangeApplied = true := by
  simp only [lastPhase]
  cases (⟨outcomes⟩ : RunOutcome).anyChangeApplied with
  | true => simp
  | false => simp

theorem finish_eq (outcomes : List FileOutcome) (state : RunState σ) :
    (finish outcomes state).result = .ok ⟨outcomes⟩ ∧
      (finish outcomes state).state = { state with phase := lastPhase outcomes } :=
  ⟨rfl, rfl⟩

/-- A run over paths that nobody interrupts is a course of their files and ends in the phase that
the outcomes say. -/
theorem runOver_course (pipeline : Pipeline) (around : Surroundings)
    (calm : generate.Uninterrupted) (chosen : List String) (state : RunState σ) :
    ∃ outcomes last,
      Course pipeline generate around chosen { state with phase := .processing } outcomes last ∧
      (pipeline.runOver generate around chosen state).result = .ok ⟨outcomes⟩ ∧
      (pipeline.runOver generate around chosen state).state =
        { last with phase := lastPhase outcomes } := by
  cases chosen with
  | nil => exact ⟨[], _, .done _, rfl, rfl⟩
  | cons path rest =>
    obtain ⟨outcomes, ended, course⟩ :=
      exists_course pipeline around calm (path :: rest) { state with phase := .processing }
    refine ⟨outcomes, _, course, ?_, ?_⟩
    · simp only [runOver, List.isEmpty_cons, Bool.false_eq_true, if_false, enter, Step.andThen,
        Step.after, ended, (finish_eq _ _).1]
    · simp only [runOver, List.isEmpty_cons, Bool.false_eq_true, if_false, enter, Step.andThen,
        Step.after, ended, (finish_eq _ _).2]

theorem run_course (calm : generate.Uninterrupted) {paths : Option (List String)}
    {chosen : List String} (resolved : (pipeline.candidates around paths).2 = .ok chosen)
    (state : RunState σ) :
    ∃ outcomes last,
      Course pipeline generate around chosen { state with phase := .processing } outcomes last ∧
      (pipeline.run generate around paths state).result = .ok ⟨outcomes⟩ ∧
      (pipeline.run generate around paths state).state =
        { last with phase := lastPhase outcomes } := by
  obtain ⟨outcomes, last, course, ended, stateEq⟩ :=
    runOver_course pipeline around calm chosen { state with phase := .resolvingChanges }
  refine ⟨outcomes, last, course, ?_⟩
  cases found : pipeline.candidates around paths with
  | mk journal result =>
    rw [found] at resolved
    simp only [run, enter, Step.andThen, found, show result = .ok chosen from resolved,
      Step.after_result, Step.after_state]
    exact ⟨ended, stateEq⟩

/-- A run over different files accounts for every change of the tree. There is one outcome for
each path, in the same order; the tree differs exactly in the files that were fixed; each of them
was flagged and holds the artifact of the completion that the generator gave in its turn; and that
some file was fixed is what the phase, the exit code and the tree say alike. -/
theorem run_accounts (calm : generate.Uninterrupted) {paths : Option (List String)}
    {chosen : List String} (resolved : (pipeline.candidates around paths).2 = .ok chosen)
    (distinct : (chosen.map (pipeline.placeOf around)).Nodup) (state : RunState σ) :
    ∃ outcome, (pipeline.run generate around paths state).result = .ok outcome ∧
      outcome.files.map FileOutcome.filePath = chosen ∧
      (∀ place,
        (pipeline.run generate around paths state).state.tree.find? place ≠
            state.tree.find? place ↔
          ∃ file ∈ outcome.files, file.result = .flaggedFixed ∧
            pipeline.placeOf around file.filePath = place) ∧
      (∀ file ∈ outcome.files, file.result = .flaggedFixed →
        ∃ earlier later, chosen = earlier ++ file.filePath :: later ∧
          ∃ v : Revision pipeline generate around file.filePath state.tree
              (pipeline.processAll generate around earlier
                { state with phase := .processing }).state.generator,
            (pipeline.run generate around paths state).state.tree.find?
                (pipeline.placeOf around file.filePath) =
              some (.file (Text.Utf8.encode v.after) v.mode) ∧
            Text.Utf8.encode v.after ≠ v.bytes) ∧
      outcome.count .skipped + outcome.count .flaggedUnfixed + outcome.count .flaggedFixed +
        outcome.count .error = outcome.files.length ∧
      [(pipeline.run generate around paths state).state.phase = .doneDirty,
        outcome.anyChangeApplied = true,
        ∀ failOnError, outcome.exitCode failOnError = 2,
        ∃ place, (pipeline.run generate around paths state).state.tree.find? place ≠
          state.tree.find? place].TFAE := by
  obtain ⟨outcomes, last, course, ended, stateEq⟩ := run_course calm resolved state
  have changed := course.find?_ne_iff distinct
  rw [stateEq]
  refine ⟨⟨outcomes⟩, ended, course.filePaths, changed, ?_, RunOutcome.count_add _, ?_⟩
  · intro file member isFixed
    obtain ⟨earlier, later, split, v, held⟩ := course.revision_of_fixed distinct member isFixed
    exact ⟨earlier, later, split, v, held, v.encode_after_ne⟩
  · tfae_have 1 ↔ 2 := lastPhase_eq_doneDirty_iff outcomes
    tfae_have 2 ↔ 3 := by
      simp only [RunOutcome.exitCode_eq_two_iff, forall_const]
    tfae_have 2 ↔ 4 := by
      rw [RunOutcome.anyChangeApplied_iff]
      constructor
      · rintro ⟨file, member, isFixed⟩
        exact ⟨_, (changed _).mpr ⟨file, member, isFixed, rfl⟩⟩
      · rintro ⟨place, differs⟩
        obtain ⟨file, member, isFixed, -⟩ := (changed place).mp differs
        exact ⟨file, member, isFixed⟩
    tfae_finish

/-- One of two files is flagged and fixed. -/
theorem run_accounts_two_files :
    let pipeline : Pipeline := ⟨"", ⟨"", .str "main", .str "origin",
      ⟨.list [.str ".js"], .list []⟩⟩, .standard [], false⟩
    let generate : Generator Unit := fun _ asked => Step.done asked (some "run(x)")
    let around : Surroundings := ⟨[], "k", fun _ => none, .notInstalled⟩
    let state : RunState Unit := ⟨.initial, ⟨[
      (["a.js"], .file (Text.Utf8.encode "exec(x)\n") 0o644),
      (["b.js"], .file (Text.Utf8.encode "let b;\n") 0o644)]⟩, ()⟩
    generate.Uninterrupted ∧
      (pipeline.candidates around (some ["a.js", "b.js"])).2 = .ok ["a.js", "b.js"] ∧
      (["a.js", "b.js"].map (pipeline.placeOf around)).Nodup ∧
      ∃ outcome, (pipeline.run generate around (some ["a.js", "b.js"]) state).result = .ok outcome ∧
        outcome.files.map FileOutcome.filePath = ["a.js", "b.js"] ∧
        ∀ failOnError, outcome.exitCode failOnError = 2 := by
  intro pipeline generate around state
  have calm : generate.Uninterrupted := by
    intro prompt asked interrupted
    cases interrupted
  have resolved : (pipeline.candidates around (some ["a.js", "b.js"])).2 =
      .ok ["a.js", "b.js"] := by
    rfl
  have distinct : (["a.js", "b.js"].map (pipeline.placeOf around)).Nodup := by
    decide
  have dirty : (pipeline.run generate around (some ["a.js", "b.js"]) state).state.phase =
      .doneDirty := by
    decide +kernel
  obtain ⟨outcome, ended, paths, -, -, -, alike⟩ := run_accounts calm resolved distinct state
  exact ⟨calm, resolved, distinct, outcome, ended, paths, (alike.out 0 2).mp dirty⟩

end Pipeline

end Remedy

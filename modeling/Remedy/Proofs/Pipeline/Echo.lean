import Remedy.Proofs.Completion.Echo
import Remedy.Proofs.Pipeline.File

/-!
# Echoes in the pipeline

A generator that answers with the file it was asked about has corrected nothing. The pipeline sees
that for settled files. Another file is rewritten by its own echo: what cleaning takes away from
its ends, or fences within it, is gone then, and the file counts as fixed.
-/

set_option autoImplicit false

namespace Remedy.Pipeline

open Completion

variable {σ : Type} {pipeline : Pipeline} {generate : Generator σ} {around : Surroundings}
  {path : String} {state : RunState σ} {content completion : String}

theorem accepts_echo_iff (around : Surroundings) (echo : IsEcho content completion) :
    (pipeline.remediationOf around path content).Accepts (clean completion) ↔
      ¬ (pipeline.dryRun = true ∨ clean completion = "" ∨ Settled content) := by
  rw [← restoreEnding_clean_echo_iff echo, not_or, not_or, Bool.not_eq_true]
  constructor
  · rintro ⟨notEmpty, differs, wet⟩
    exact ⟨wet, notEmpty, differs⟩
  · rintro ⟨wet, notEmpty, differs⟩
    exact ⟨notEmpty, differs, wet⟩

/-- The exact fate of an echo. It leaves the file alone and unfixed just if the run is dry, nothing
is left of it or the file is settled; otherwise the file is rewritten and counts as fixed as soon
as the replacement can be carried out. -/
theorem process_echo
    (readable : state.tree.readText around.directory (pipeline.locationOf path) = .ok content)
    (flagged : (pipeline.detector.detect content path).isFlagged = true)
    (answered : (generate (pipeline.promptOf path content) state.generator).result =
      .ok (some completion))
    (echo : IsEcho content completion) :
    (EndsAs path (pipeline.process generate around path state) .flaggedUnfixed ∧
        (pipeline.process generate around path state).state.tree = state.tree ↔
      pipeline.dryRun = true ∨ clean completion = "" ∨ Settled content) ∧
    (EndsAs path (pipeline.process generate around path state) .flaggedFixed ↔
      ¬ (pipeline.dryRun = true ∨ clean completion = "" ∨ Settled content) ∧
        (pipeline.remediationOf around path content).replacement.Succeeds
          (restoreEnding content (clean completion)) state.tree) := by
  constructor
  · rw [process_endsAs_iff readable flagged (by decide) answered rfl, Remediation.unfixed_iff rfl,
      accepts_echo_iff around echo, not_not]
    refine and_iff_left_of_imp fun recognized => ?_
    rw [(process_of_completion readable flagged answered rfl).1]
    refine (Remediation.apply_of_not_accepts ?_).1
    rw [accepts_echo_iff around echo, not_not]
    exact recognized
  · rw [process_endsAs_iff readable flagged (by decide) answered rfl,
      ← accepts_echo_iff around echo]
    exact Remediation.fixed_iff rfl

/-- A settled script in a block of code is recognized. -/
theorem process_echo_settled_script :
    let pipeline : Pipeline := ⟨"", ⟨"", .str "main", .str "origin",
      ⟨.list [.str ".js"], .list []⟩⟩, .standard [], false⟩
    let generate : Generator Unit := fun _ asked =>
      Step.done asked (some "\x60\x60\x60js\nexec(x)\n\x60\x60\x60")
    let around : Surroundings := ⟨[], "k", fun _ => none, .notInstalled⟩
    let state : RunState Unit :=
      ⟨.processing, ⟨[(["a.js"], .file (Text.Utf8.encode "exec(x)\n") 0o644)]⟩, ()⟩
    EndsAs "a.js" (pipeline.process generate around "a.js" state) .flaggedUnfixed ∧
      (pipeline.process generate around "a.js" state).state.tree = state.tree := by
  intro pipeline generate around state
  have readable : state.tree.readText around.directory (pipeline.locationOf "a.js") =
      .ok "exec(x)\n" := by
    decide
  have flagged : (pipeline.detector.detect "exec(x)\n" "a.js").isFlagged = true := by
    decide +kernel
  have tagged : "js".toList.all isTagChar = true := by
    decide
  have echo : IsEcho "exec(x)\n" "\x60\x60\x60js\nexec(x)\n\x60\x60\x60" :=
    .fenced "js" (List.all_eq_true.mp tagged)
  have settled : Settled "exec(x)\n" := by
    refine ⟨fenceless_of_not_mem ?_, Or.inr (Or.inl ?_)⟩
    · decide
    · decide
  exact (process_echo readable flagged rfl echo).1.mpr (Or.inr (Or.inr settled))

/-- A blank line at the end is enough for a script not to be recognized: its echo rewrites it. -/
theorem echo_takes_blank_line_away :
    let pipeline : Pipeline := ⟨"", ⟨"", .str "main", .str "origin",
      ⟨.list [.str ".js"], .list []⟩⟩, .standard [], false⟩
    let generate : Generator Unit := fun _ asked => Step.done asked (some "exec(x)\n\n")
    let around : Surroundings := ⟨[], "k", fun _ => none, .notInstalled⟩
    let state : RunState Unit :=
      ⟨.processing, ⟨[(["a.js"], .file (Text.Utf8.encode "exec(x)\n\n") 0o644)]⟩, ()⟩
    state.tree.readText around.directory (pipeline.locationOf "a.js") = .ok "exec(x)\n\n" ∧
      (pipeline.detector.detect "exec(x)\n\n" "a.js").isFlagged = true ∧
      IsEcho "exec(x)\n\n" "exec(x)\n\n" ∧
      EndsAs "a.js" (pipeline.process generate around "a.js" state) .flaggedFixed ∧
      (pipeline.process generate around "a.js" state).state.tree.find? ["a.js"] =
        some (.file (Text.Utf8.encode "exec(x)\n") 0o644) := by
  intro pipeline generate around state
  refine ⟨by decide +kernel, by decide +kernel, .plain, ?_, by decide +kernel⟩
  have ends : ((pipeline.process generate around "a.js" state).result.toOption.map
      fun outcome => (outcome.filePath, outcome.result)) = some ("a.js", .flaggedFixed) := by
    decide +kernel
  cases processed : (pipeline.process generate around "a.js" state).result with
  | error halt =>
    rw [processed] at ends
    cases ends
  | ok outcome =>
    rw [processed] at ends
    obtain ⟨labelled, isFixed⟩ := Prod.mk.inj (Option.some.inj ends)
    exact ⟨outcome, processed, labelled, isFixed⟩

end Remedy.Pipeline

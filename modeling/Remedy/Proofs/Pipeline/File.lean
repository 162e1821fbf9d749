import Remedy.Pipeline
import Remedy.Proofs.FileTree.Shape
import Remedy.Proofs.Generator.Interruption
import Remedy.Proofs.Remediation

/-!
# What becomes of one file

Processing a file always comes to an outcome, whatever the generator answers, as long as nobody
interrupts it. The cases are those of the pipeline: the file cannot be read, nothing was found in
it, the generator failed, it gave nothing, or it gave a completion. Only in the last one can the
tree change, and then it does so at the place of the file alone (`process_cases`).
-/

set_option autoImplicit false

namespace Remedy

namespace Pipeline

variable {σ : Type} (pipeline : Pipeline) (generate : Generator σ) (around : Surroundings)
  (path : String) (state : RunState σ)

def placeOf : Path :=
  Path.denoted around.directory (pipeline.locationOf path)

def promptOf (content : String) : String :=
  (Prompt.build path content (pipeline.detector.detect content path).categories).text

def remediationOf (content : String) : Remediation :=
  pipeline.remediation around (pipeline.detector.detect content path) content

/-- The step of a file ended with an outcome of some kind for it. -/
def EndsAs (step : Step (RunState σ) FileOutcome) (result : FileResult) : Prop :=
  ∃ outcome, step.result = .ok outcome ∧ outcome.filePath = path ∧ outcome.result = result

/-- A flagged file of a tree that the generator gave a completion for, which changes it. -/
structure Revision (tree : FileTree) (asked : σ) where
  bytes : List UInt8
  mode : Nat
  before : String
  completion : String
  held : tree.find? (pipeline.placeOf around path) = some (.file bytes mode)
  decoded : Text.Utf8.decode bytes = .ok before
  flagged : (pipeline.detector.detect before path).isFlagged = true
  answered : (generate (pipeline.promptOf path before) asked).result = .ok (some completion)
  differs : Completion.restoreEnding before (Completion.clean completion) ≠ before

variable {pipeline generate around path state}

def Revision.after {tree : FileTree} {asked : σ}
    (v : Revision pipeline generate around path tree asked) : String :=
  Completion.restoreEnding v.before (Completion.clean v.completion)

theorem Revision.encode_after_ne {tree : FileTree} {asked : σ}
    (v : Revision pipeline generate around path tree asked) :
    Text.Utf8.encode v.after ≠ v.bytes := by
  intro same
  have decoded := v.decoded
  rw [← same, Text.Utf8.decode_encode] at decoded
  exact v.differs (Except.ok.inj decoded)

theorem Revision.place_ne_root {tree : FileTree} {asked : σ}
    (v : Revision pipeline generate around path tree asked) :
    pipeline.placeOf around path ≠ [] := by
  intro root
  have held := v.held
  rw [root, FileTree.find?_root] at held
  cases held

/-! ## Case by case -/

theorem process_of_unreadable (generate : Generator σ) {error : FileError}
    (unreadable : state.tree.readText around.directory (pipeline.locationOf path) = .error error) :
    (pipeline.process generate around path state).state = state ∧
      EndsAs path (pipeline.process generate around path state) .error := by
  unfold process examine
  rw [unreadable]
  cases error with
  | nulCharacter => exact ⟨rfl, _, rfl, rfl, rfl⟩
  | system error => exact ⟨rfl, _, rfl, rfl, rfl⟩
  | undecodable fault => exact ⟨rfl, _, rfl, rfl, rfl⟩

section Readable

variable {content : String}
  (readable : state.tree.readText around.directory (pipeline.locationOf path) = .ok content)

include readable

theorem examine_of_readable (generate : Generator σ) :
    pipeline.examine generate around path state =
      pipeline.treat generate around path content state := by
  unfold examine
  rw [readable]

theorem process_of_unflagged (generate : Generator σ)
    (unflagged : (pipeline.detector.detect content path).isFlagged = false) :
    (pipeline.process generate around path state).state = state ∧
      EndsAs path (pipeline.process generate around path state) .skipped := by
  rw [process, examine_of_readable readable]
  simp only [treat, unflagged, Bool.false_eq_true, if_false]
  exact ⟨rfl, _, rfl, rfl, rfl⟩

variable (flagged : (pipeline.detector.detect content path).isFlagged = true)

include flagged

theorem process_of_flagged :
    pipeline.process generate around path state =
      contain path
        ((pipeline.settle around (pipeline.detector.detect content path) content
            { state with
              generator := (generate (pipeline.promptOf path content) state.generator).state }
            (generate (pipeline.promptOf path content) state.generator).result).after
          (announcement (pipeline.detector.detect content path)
              (pipeline.promptOf path content) ++
            (generate (pipeline.promptOf path content) state.generator).journal)) := by
  rw [process, examine_of_readable readable]
  simp only [treat, flagged, if_true]
  rfl

theorem process_of_fault {fault : Fault}
    (failed : (generate (pipeline.promptOf path content) state.generator).result =
      .error (.fault fault)) :
    (pipeline.process generate around path state).state.tree = state.tree ∧
      (pipeline.process generate around path state).state.phase = state.phase ∧
      EndsAs path (pipeline.process generate around path state) .error := by
  rw [process_of_flagged readable flagged, failed]
  cases fault <;> exact ⟨rfl, rfl, _, rfl, rfl, rfl⟩

theorem process_of_none
    (none : (generate (pipeline.promptOf path content) state.generator).result = .ok none) :
    (pipeline.process generate around path state).state.tree = state.tree ∧
      (pipeline.process generate around path state).state.phase = state.phase ∧
      EndsAs path (pipeline.process generate around path state) .flaggedUnfixed := by
  rw [process_of_flagged readable flagged, none]
  exact ⟨rfl, rfl, _, rfl, rfl, rfl⟩

/-- With a completion the file is what its remediation makes of it; where that has no outcome it
is one that something went wrong with. -/
theorem process_of_completion {completion : String} {effect : Remediation.Effect}
    (answered : (generate (pipeline.promptOf path content) state.generator).result =
      .ok (some completion))
    (applied : (pipeline.remediationOf around path content).apply state.tree
      (Completion.clean completion) = effect) :
    (pipeline.process generate around path state).state.tree = effect.tree ∧
      (pipeline.process generate around path state).state.phase = state.phase ∧
      ((∃ outcome, effect.result = .ok outcome ∧ outcome.filePath = path ∧
          (pipeline.process generate around path state).result = .ok outcome) ∨
        (∃ error, effect.result = .error error) ∧
          EndsAs path (pipeline.process generate around path state) .error) := by
  have labelled (outcome : FileOutcome) (ended : effect.result = .ok outcome) :
      outcome.filePath = path := by
    rw [← applied] at ended
    exact Remediation.filePath_of_apply (r := pipeline.remediationOf around path content) rfl ended
  rw [remediationOf] at applied
  rw [process_of_flagged readable flagged, answered]
  simp only [settle, applyCompletion, applied]
  obtain ⟨journal, tree, result⟩ := effect
  cases result with
  | ok outcome => exact ⟨rfl, rfl, Or.inl ⟨outcome, rfl, labelled outcome rfl, rfl⟩⟩
  | error error => exact ⟨rfl, rfl, Or.inr ⟨⟨error, rfl⟩, _, rfl, rfl, rfl⟩⟩

theorem process_endsAs_iff {completion : String} {effect : Remediation.Effect}
    {result : FileResult} (notError : result ≠ .error)
    (answered : (generate (pipeline.promptOf path content) state.generator).result =
      .ok (some completion))
    (applied : (pipeline.remediationOf around path content).apply state.tree
      (Completion.clean completion) = effect) :
    EndsAs path (pipeline.process generate around path state) result ↔ effect.EndsAs result := by
  obtain ⟨-, -, ⟨outcome, ended, labelled, processed⟩ | ⟨⟨error, ended⟩, kept⟩⟩ :=
    process_of_completion readable flagged answered applied
  · rw [Remediation.Effect.endsAs_iff_of_ok ended]
    constructor
    · rintro ⟨outcome', processed', -, isResult⟩
      rw [processed] at processed'
      cases processed'
      exact isResult
    · exact fun isResult => ⟨outcome, processed, labelled, isResult⟩
  · refine iff_of_false ?_ (Remediation.Effect.not_endsAs_of_error ended result)
    rintro ⟨outcome, processed, -, isResult⟩
    obtain ⟨outcome', processed', -, isError⟩ := kept
    rw [processed] at processed'
    cases processed'
    exact notError (isResult.symm.trans isError)

end Readable

/-! ## All cases -/

/-- What an outcome says about a file: where it is that the file was fixed the file was rewritten,
and everywhere else the tree is as before. -/
structure Processed (pipeline : Pipeline) (generate : Generator σ) (around : Surroundings)
    (path : String) (state : RunState σ) (outcome : FileOutcome) : Prop where
  ended : (pipeline.process generate around path state).result = .ok outcome
  labelled : outcome.filePath = path
  phase : (pipeline.process generate around path state).state.phase = state.phase
  unfixed : outcome.result ≠ .flaggedFixed →
    (pipeline.process generate around path state).state.tree = state.tree
  fixed : outcome.result = .flaggedFixed →
    ∃ v : Revision pipeline generate around path state.tree state.generator,
      (pipeline.process generate around path state).state.tree =
        state.tree.put (pipeline.placeOf around path) (.file (Text.Utf8.encode v.after) v.mode)

namespace Processed

variable {outcome : FileOutcome}

theorem find?_of_ne (p : Processed pipeline generate around path state outcome) {place : Path}
    (other : place ≠ pipeline.placeOf around path) :
    (pipeline.process generate around path state).state.tree.find? place =
      state.tree.find? place := by
  by_cases isFixed : outcome.result = .flaggedFixed
  · obtain ⟨v, tree⟩ := p.fixed isFixed
    rw [tree, FileTree.find?_put_of_ne _ other]
  · rw [p.unfixed isFixed]

/-- The file of an outcome is another one than before exactly if it was fixed. -/
theorem fixed_iff_find?_ne (p : Processed pipeline generate around path state outcome) :
    outcome.result = .flaggedFixed ↔
      (pipeline.process generate around path state).state.tree.find?
        (pipeline.placeOf around path) ≠ state.tree.find? (pipeline.placeOf around path) := by
  constructor
  · intro isFixed
    obtain ⟨v, tree⟩ := p.fixed isFixed
    rw [tree, FileTree.find?_put_self _ v.place_ne_root, v.held]
    intro same
    exact v.encode_after_ne (Entry.file.inj (Option.some.inj same)).1
  · intro differs
    by_contra other
    exact differs (by rw [p.unfixed other])

theorem sameShape (p : Processed pipeline generate around path state outcome) :
    FileTree.SameShape state.tree (pipeline.process generate around path state).state.tree := by
  by_cases isFixed : outcome.result = .flaggedFixed
  · obtain ⟨v, tree⟩ := p.fixed isFixed
    rw [tree]
    exact (FileTree.sameShape_put_file v.held _ _).symm
  · rw [p.unfixed isFixed]
    exact FileTree.SameShape.refl _

end Processed

theorem EndsAs.processed {result : FileResult}
    (ends : EndsAs path (pipeline.process generate around path state) result)
    (phase : (pipeline.process generate around path state).state.phase = state.phase)
    (tree : (pipeline.process generate around path state).state.tree = state.tree)
    (other : result ≠ .flaggedFixed) :
    ∃ outcome, Processed pipeline generate around path state outcome := by
  obtain ⟨outcome, ended, labelled, rfl⟩ := ends
  exact ⟨outcome, ended, labelled, phase, fun _ => tree, fun isFixed => absurd isFixed other⟩

theorem processed_of_completion {content completion : String}
    (readable : state.tree.readText around.directory (pipeline.locationOf path) = .ok content)
    (flagged : (pipeline.detector.detect content path).isFlagged = true)
    (answered : (generate (pipeline.promptOf path content) state.generator).result =
      .ok (some completion)) :
    ∃ outcome, Processed pipeline generate around path state outcome := by
  obtain ⟨tree, phase, ended⟩ := process_of_completion readable flagged answered rfl
  have notFixed (notFixed : ¬ ((pipeline.remediationOf around path content).apply state.tree
      (Completion.clean completion)).Fixed) :
      (pipeline.process generate around path state).state.tree = state.tree :=
    tree.trans (Remediation.tree_of_not_fixed rfl notFixed)
  rcases ended with ⟨outcome, ended, labelled, processed⟩ | ⟨⟨error, ended⟩, ends⟩
  · have fixedIff := Remediation.Effect.endsAs_iff_of_ok ended .flaggedFixed
    refine ⟨outcome, processed, labelled, phase, ?_, ?_⟩
    · exact fun other => notFixed fun isFixed => other (fixedIff.mp isFixed)
    · intro isFixed
      have effectFixed := fixedIff.mpr isFixed
      obtain ⟨⟨-, differs, -⟩, -⟩ := (Remediation.fixed_iff rfl).mp effectFixed
      obtain ⟨bytes, mode, held, decoded⟩ := FileTree.readText_eq_ok readable
      refine ⟨⟨bytes, mode, content, completion, held, decoded, flagged, answered, differs⟩, ?_⟩
      have kept : (pipeline.remediationOf around path content).replacement.modeAfter state.tree =
          mode := by
        simp only [Replacement.modeAfter]
        rw [show (pipeline.remediationOf around path content).replacement.place =
          Path.denoted around.directory (pipeline.locationOf path) from rfl, held]
      rw [tree, Remediation.tree_of_fixed rfl effectFixed, Replacement.replaced, kept]
      rfl
  · exact ends.processed phase (notFixed (Remediation.Effect.not_endsAs_of_error ended _))
      (by decide)

theorem exists_processed (pipeline : Pipeline) (around : Surroundings)
    (calm : generate.Uninterrupted) (path : String) (state : RunState σ) :
    ∃ outcome, Processed pipeline generate around path state outcome := by
  cases readable : state.tree.readText around.directory (pipeline.locationOf path) with
  | error error =>
    obtain ⟨same, ends⟩ := process_of_unreadable generate readable
    exact ends.processed (by rw [same]) (by rw [same]) (by decide)
  | ok content =>
    cases flagged : (pipeline.detector.detect content path).isFlagged with
    | false =>
      obtain ⟨same, ends⟩ := process_of_unflagged readable generate flagged
      exact ends.processed (by rw [same]) (by rw [same]) (by decide)
    | true =>
      cases answered : (generate (pipeline.promptOf path content) state.generator).result with
      | error halt =>
        cases halt with
        | interrupted => exact absurd answered (calm _ _)
        | fault fault =>
          obtain ⟨tree, phase, ends⟩ := process_of_fault readable flagged answered
          exact ends.processed phase tree (by decide)
      | ok reply =>
        cases reply with
        | none =>
          obtain ⟨tree, phase, ends⟩ := process_of_none readable flagged answered
          exact ends.processed phase tree (by decide)
        | some completion => exact processed_of_completion readable flagged answered

end Pipeline

end Remedy

import Remedy.Proofs.FileTree.Nesting
import Remedy.Proofs.FileTree.Outlook
import Remedy.Proofs.Pipeline.File

/-!
# One file in two trees

Two trees are alike to a replacement when its target reads the same in both and its temporary file
can be made in both or in neither. A file that is processed in two such trees with the same answer
to its prompt comes to the same outcome, and what is done to one tree is done to the other: one
lemma for each function on the way, from the replacement outwards to the pipeline.
-/

set_option autoImplicit false

namespace Remedy

open FileTree

namespace Replacement

/-- Two trees that a replacement of a file that was read cannot tell from each other. -/
structure Alike (r : Replacement) (a b : FileTree) : Prop where
  read : a.readBytes r.directory r.target = b.readBytes r.directory r.target
  beside : ∀ bytes, a.readBytes r.directory r.target = .ok bytes →
    a.reach r.temporary = b.reach r.temporary
  taken : (a.find? r.temporary).isSome = (b.find? r.temporary).isSome

/-- Two trees after the same was done to both: nothing, or a target that could be read got the same
content. -/
inductive Parallel (r : Replacement) (a b : FileTree) : FileTree → FileTree → Prop where
  | kept : Parallel r a b a b
  | replaced {bytes : List UInt8} (read : a.readBytes r.directory r.target = .ok bytes)
      (content : String) : Parallel r a b (r.replaced content a) (r.replaced content b)

variable {r : Replacement} {a b a' b' : FileTree}

namespace Alike

theorem refl (r : Replacement) (tree : FileTree) : r.Alike tree tree :=
  ⟨rfl, fun _ _ => rfl, rfl⟩

theorem of_sameShape (same : SameShape a b)
    (read : a.readBytes r.directory r.target = b.readBytes r.directory r.target) : r.Alike a b := by
  refine ⟨read, fun _ _ => same.reach r.temporary, ?_⟩
  have kinds := congrArg Option.isSome (same r.temporary)
  simpa only [kind?, Option.isSome_map] using kinds

theorem readText (alike : r.Alike a b) :
    a.readText r.directory r.target = b.readText r.directory r.target := by
  simp only [FileTree.readText, alike.read]

theorem run (alike : r.Alike a b) (utf8 : r.encoding = "utf-8") {bytes : List UInt8}
    (read : a.readBytes r.directory r.target = .ok bytes) (content : String) :
    (r.run content a).2 = (r.run content b).2 := by
  rw [run_eq_outlook utf8 read, run_eq_outlook utf8 (alike.read.symm.trans read),
    alike.beside bytes read, alike.taken]

end Alike

namespace Parallel

theorem readBytes (parallel : r.Parallel a b a' b')
    (same : a.readBytes r.directory r.target = b.readBytes r.directory r.target) :
    a'.readBytes r.directory r.target = b'.readBytes r.directory r.target := by
  cases parallel with
  | kept => exact same
  | replaced read content =>
    exact (readBytes_put read _ _).trans (readBytes_put (same.symm.trans read) _ _).symm

end Parallel

end Replacement

/-! ## From a remediation to the pipeline -/

theorem Remediation.apply_parallel {r : Remediation} (utf8 : r.replacement.encoding = "utf-8")
    {a b : FileTree} (alike : r.replacement.Alike a b) {bytes : List UInt8}
    (read : a.readBytes r.replacement.directory r.replacement.target = .ok bytes)
    (artifact : String) :
    (r.apply a artifact).result = (r.apply b artifact).result ∧
      r.replacement.Parallel a b (r.apply a artifact).tree (r.apply b artifact).tree := by
  have results : (r.apply a artifact).result = (r.apply b artifact).result := by
    have ends := alike.run utf8 read (Completion.restoreEnding r.current artifact)
    simp only [apply, replace]
    split
    · rfl
    · split
      · rfl
      · split
        · rfl
        · rcases ranA : r.replacement.run _ a with ⟨afterA, _ | _⟩ <;>
            rcases ranB : r.replacement.run _ b with ⟨afterB, _ | _⟩ <;>
            rw [ranA, ranB] at ends <;> cases ends
          · simp only [failed]
            split <;> rfl
          · simp only [applied_utf8 utf8]
  refine ⟨results, ?_⟩
  by_cases isFixed : (r.apply a artifact).Fixed
  · have alsoFixed : (r.apply b artifact).Fixed := by
      simpa only [Effect.Fixed, Effect.EndsAs, results] using isFixed
    rw [tree_of_fixed utf8 isFixed, tree_of_fixed utf8 alsoFixed]
    exact .replaced read _
  · have alsoNot : ¬ (r.apply b artifact).Fixed := by
      simpa only [Effect.Fixed, Effect.EndsAs, results] using isFixed
    rw [tree_of_not_fixed utf8 isFixed, tree_of_not_fixed utf8 alsoNot]
    exact .kept

namespace Pipeline

variable {σ τ : Type} {pipeline : Pipeline} {around : Surroundings} {path : String}

def replacementOf (pipeline : Pipeline) (around : Surroundings) (path : String) : Replacement :=
  ⟨around.directory, pipeline.locationOf path, around.tag, "utf-8", around.faults⟩

theorem replacement_remediationOf (pipeline : Pipeline) (around : Surroundings)
    (path content : String) :
    (pipeline.remediationOf around path content).replacement =
      pipeline.replacementOf around path := rfl

/-- Two steps, from one tree each, that end alike and do the same to their trees. -/
structure Lockstep (r : Replacement) (a b : FileTree) (s : Step (RunState σ) FileOutcome)
    (t : Step (RunState τ) FileOutcome) : Prop where
  result : s.result = t.result
  trees : r.Parallel a b s.state.tree t.state.tree

section

variable {r : Replacement} {a b : FileTree} {s : Step (RunState σ) FileOutcome}
  {t : Step (RunState τ) FileOutcome}

theorem Lockstep.after (both : Lockstep r a b s t) (first second : Journal) :
    Lockstep r a b (s.after first) (t.after second) :=
  ⟨both.result, both.trees⟩

theorem Lockstep.contain (both : Lockstep r a b s t) (path : String) :
    Lockstep r a b (contain path s) (contain path t) := by
  obtain ⟨journal, state, result⟩ := s
  obtain ⟨journal', state', result'⟩ := t
  obtain ⟨rfl, trees⟩ := both
  rcases result with (_ | _) | _ <;> exact ⟨rfl, trees⟩

end

section Alike

variable {s : RunState σ} {t : RunState τ}
  (alike : (pipeline.replacementOf around path).Alike s.tree t.tree)

include alike

theorem settle_lockstep {content : String}
    (readable : s.tree.readText around.directory (pipeline.locationOf path) = .ok content)
    (reply : Except Halt (Option String)) (asked : σ) (alsoAsked : τ) :
    Lockstep (pipeline.replacementOf around path) s.tree t.tree
      (pipeline.settle around (pipeline.detector.detect content path) content
        { s with generator := asked } reply)
      (pipeline.settle around (pipeline.detector.detect content path) content
        { t with generator := alsoAsked } reply) := by
  rcases reply with (fault | _) | _ | completion
  · cases fault <;> exact ⟨rfl, .kept⟩
  · exact ⟨rfl, .kept⟩
  · exact ⟨rfl, .kept⟩
  · obtain ⟨bytes, read, -⟩ := readBytes_of_readText readable
    obtain ⟨results, trees⟩ := Remediation.apply_parallel
      (r := pipeline.remediationOf around path content) rfl alike read (Completion.clean completion)
    rw [replacement_remediationOf] at trees
    simp only [remediationOf] at results trees
    constructor
    · simp only [settle, applyCompletion, results]
    · simp only [settle, applyCompletion]
      exact trees

/-- A file of two trees that are alike is treated alike if its prompt is answered alike. -/
theorem process_lockstep {generate₁ : Generator σ} {generate₂ : Generator τ}
    (answered : ∀ content,
      s.tree.readText around.directory (pipeline.locationOf path) = .ok content →
      (generate₁ (pipeline.promptOf path content) s.generator).result =
        (generate₂ (pipeline.promptOf path content) t.generator).result) :
    Lockstep (pipeline.replacementOf around path) s.tree t.tree
      (pipeline.process generate₁ around path s) (pipeline.process generate₂ around path t) := by
  have texts : s.tree.readText around.directory (pipeline.locationOf path) =
      t.tree.readText around.directory (pipeline.locationOf path) := alike.readText
  apply Lockstep.contain
  cases readable : s.tree.readText around.directory (pipeline.locationOf path) with
  | error error =>
    unfold examine
    rw [readable, ← texts, readable]
    cases error <;> exact ⟨rfl, .kept⟩
  | ok content =>
    have same := answered content readable
    simp only [promptOf] at same
    rw [examine_of_readable readable, examine_of_readable (texts ▸ readable)]
    simp only [treat, same]
    split
    · exact (settle_lockstep alike readable _ _ _).after _ _
    · exact ⟨rfl, .kept⟩

end Alike

end Pipeline

end Remedy

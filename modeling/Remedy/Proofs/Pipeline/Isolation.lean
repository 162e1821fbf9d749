import Remedy.Proofs.Pipeline.Lockstep
import Remedy.Proofs.Pipeline.Run

/-!
# Files do not hang on each other

A generator that answers each prompt in its own way, whatever it was asked before, makes the files
of a run independent of each other. A file that is processed in the course of a run comes to the
outcome that it would come to alone, in the tree that the run started from, for the other files
left its target and the way to its temporary file as they were. Two runs thus agree about every
file that reads the same and is answered alike, and since what is done to two files can be done in
either order, the order of the files is the order of the outcomes and nothing else.
-/

set_option autoImplicit false

namespace Remedy

/-- A generator that answers prompts by a function, whatever it was asked before. -/
def Generator.Answers {σ : Type} (generate : Generator σ)
    (reply : String → Except Fault (Option String)) : Prop :=
  ∀ prompt asked, (generate prompt asked).result = (reply prompt).mapError .fault

/-- The generator without a memory that answers prompts by a function. -/
def Generator.steady (reply : String → Except Fault (Option String)) : Generator Unit :=
  fun prompt asked => Step.attempt asked (reply prompt)

theorem Generator.answers_steady (reply : String → Except Fault (Option String)) :
    (steady reply).Answers reply := fun _ _ => rfl

theorem Generator.Answers.uninterrupted {σ : Type} {generate : Generator σ}
    {reply : String → Except Fault (Option String)} (answers : generate.Answers reply) :
    generate.Uninterrupted := by
  intro prompt asked
  rw [answers]
  cases reply prompt <;> simp [Except.mapError]

namespace Pipeline

open FileTree

variable {σ τ : Type} {pipeline : Pipeline} {generate : Generator σ} {around : Surroundings}
  {reply : String → Except Fault (Option String)}

def bytesOf (pipeline : Pipeline) (around : Surroundings) (path : String) (tree : FileTree) :
    Except FileError (List UInt8) :=
  tree.readBytes around.directory (pipeline.locationOf path)

/-! ## What version control has no part in -/

theorem process_of_sameShape (answers : generate.Answers reply) {path : String}
    {s t : RunState σ} (same : SameShape s.tree t.tree)
    (held : s.tree.find? (pipeline.placeOf around path) =
      t.tree.find? (pipeline.placeOf around path)) :
    Lockstep (pipeline.replacementOf around path) s.tree t.tree
      (pipeline.process generate around path s) (pipeline.process generate around path t) :=
  process_lockstep (.of_sameShape same (readBytes_congr same held))
    fun _ _ => (answers _ _).trans (answers _ _).symm

theorem Course.alone (answers : generate.Answers reply) {paths : List String}
    {state last : RunState σ} {outcomes : List FileOutcome}
    (course : Course pipeline generate around paths state outcomes last)
    (distinct : (paths.map (pipeline.placeOf around)).Nodup) {path : String}
    (member : path ∈ paths) :
    ∃ outcome ∈ outcomes, outcome.filePath = path ∧
      (pipeline.process generate around path state).result = .ok outcome ∧
      pipeline.bytesOf around path last.tree =
        pipeline.bytesOf around path (pipeline.process generate around path state).state.tree := by
  induction course with
  | done => cases member
  | @file first rest state last outcome outcomes p course ih =>
    rw [List.map_cons, List.nodup_cons] at distinct
    rcases List.mem_cons.mp member with rfl | later
    · refine ⟨outcome, List.mem_cons_self .., p.labelled, p.ended, ?_⟩
      exact (readBytes_congr course.sameShape (course.find?_of_not_mem distinct.1).symm).symm
    · obtain ⟨found, among, labelled, ended, reads⟩ := ih distinct.2 later
      have other : pipeline.placeOf around path ≠ pipeline.placeOf around first := by
        intro same
        exact distinct.1 (same ▸ List.mem_map_of_mem later)
      have start := (p.find?_of_ne other).symm
      have both := process_of_sameShape answers p.sameShape start
      refine ⟨found, List.mem_cons_of_mem _ among, labelled, both.result.trans ended, ?_⟩
      exact reads.trans (both.trees.readBytes (readBytes_congr p.sameShape start)).symm

/-! ## Files in another order -/

section Two

variable {generate₁ : Generator σ} {generate₂ : Generator τ}
  {reply₁ reply₂ : String → Except Fault (Option String)}
  (answers₁ : generate₁.Answers reply₁) (answers₂ : generate₂.Answers reply₂)
  {chosen₁ chosen₂ : List String} {state₁ last₁ : RunState σ} {state₂ last₂ : RunState τ}
  {outcomes₁ outcomes₂ : List FileOutcome}
  (course₁ : Course pipeline generate₁ around chosen₁ state₁ outcomes₁ last₁)
  (course₂ : Course pipeline generate₂ around chosen₂ state₂ outcomes₂ last₂)
  (distinct₁ : (chosen₁.map (pipeline.placeOf around)).Nodup)
  (distinct₂ : (chosen₂.map (pipeline.placeOf around)).Nodup)

include answers₁ answers₂ course₁ course₂ distinct₁ distinct₂

/-- Two runs agree about a file that reads the same, can be replaced in both trees or in neither,
and is answered alike. -/
theorem Course.agree {path : String} (member₁ : path ∈ chosen₁) (member₂ : path ∈ chosen₂)
    (alike : (pipeline.replacementOf around path).Alike state₁.tree state₂.tree)
    (replied : ∀ content,
      state₁.tree.readText around.directory (pipeline.locationOf path) = .ok content →
      reply₁ (pipeline.promptOf path content) = reply₂ (pipeline.promptOf path content)) :
    (∃ file ∈ outcomes₁, file ∈ outcomes₂ ∧ file.filePath = path) ∧
      pipeline.bytesOf around path last₁.tree = pipeline.bytesOf around path last₂.tree := by
  obtain ⟨file, among₁, labelled, ended₁, reads₁⟩ := course₁.alone answers₁ distinct₁ member₁
  obtain ⟨file', among₂, -, ended₂, reads₂⟩ := course₂.alone answers₂ distinct₂ member₂
  have answered (content : String) (readable : state₁.tree.readText around.directory
      (pipeline.locationOf path) = .ok content) :
      (generate₁ (pipeline.promptOf path content) state₁.generator).result =
        (generate₂ (pipeline.promptOf path content) state₂.generator).result := by
    rw [answers₁, answers₂, replied content readable]
  have both := process_lockstep alike answered
  have same : file = file' := by
    have results := both.result
    rw [ended₁, ended₂] at results
    exact Except.ok.inj results
  subst same
  refine ⟨⟨file, among₁, among₂, labelled⟩, ?_⟩
  rw [reads₁, reads₂]
  exact both.trees.readBytes alike.read

end Two

section SameStart

variable {generate₁ : Generator σ} {generate₂ : Generator τ} (answers₁ : generate₁.Answers reply)
  (answers₂ : generate₂.Answers reply) {chosen₁ chosen₂ : List String}
  {state₁ last₁ : RunState σ} {state₂ last₂ : RunState τ} {outcomes₁ outcomes₂ : List FileOutcome}
  (course₁ : Course pipeline generate₁ around chosen₁ state₁ outcomes₁ last₁)
  (course₂ : Course pipeline generate₂ around chosen₂ state₂ outcomes₂ last₂)
  (distinct₁ : (chosen₁.map (pipeline.placeOf around)).Nodup)
  (sameTree : state₁.tree = state₂.tree)

include answers₁ answers₂ course₁ course₂ distinct₁ sameTree

end SameStart

end Pipeline

end Remedy

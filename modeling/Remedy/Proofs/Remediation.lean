import Remedy.Proofs.FileTree.Replacement
import Remedy.Remediation

/-!
# Which artifacts are brought into a file

An artifact is accepted when it is not empty, changes the file and is not only looked at. The file
is rewritten exactly when the artifact is accepted and every step of the replacement succeeds; in
all other cases the tree is the one before.
-/

set_option autoImplicit false

namespace Remedy.Remediation

/-- What the file is to hold: the artifact with the line terminator of the file. -/
def revised (r : Remediation) (artifact : String) : String :=
  Completion.restoreEnding r.current artifact

def Accepts (r : Remediation) (artifact : String) : Prop :=
  artifact ≠ "" ∧ r.revised artifact ≠ r.current ∧ r.dryRun = false

/-- A remediation has an outcome of some kind. -/
def Effect.EndsAs (effect : Effect) (result : FileResult) : Prop :=
  ∃ outcome, effect.result = .ok outcome ∧ outcome.result = result

/-- The file was rewritten. -/
def Effect.Fixed (effect : Effect) : Prop :=
  effect.EndsAs .flaggedFixed

variable {r : Remediation} {tree : FileTree} {artifact : String}

/-- The size of a text in the encoding of the file can be told. -/
def Counts (r : Remediation) (text : String) : Prop :=
  ∃ size, r.byteCount text = .ok size

theorem counts_utf8 (utf8 : r.replacement.encoding = "utf-8") (text : String) : r.Counts text := by
  refine ⟨(Text.Utf8.encode text).length, ?_⟩
  simp only [byteCount, utf8, Text.Encoding.codec?_ofName_utf8, Text.Charset.codec_encode,
    Text.Charset.encode_utf8]

theorem applied_of_counts {content diff : String} (former : r.Counts r.current)
    (latter : r.Counts content) (there : FileTree) :
    (r.applied there content diff).tree = there ∧
      (r.applied there content diff).result =
        .ok (r.outcome .flaggedFixed "remediation applied" diff) := by
  obtain ⟨before, counted⟩ := former
  obtain ⟨after, countedToo⟩ := latter
  simp only [applied, counted, countedToo, and_self]

theorem applied_utf8 (utf8 : r.replacement.encoding = "utf-8") (after : FileTree)
    (content diff : String) :
    (r.applied after content diff).tree = after ∧
      (r.applied after content diff).result =
        .ok (r.outcome .flaggedFixed "remediation applied" diff) :=
  applied_of_counts (counts_utf8 utf8 _) (counts_utf8 utf8 _) after

theorem apply_of_not_accepts (rejected : ¬ r.Accepts artifact) :
    (r.apply tree artifact).tree = tree ∧
      ∃ message diff, (r.apply tree artifact).result =
        .ok (r.outcome .flaggedUnfixed message diff) := by
  simp only [Accepts, revised] at rejected
  by_cases empty : artifact = ""
  · simp only [apply, if_pos empty, true_and]
    exact ⟨_, _, rfl⟩
  by_cases same : Completion.restoreEnding r.current artifact = r.current
  · simp only [apply, if_neg empty, if_pos same, true_and]
    exact ⟨_, _, rfl⟩
  have dry : r.dryRun = true := by
    cases shown : r.dryRun with
    | true => rfl
    | false => exact absurd ⟨empty, same, shown⟩ rejected
  simp only [apply, if_neg empty, if_neg same, replace, if_pos dry, true_and]
  exact ⟨_, _, rfl⟩

/-- An artifact that is accepted and written is in the file before its size is counted. -/
theorem apply_eq_applied (accepted : r.Accepts artifact)
    (all : r.replacement.Succeeds (r.revised artifact) tree) :
    ∃ bytes, r.replacement.Streams (r.revised artifact) bytes ∧
      r.apply tree artifact = r.applied (r.replacement.replacedWith tree bytes)
        (r.revised artifact) (Diff.unified r.current (r.revised artifact) r.label) := by
  obtain ⟨notEmpty, differs, wet⟩ := accepted
  obtain ⟨bytes, streams, ran⟩ := Replacement.run_of_succeeds all
  refine ⟨bytes, streams, ?_⟩
  simp only [revised] at differs ran ⊢
  simp only [apply, if_neg notEmpty, if_neg differs, replace, wet, Bool.false_eq_true, if_false,
    ran]

theorem apply_of_succeeds (utf8 : r.replacement.encoding = "utf-8")
    (accepted : r.Accepts artifact)
    (all : r.replacement.Succeeds (r.revised artifact) tree) :
    (r.apply tree artifact).tree = r.replacement.replaced (r.revised artifact) tree ∧
      ∃ message diff, (r.apply tree artifact).result =
        .ok (r.outcome .flaggedFixed message diff) := by
  obtain ⟨bytes, streams, ended⟩ := apply_eq_applied accepted all
  obtain rfl := (Replacement.streams_utf8_iff utf8).mp streams
  obtain ⟨kept, isFixed⟩ := applied_utf8 utf8
    (r.replacement.replacedWith tree (Text.Utf8.encode (r.revised artifact)))
    (r.revised artifact) (Diff.unified r.current (r.revised artifact) r.label)
  rw [ended, kept, isFixed]
  exact ⟨rfl, _, _, rfl⟩

theorem apply_of_not_succeeds (accepted : r.Accepts artifact)
    (notAll : ¬ r.replacement.Succeeds (r.revised artifact) tree) :
    (r.apply tree artifact).tree = tree ∧
      ((∃ message diff, (r.apply tree artifact).result = .ok (r.outcome .error message diff)) ∨
        ∃ error, (r.apply tree artifact).result = .error error) := by
  obtain ⟨notEmpty, differs, wet⟩ := accepted
  simp only [revised] at differs notAll
  obtain ⟨error, ran⟩ := Replacement.run_of_not_succeeds notAll
  simp only [apply, if_neg notEmpty, if_neg differs, replace, wet, Bool.false_eq_true, if_false,
    ran, failed]
  split
  · exact ⟨rfl, Or.inl ⟨_, _, rfl⟩⟩
  · exact ⟨rfl, Or.inr ⟨_, rfl⟩⟩

theorem filePath_of_apply (utf8 : r.replacement.encoding = "utf-8") {outcome : FileOutcome}
    (result : (r.apply tree artifact).result = .ok outcome) : outcome.filePath = r.label := by
  have ends : (∃ kind message diff, (r.apply tree artifact).result =
      .ok (r.outcome kind message diff)) ∨ ∃ error, (r.apply tree artifact).result =
      .error error := by
    by_cases accepted : r.Accepts artifact
    · by_cases all : r.replacement.Succeeds (r.revised artifact) tree
      · exact Or.inl ⟨_, (apply_of_succeeds utf8 accepted all).2⟩
      · exact (apply_of_not_succeeds accepted all).2.imp_left fun ended => ⟨_, ended⟩
    · exact Or.inl ⟨_, (apply_of_not_accepts accepted).2⟩
  rcases ends with ⟨kind, message, diff, ended⟩ | ⟨error, ended⟩
  · rw [result] at ended
    cases ended
    rfl
  · rw [result] at ended
    cases ended

theorem Effect.endsAs_iff_of_ok {effect : Effect} {outcome : FileOutcome}
    (ended : effect.result = .ok outcome) (result : FileResult) :
    effect.EndsAs result ↔ outcome.result = result := by
  simp only [EndsAs, ended, Except.ok.injEq, exists_eq_left']

theorem Effect.endsAs_of_result {effect : Effect} {result : FileResult}
    (ended : effect.result.toOption.map FileOutcome.result = some result) :
    effect.EndsAs result := by
  obtain ⟨outcome, same, kind⟩ := Option.map_eq_some_iff.mp ended
  cases reached : effect.result with
  | error error =>
    rw [reached] at same
    cases same
  | ok other =>
    rw [reached] at same
    cases same
    exact ⟨outcome, reached, kind⟩

theorem Effect.not_endsAs_of_error {effect : Effect} {error : ReplaceError}
    (ended : effect.result = .error error) (result : FileResult) : ¬ effect.EndsAs result := by
  rintro ⟨outcome, ended', -⟩
  rw [ended] at ended'
  cases ended'

theorem endsAs_error_of_not_succeeds (accepted : r.Accepts artifact)
    (notAll : ¬ r.replacement.Succeeds (r.revised artifact) tree) {result : FileResult}
    (ends : (r.apply tree artifact).EndsAs result) : result = .error := by
  obtain ⟨-, ⟨message, diff, ended⟩ | ⟨error, ended⟩⟩ :=
    apply_of_not_succeeds accepted notAll
  · exact ((Effect.endsAs_iff_of_ok ended result).mp ends).symm
  · exact absurd ends (Effect.not_endsAs_of_error ended result)

theorem written_of_fixed (isFixed : (r.apply tree artifact).Fixed) :
    r.Accepts artifact ∧ r.replacement.Succeeds (r.revised artifact) tree := by
  by_cases accepted : r.Accepts artifact
  · refine ⟨accepted, by_contra fun notAll => ?_⟩
    cases endsAs_error_of_not_succeeds accepted notAll isFixed
  · obtain ⟨-, message, diff, ended⟩ := @apply_of_not_accepts r tree artifact accepted
    cases (Effect.endsAs_iff_of_ok ended _).mp isFixed

theorem tree_of_not_written
    (notWritten : ¬ (r.Accepts artifact ∧ r.replacement.Succeeds (r.revised artifact) tree)) :
    (r.apply tree artifact).tree = tree := by
  by_cases accepted : r.Accepts artifact
  · exact (apply_of_not_succeeds accepted fun all => notWritten ⟨accepted, all⟩).1
  · exact (apply_of_not_accepts accepted).1

/-- The file is rewritten exactly if the artifact is accepted and every step succeeds. -/
theorem fixed_iff (utf8 : r.replacement.encoding = "utf-8") :
    (r.apply tree artifact).Fixed ↔
      r.Accepts artifact ∧ r.replacement.Succeeds (r.revised artifact) tree := by
  refine ⟨written_of_fixed, fun ⟨accepted, all⟩ => ?_⟩
  obtain ⟨-, message, diff, ended⟩ := apply_of_succeeds utf8 accepted all
  exact (Effect.endsAs_iff_of_ok ended _).mpr rfl

theorem unfixed_iff (utf8 : r.replacement.encoding = "utf-8") :
    (r.apply tree artifact).EndsAs .flaggedUnfixed ↔ ¬ r.Accepts artifact := by
  by_cases accepted : r.Accepts artifact
  · refine iff_of_false (fun isUnfixed => ?_) (not_not_intro accepted)
    by_cases all : r.replacement.Succeeds (r.revised artifact) tree
    · obtain ⟨-, message, diff, ended⟩ := apply_of_succeeds utf8 accepted all
      cases (Effect.endsAs_iff_of_ok ended _).mp isUnfixed
    · cases endsAs_error_of_not_succeeds accepted all isUnfixed
  · obtain ⟨-, message, diff, ended⟩ := @apply_of_not_accepts r tree artifact accepted
    exact iff_of_true ((Effect.endsAs_iff_of_ok ended _).mpr rfl) accepted

theorem tree_of_not_fixed (utf8 : r.replacement.encoding = "utf-8")
    (notFixed : ¬ (r.apply tree artifact).Fixed) : (r.apply tree artifact).tree = tree :=
  tree_of_not_written (mt (fixed_iff utf8).mpr notFixed)

theorem tree_of_fixed (utf8 : r.replacement.encoding = "utf-8")
    (isFixed : (r.apply tree artifact).Fixed) :
    (r.apply tree artifact).tree = r.replacement.replaced (r.revised artifact) tree := by
  obtain ⟨accepted, all⟩ := (fixed_iff utf8).mp isFixed
  exact (apply_of_succeeds utf8 accepted all).1

end Remedy.Remediation

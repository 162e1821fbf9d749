import Remedy.Proofs.Remediation

/-!
# Failures that come too late

The sizes of both texts are counted for the log after the file was replaced. A codec that wrote the
artifact and does not encode one of the texts fails there: the failure is reported although the file
holds the artifact (`Slips`). This is the one way in which a failure leaves a changed tree, and in
which a changed file is not reported as fixed. Of a character set it is the content before that is
beyond it.
-/

set_option autoImplicit false

namespace Remedy.Remediation

/-- Bringing an artifact into a file failed: with an outcome that says so, or with none. -/
def Effect.Fails (effect : Effect) : Prop :=
  effect.EndsAs .error ∨ ∃ error, effect.result = .error error

/-- The artifact is accepted and written, but the size of one of the texts cannot be told. -/
def Slips (r : Remediation) (tree : FileTree) (artifact : String) : Prop :=
  r.Accepts artifact ∧ r.replacement.Succeeds (r.revised artifact) tree ∧
    ¬ (r.Counts r.current ∧ r.Counts (r.revised artifact))

variable {r : Remediation} {tree : FileTree} {artifact : String}

theorem Effect.not_fails_of_fixed {effect : Effect} (isFixed : effect.Fixed) : ¬ effect.Fails := by
  obtain ⟨outcome, ended, kind⟩ := isFixed
  rintro (failed | ⟨error, failed⟩)
  · rw [Effect.endsAs_iff_of_ok ended, kind] at failed
    cases failed
  · rw [ended] at failed
    cases failed

/-! ## Sizes -/

theorem counts_iff {text : String} : r.Counts text ↔
    ∃ codec bytes, r.replacement.encoding.codec? = some codec ∧
      codec.encode text = .ok bytes := by
  simp only [Counts, byteCount]
  cases named : r.replacement.encoding.codec? with
  | none => simp
  | some codec => cases encoded : codec.encode text <;> simp [encoded]

theorem byteCount_of_not_counts {codec : Text.Codec}
    (named : r.replacement.encoding.codec? = some codec) {text : String}
    (beyond : ¬ r.Counts text) : ∃ fault, r.byteCount text = .error (.unencodable fault) := by
  simp only [byteCount, named]
  cases encoded : codec.encode text with
  | ok bytes => exact absurd (counts_iff.mpr ⟨codec, bytes, named, encoded⟩) beyond
  | error fault => exact ⟨fault, rfl⟩

theorem counts_charset_iff {charset : Text.Charset}
    (named : r.replacement.encoding.codec? = some charset.codec) {text : String} :
    r.Counts text ↔ ∀ c ∈ text.toList, charset.writes c = true := by
  simp only [counts_iff, named, Option.some.injEq, exists_and_left, exists_eq_left',
    Text.Charset.codec_encode, Text.Charset.encode_ok_iff]

theorem counts_revised {charset : Text.Charset}
    (named : r.replacement.encoding.codec? = some charset.codec)
    (all : r.replacement.Succeeds (r.revised artifact) tree) : r.Counts (r.revised artifact) := by
  obtain ⟨bytes, ⟨codec, namedToo, streamed⟩, -⟩ := Replacement.run_of_succeeds all
  cases named.symm.trans namedToo
  exact counts_iff.mpr ⟨_, bytes, named, streamed⟩

/-! ## Outcomes -/

theorem fixed_of_counts (accepted : r.Accepts artifact)
    (all : r.replacement.Succeeds (r.revised artifact) tree)
    (counts : r.Counts r.current ∧ r.Counts (r.revised artifact)) :
    (r.apply tree artifact).Fixed := by
  obtain ⟨bytes, -, ended⟩ := apply_eq_applied accepted all
  exact ⟨_, by rw [ended, (applied_of_counts counts.1 counts.2 _).2], rfl⟩

theorem result_of_slips (slips : r.Slips tree artifact) :
    ∃ fault, (r.apply tree artifact).result = .error (.unencodable fault) := by
  obtain ⟨accepted, all, uncounted⟩ := slips
  obtain ⟨bytes, ⟨codec, named, -⟩, ended⟩ := apply_eq_applied accepted all
  rw [ended]
  by_cases former : r.Counts r.current
  · obtain ⟨before, counted⟩ := id former
    obtain ⟨fault, beyond⟩ := byteCount_of_not_counts named (not_and.mp uncounted former)
    exact ⟨fault, by simp only [applied, counted, beyond]⟩
  · obtain ⟨fault, beyond⟩ := byteCount_of_not_counts named former
    exact ⟨fault, by simp only [applied, beyond]⟩

/-- A file is reported as fixed if it was written and both sizes can be told. -/
theorem fixed_iff_counts :
    (r.apply tree artifact).Fixed ↔
      r.Accepts artifact ∧ r.replacement.Succeeds (r.revised artifact) tree ∧
        r.Counts r.current ∧ r.Counts (r.revised artifact) := by
  refine ⟨fun isFixed => ?_, fun ⟨accepted, all, counts⟩ => fixed_of_counts accepted all counts⟩
  obtain ⟨accepted, all⟩ := written_of_fixed isFixed
  refine ⟨accepted, all, by_contra fun uncounted => ?_⟩
  obtain ⟨fault, failed⟩ := result_of_slips ⟨accepted, all, uncounted⟩
  exact Effect.not_fails_of_fixed isFixed (Or.inr ⟨_, failed⟩)

theorem tree_of_succeeds (accepted : r.Accepts artifact)
    (all : r.replacement.Succeeds (r.revised artifact) tree) :
    ∃ bytes, r.replacement.Streams (r.revised artifact) bytes ∧
      (r.apply tree artifact).tree = r.replacement.replacedWith tree bytes := by
  obtain ⟨bytes, streams, ended⟩ := apply_eq_applied accepted all
  refine ⟨bytes, streams, ?_⟩
  rw [ended, applied]
  split <;> rfl

/-- An artifact leaves the tree as it is, or is reported as written, or slips. -/
theorem apply_cases (r : Remediation) (tree : FileTree) (artifact : String) :
    (r.apply tree artifact).tree = tree ∨ (r.apply tree artifact).Fixed ∨
      r.Slips tree artifact := by
  by_cases written : r.Accepts artifact ∧ r.replacement.Succeeds (r.revised artifact) tree
  · by_cases counts : r.Counts r.current ∧ r.Counts (r.revised artifact)
    · exact Or.inr (Or.inl (fixed_of_counts written.1 written.2 counts))
    · exact Or.inr (Or.inr ⟨written.1, written.2, counts⟩)
  · exact Or.inl (tree_of_not_written written)

/-- With any codec a failure leaves the whole tree as it was, and a file that was replaced is
reported as fixed, unless the artifact slips: then a failure of the codec is reported and the file
holds the artifact with its line terminator. With a character set it slips exactly if it is written
over a content that the character set cannot write. -/
theorem apply_unchanged_or_fixed (r : Remediation) (tree : FileTree) (artifact : String) :
    ((r.apply tree artifact).Fails → ¬ r.Slips tree artifact →
      (r.apply tree artifact).tree = tree) ∧
    ((r.apply tree artifact).tree ≠ tree → ¬ r.Slips tree artifact →
      (r.apply tree artifact).Fixed) ∧
    (r.Slips tree artifact →
      ∃ fault, (r.apply tree artifact).result = .error (.unencodable fault)) ∧
    ((r.apply tree artifact).Fixed ↔
      r.Accepts artifact ∧ r.replacement.Succeeds (r.revised artifact) tree ∧
        r.Counts r.current ∧ r.Counts (r.revised artifact)) ∧
    (r.Accepts artifact → r.replacement.Succeeds (r.revised artifact) tree →
      (∃ bytes, r.replacement.Streams (r.revised artifact) bytes ∧
        (r.apply tree artifact).tree.find? r.replacement.place =
          some (.file bytes (r.replacement.modeAfter tree))) ∧
      ∀ other, other ≠ r.replacement.place →
        (r.apply tree artifact).tree.find? other = tree.find? other) ∧
    ∀ charset : Text.Charset, r.replacement.encoding.codec? = some charset.codec →
      (r.Slips tree artifact ↔
        r.Accepts artifact ∧ r.replacement.Succeeds (r.revised artifact) tree ∧
          ∃ c ∈ r.current.toList, charset.writes c = false) := by
  refine ⟨fun fails spared => ?_, fun changed spared => ?_, result_of_slips, fixed_iff_counts,
    fun accepted all => ?_, fun charset named => ?_⟩
  · obtain kept | isFixed | slips := apply_cases r tree artifact
    · exact kept
    · exact absurd fails (Effect.not_fails_of_fixed isFixed)
    · exact absurd slips spared
  · obtain kept | isFixed | slips := apply_cases r tree artifact
    · exact absurd kept changed
    · exact isFixed
    · exact absurd slips spared
  · obtain ⟨bytes, streams, treeEq⟩ := tree_of_succeeds accepted all
    rw [treeEq]
    exact ⟨⟨bytes, streams, Replacement.find?_replacedWith all bytes⟩,
      fun _ different => Replacement.find?_replacedWith_of_ne different bytes⟩
  · refine and_congr_right fun accepted => and_congr_right fun all => ?_
    rw [and_iff_left (counts_revised named all), counts_charset_iff named]
    simp

/-- An artifact beyond the character set of its file leaves the file alone. -/
theorem apply_unchanged_ascii :
    let r : Remediation := ⟨"a.js", "e\n", [.commandInjection], false,
      ⟨["work"], "a.js", "k", "ascii", fun _ => none⟩⟩
    let tree : FileTree := ⟨[(["work"], .directory),
      (["work", "a.js"], .file (Text.Utf8.encode "e\n") 0o644)]⟩
    (r.apply tree "é").Fails ∧ ¬ r.Slips tree "é" ∧ (r.apply tree "é").tree = tree := by
  intro r tree
  obtain ⟨unchanged, -, -, -, -, slips_iff⟩ := apply_unchanged_or_fixed r tree "é"
  have named : r.replacement.encoding.codec? = some Text.Charset.ascii.codec := by
    have known : Text.Charset.ofName? "ascii" = some .ascii := by
      decide
    exact congrArg (Option.map Text.Charset.codec) known
  have fails : (r.apply tree "é").Fails := Or.inl (Effect.endsAs_of_result (by decide))
  have spared : ¬ r.Slips tree "é" := by
    intro slips
    obtain ⟨c, member, beyond⟩ := ((slips_iff .ascii named).mp slips).2.2
    have writes : r.current.toList.all Text.Charset.ascii.writes = true := by
      decide
    rw [List.all_eq_true.mp writes c member] at beyond
    cases beyond
  exact ⟨fails, spared, unchanged fails spared⟩

/-- A letter of the content before that the character set does not know is enough: the file is
replaced, and a failure is reported. -/
theorem failure_after_replacement :
    let r : Remediation := ⟨"a.js", "é\n", [.commandInjection], false,
      ⟨["work"], "a.js", "k", "ascii", fun _ => none⟩⟩
    let tree : FileTree := ⟨[(["work"], .directory),
      (["work", "a.js"], .file (Text.Utf8.encode "é\n") 0o644)]⟩
    (r.apply tree "e").Fails ∧ (r.apply tree "e").tree ≠ tree ∧ ¬ (r.apply tree "e").Fixed ∧
      (r.apply tree "e").tree.find? ["work", "a.js"] =
        some (.file (Text.Utf8.encode "e\n") 0o644) := by
  intro r tree
  have held : (r.apply tree "e").tree.find? ["work", "a.js"] =
      some (.file (Text.Utf8.encode "e\n") 0o644) := by
    decide
  have changed : (r.apply tree "e").tree ≠ tree := by
    intro same
    rw [same] at held
    revert held
    decide
  have fails : (r.apply tree "e").Fails := by
    cases ended : (r.apply tree "e").result with
    | error error => exact Or.inr ⟨error, ended⟩
    | ok outcome =>
      have none : (r.apply tree "e").result.toOption = none := by
        decide
      rw [ended] at none
      cases none
  exact ⟨fails, changed, fun isFixed => Effect.not_fails_of_fixed isFixed fails, held⟩

end Remedy.Remediation

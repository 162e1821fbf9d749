import Remedy.Proofs.Detector.Standard
import Remedy.Proofs.Pattern.Folding
import Remedy.Proofs.Text.Parts

/-!
# Names of secrets

The detector reports a secret exactly if a fragment of one of the usual names stands anywhere in the
text, up to the case of its letters. Rules look at one line at a time, but no fragment holds a
boundary of lines, so that none is cut by one and nothing around a fragment can hide it.
-/

set_option autoImplicit false

namespace Remedy.Detector

open Pattern Text

def secretFragments : List String :=
  ["secret", "token", "apikey", "api_key", "api-key", "passwd", "password"]

/-- Whether a text, taken as one string without its case, has one of the fragments in it. -/
def NamesSecret (text : String) : Prop :=
  ∃ fragment ∈ secretFragments, fragment.toList <:+: text.toList.map foldCase

instance (text : String) : Decidable (NamesSecret text) :=
  inferInstanceAs (Decidable (∃ fragment ∈ secretFragments,
    fragment.toList <:+: text.toList.map foldCase))

/-! ## The patterns -/

theorem foldsTo_apiKey :
    FoldsTo (sequence [textAnyCase "api", optional (one (.oneOf ['_', '-'])), textAnyCase "key"])
      ["apikey".toList, "api_key".toList, "api-key".toList] := by
  have api : FoldsTo (textAnyCase "api") ["api".toList] := foldsTo_textAnyCase (by decide)
  have joint : FoldsTo (one (.oneOf ['_', '-'])) [['_'], ['-']] :=
    foldsTo_oneOf (by decide) (by decide)
  have key : FoldsTo (textAnyCase "key") ["key".toList] := foldsTo_textAnyCase (by decide)
  exact api.sequence_cons (joint.optional.sequence_cons (key.sequence_cons foldsTo_sequence_nil))

theorem foldsTo_password :
    FoldsTo (sequence [textAnyCase "passw", optional (textAnyCase "or"), textAnyCase "d"])
      ["passwd".toList, "password".toList] := by
  have front : FoldsTo (textAnyCase "passw") ["passw".toList] := foldsTo_textAnyCase (by decide)
  have middle : FoldsTo (textAnyCase "or") ["or".toList] := foldsTo_textAnyCase (by decide)
  have last : FoldsTo (textAnyCase "d") ["d".toList] := foldsTo_textAnyCase (by decide)
  exact front.sequence_cons
    (middle.optional.sequence_cons (last.sequence_cons foldsTo_sequence_nil))

theorem occurs_secretIdentifier_iff {line : String} :
    (∃ p ∈ Rule.secretIdentifier.patterns, p.Occurs line) ↔ NamesSecret line := by
  have secret : FoldsTo (textAnyCase "secret") ["secret".toList] := foldsTo_textAnyCase (by decide)
  have token : FoldsTo (textAnyCase "token") ["token".toList] := foldsTo_textAnyCase (by decide)
  simp only [Rule.secretIdentifier, NamesSecret, secretFragments, List.mem_cons, List.not_mem_nil,
    or_false, exists_eq_or_imp, exists_eq_left, secret.occurs_iff, token.occurs_iff,
    foldsTo_apiKey.occurs_iff, foldsTo_password.occurs_iff, or_assoc]

/-! ## Lines and the whole text -/

theorem foldCase_of_isLineEnd {c : Char} (ends : isLineEnd c = true) : foldCase c = c := by
  simp only [isLineEnd, Bool.or_eq_true, beq_iff_eq, or_assoc] at ends
  rcases ends with rfl | rfl | rfl | rfl | rfl | rfl | rfl | rfl | rfl | rfl <;> decide

/-- A text without boundaries stands in another one, up to case, just if it stands in a line. -/
theorem folded_infix_iff_exists_line {text : List Char} (notEmpty : text ≠ [])
    (plain : ∀ c ∈ text, isLineEnd c = false) (content : String) :
    text <:+: content.toList.map foldCase ↔
      ∃ line ∈ lines content, text <:+: line.toList.map foldCase := by
  have within {part : List Char} (folded : text = part.map foldCase) :
      part <:+: content.toList ↔ ∃ line ∈ lines content, part <:+: line.toList := by
    refine infix_iff_exists_line ?_ (fun c member => ?_) content
    · rintro rfl
      exact notEmpty folded
    · by_contra ends
      have kept := foldCase_of_isLineEnd (eq_true_of_ne_false ends)
      have among : c ∈ text := by
        rw [folded, ← kept]
        exact List.mem_map_of_mem member
      exact ends (plain c among)
  simp only [List.infix_map_iff]
  constructor
  · rintro ⟨part, inText, folded⟩
    obtain ⟨line, among, inLine⟩ := (within folded).mp inText
    exact ⟨line, among, part, inLine, folded⟩
  · rintro ⟨line, among, part, inLine, folded⟩
    exact ⟨part, (within folded).mpr ⟨line, among, inLine⟩, folded⟩

theorem namesSecret_iff_exists_line (content : String) :
    NamesSecret content ↔ ∃ line ∈ lines content, NamesSecret line := by
  have fragments : ∀ fragment ∈ secretFragments,
      fragment.toList ≠ [] ∧ fragment.toList.any isLineEnd = false := by
    decide
  constructor
  · rintro ⟨fragment, listed, inText⟩
    obtain ⟨notEmpty, plain⟩ := fragments fragment listed
    obtain ⟨line, among, inLine⟩ :=
      (folded_infix_iff_exists_line notEmpty (inside_of_any plain) content).mp inText
    exact ⟨line, among, fragment, listed, inLine⟩
  · rintro ⟨line, among, fragment, listed, inLine⟩
    obtain ⟨notEmpty, plain⟩ := fragments fragment listed
    exact ⟨fragment, listed,
      (folded_infix_iff_exists_line notEmpty (inside_of_any plain) content).mpr
        ⟨line, among, inLine⟩⟩

theorem NamesSecret.surrounded {text : String} (names : NamesSecret text) (before after : String) :
    NamesSecret (before ++ text ++ after) := by
  obtain ⟨fragment, listed, within⟩ := names
  refine ⟨fragment, listed, within.trans (List.IsInfix.map foldCase ?_)⟩
  rw [String.toList_append, String.toList_append]
  exact ⟨before.toList, after.toList, rfl⟩

theorem mem_categories_secretLike_iff {content filePath : String} :
    .secretLike ∈ ((standard []).detect content filePath).categories ↔ NamesSecret content := by
  have only : Rule.builtin.filter (fun rule => rule.category = .secretLike) =
      [.secretIdentifier] := by
    decide
  rw [mem_categories_standard_iff, only, namesSecret_iff_exists_line]
  simp only [List.mem_singleton, exists_eq_left, occurs_secretIdentifier_iff]

/-- A secret is reported exactly for the texts in which, taken as one string and without their case,
one of the fragments stands, and there is a finding for each line that has a fragment in it. Nothing
that stands before or behind a fragment hides it. -/
theorem detect_secrets (content filePath : String) :
    let verdict := (standard []).detect content filePath
    (.secretLike ∈ verdict.categories ↔ NamesSecret content) ∧
      (verdict.findings.filter fun finding => finding.ruleId = "SEC-SECRET-001").length =
        ((lines content).filter fun line => NamesSecret line).length ∧
      ∀ before after, NamesSecret content →
        .secretLike ∈ ((standard []).detect (before ++ content ++ after) filePath).categories := by
  intro verdict
  have listed : Rule.secretIdentifier ∈ Rule.builtin := by
    simp [Rule.builtin]
  refine ⟨mem_categories_secretLike_iff,
    length_findings_standard listed fun line _ => occurs_secretIdentifier_iff,
    fun before after names => ?_⟩
  exact mem_categories_secretLike_iff.mpr (names.surrounded before after)

/-- The long s and the sign for kelvin are letters as well, here in a comment over two lines. -/
theorem detect_secrets_beyond_ascii :
    NamesSecret "\u017fECRET, to\u212aEN" ∧
      .secretLike ∈ ((standard []).detect ("/* '" ++ "\u017fECRET, to\u212aEN" ++ "\r\n*/")
        "a.js").categories := by
  have names : NamesSecret "\u017fECRET, to\u212aEN" := by
    decide
  exact ⟨names, (detect_secrets "\u017fECRET, to\u212aEN" "a.js").2.2 "/* '" "\r\n*/" names⟩

end Remedy.Detector

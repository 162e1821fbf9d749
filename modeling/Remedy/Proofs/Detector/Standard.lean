import Remedy.Proofs.Detector.Restriction

/-!
# The detector of the rules that are always there

Without a restriction the detector runs every rule that is always there. It reports a category
exactly if a pattern of one of the category's rules occurs in a line of the text, and of one rule it
has as many findings as there are lines in which a pattern of the rule occurs.
-/

set_option autoImplicit false

namespace Remedy

theorem Rule.length_findingsFrom (rule : Rule) (filePath : String) (number : Nat)
    (lines : List String) :
    (rule.findingsFrom filePath number lines).length =
      (lines.filter fun line => (rule.firstMatch? line).isSome).length := by
  induction lines generalizing number with
  | nil => rfl
  | cons line rest ih =>
    rw [findingsFrom_cons, List.length_append, ih, finding?, List.filter_cons]
    cases rule.firstMatch? line with
    | none => simp
    | some found =>
      simp
      omega

namespace Detector

variable {content filePath : String} {rule : Rule}

theorem entries_builtin :
    RuleBook.builtin.entries = Rule.builtin.map fun rule => ⟨rule, true⟩ := by
  decide +kernel

theorem nodup_ids_builtin : RuleBook.builtin.ids.Nodup := by
  decide +kernel

theorem mem_entries_builtin_iff :
    ⟨rule, true⟩ ∈ RuleBook.builtin.entries ↔ rule ∈ Rule.builtin := by
  rw [entries_builtin, List.mem_map]
  constructor
  · rintro ⟨other, listed, same⟩
    cases same
    exact listed
  · intro listed
    exact ⟨rule, listed, rfl⟩

/-- A category is reported just if one of its rules has a pattern that occurs in a line. -/
theorem mem_categories_standard_iff {category : Category} :
    category ∈ ((standard []).detect content filePath).categories ↔
      ∃ rule ∈ Rule.builtin.filter fun rule => rule.category = category,
        ∃ line ∈ Text.lines content, ∃ p ∈ rule.patterns, p.Occurs line := by
  simp only [List.mem_filter, decide_eq_true_iff, and_assoc]
  rw [mem_categories_detect_iff]
  constructor
  · rintro ⟨finding, member, rfl⟩
    obtain ⟨-, rule, held, found⟩ := mem_findings_iff.mp member
    obtain ⟨n, line, at', shape⟩ := Rule.mem_findingsFrom_iff.mp found
    have matched : (rule.firstMatch? line).isSome = true := by
      rw [(Rule.finding?_eq_some shape).1]
      rfl
    exact ⟨rule, mem_entries_builtin_iff.mp held, (Rule.signed_of_mem_findings found).2.symm, line,
      List.mem_of_getElem? at', Rule.firstMatch?_isSome_iff.mp matched⟩
  · rintro ⟨rule, listed, rfl, line, among, occurs⟩
    obtain ⟨n, at'⟩ := List.getElem?_of_mem among
    obtain ⟨finding, found, -⟩ :=
      (Rule.exists_finding_iff rule filePath content n).mpr ⟨line, at', occurs⟩
    exact ⟨finding, mem_findings_iff.mpr
      ⟨Or.inl rfl, rule, mem_entries_builtin_iff.mpr listed, found⟩,
      (Rule.signed_of_mem_findings found).2⟩

theorem findings_standard_of_rule (listed : rule ∈ Rule.builtin) :
    ((standard []).detect content filePath).findings.filter
        (fun finding => finding.ruleId = rule.id) = rule.findings filePath content := by
  have found : RuleBook.builtin.find? rule.id = some ⟨rule, true⟩ :=
    (RuleBook.find?_eq_some_iff nodup_ids_builtin).mpr ⟨mem_entries_builtin_iff.mpr listed, rfl⟩
  have switchedOn : (RuleBook.builtin.find? rule.id).any (fun entry => entry.enabled) = true := by
    rw [found]
    rfl
  refine (findings_of_own nodup_ids_builtin rule.id).trans ?_
  rw [if_pos switchedOn, findingsOf_of_find? found]
  exact if_pos rfl

/-- A rule has one finding for each line in which one of its patterns occurs. -/
theorem length_findings_standard (listed : rule ∈ Rule.builtin) {Holds : String → Prop}
    [DecidablePred Holds]
    (holds : ∀ line ∈ Text.lines content, (∃ p ∈ rule.patterns, p.Occurs line) ↔ Holds line) :
    (((standard []).detect content filePath).findings.filter
        fun finding => finding.ruleId = rule.id).length =
      ((Text.lines content).filter fun line => Holds line).length := by
  rw [findings_standard_of_rule listed, Rule.findings, Rule.length_findingsFrom]
  refine congrArg List.length (List.filter_congr fun line among => ?_)
  rw [Bool.eq_iff_iff, Rule.firstMatch?_isSome_iff, holds line among, decide_eq_true_iff]

end Detector

end Remedy

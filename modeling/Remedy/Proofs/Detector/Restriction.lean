import Remedy.Proofs.Detector.Canonical

/-!
# Detectors of some categories, and rules switched on and off

What a detector finds is known by its members, so it is enough to say which findings are there.
Those of a detector of some categories are those of the unrestricted detector in these categories; a
rule that is switched brings or takes its own findings and leaves the others as they were.
-/

set_option autoImplicit false

namespace Remedy.Detector

variable {π : Type} [Searchable π] {book : RuleBook π} {categories : List Category}
  {content filePath : String}

/-! ## Categories -/

omit [Searchable π] in
theorem covers_iff {category : Category} :
    (Detector.mk book categories).covers category = true ↔
      categories = [] ∨ category ∈ categories := by
  simp [covers]

omit [Searchable π] in
theorem mem_rules_iff {rule : Rule π} :
    rule ∈ (Detector.mk book categories).rules ↔
      ⟨rule, true⟩ ∈ book.entries ∧ (categories = [] ∨ rule.category ∈ categories) := by
  rw [rules, List.mem_filter, RuleBook.mem_enabledRules_iff, covers_iff]

/-- The findings in a text are those of the rules that are switched on, in the categories that are
looked for. -/
theorem mem_findings_iff {finding : Finding} :
    finding ∈ ((Detector.mk book categories).detect content filePath).findings ↔
      (categories = [] ∨ finding.category ∈ categories) ∧
        ∃ rule, ⟨rule, true⟩ ∈ book.entries ∧ finding ∈ rule.findings filePath content := by
  rw [mem_findings_detect_iff]
  constructor
  · rintro ⟨rule, among, member⟩
    obtain ⟨held, covered⟩ := mem_rules_iff.mp among
    rw [(Rule.signed_of_mem_findings member).2]
    exact ⟨covered, rule, held, member⟩
  · rintro ⟨covered, rule, held, member⟩
    rw [(Rule.signed_of_mem_findings member).2] at covered
    exact ⟨rule, mem_rules_iff.mpr ⟨held, covered⟩, member⟩

theorem findings_restricted (distinct : book.ids.Nodup) (restricted : categories ≠ []) :
    ((Detector.mk book categories).detect content filePath).findings =
      ((Detector.mk book []).detect content filePath).findings.filter
        fun finding => finding.category ∈ categories := by
  refine findings_eq_of_mem_iff distinct ((pairwise_precedes_findings distinct).filter _)
    fun finding => ?_
  simp [mem_findings_iff, restricted, and_comm]

theorem detect_all (book : RuleBook π) (content filePath : String) :
    (Detector.mk book Category.all).detect content filePath =
      (Detector.mk book []).detect content filePath := by
  have rules : (Detector.mk book Category.all).rules = (Detector.mk book []).rules := by
    refine List.filter_congr fun rule _ => ?_
    cases rule.category <;> rfl
  rw [detect, detect, rules]

theorem mem_categories_append_iff {more : List Category} (restricted : categories ≠ [])
    (restricted' : more ≠ []) {category : Category} :
    category ∈ ((Detector.mk book (categories ++ more)).detect content filePath).categories ↔
      category ∈ ((Detector.mk book categories).detect content filePath).categories ∨
        category ∈ ((Detector.mk book more).detect content filePath).categories := by
  have both : categories ++ more ≠ [] := by simp [restricted]
  simp only [mem_categories_detect_iff, mem_findings_iff, both, restricted, restricted', false_or,
    List.mem_append, or_and_right, exists_or]

/-! ## Switches -/

/-- What the rule of an id finds in a text when it is switched on. -/
def findingsOf (detector : Detector π) (id content filePath : String) : List Finding :=
  match detector.book.find? id with
  | none => []
  | some entry =>
    if detector.covers entry.rule.category then entry.rule.findings filePath content else []

theorem findingsOf_of_find? {id : String} {entry : RuleEntry π}
    (found : book.find? id = some entry) :
    (Detector.mk book categories).findingsOf id content filePath =
      if (Detector.mk book categories).covers entry.rule.category then
        entry.rule.findings filePath content else [] := by
  simp only [findingsOf, found]

theorem mem_findingsOf_iff (distinct : book.ids.Nodup) {id : String} {finding : Finding} :
    finding ∈ (Detector.mk book categories).findingsOf id content filePath ↔
      (categories = [] ∨ finding.category ∈ categories) ∧
        ∃ entry ∈ book.entries, entry.rule.id = id ∧
          finding ∈ entry.rule.findings filePath content := by
  constructor
  · intro member
    cases found : book.find? id with
    | none => simp [findingsOf, found] at member
    | some entry =>
      rw [findingsOf_of_find? found] at member
      obtain ⟨held, named⟩ := (RuleBook.find?_eq_some_iff distinct).mp found
      split at member
      · next covered =>
        rw [(Rule.signed_of_mem_findings member).2]
        exact ⟨covers_iff.mp covered, entry, held, named, member⟩
      · cases member
  · rintro ⟨looked, entry, held, named, member⟩
    rw [(Rule.signed_of_mem_findings member).2] at looked
    have covered : (Detector.mk book categories).covers entry.rule.category = true :=
      covers_iff.mpr looked
    rw [findingsOf_of_find? ((RuleBook.find?_eq_some_iff distinct).mpr ⟨held, named⟩),
      if_pos covered]
    exact member

theorem pairwise_findingsOf (detector : Detector π) (id content filePath : String) :
    (detector.findingsOf id content filePath).Pairwise Finding.Precedes := by
  unfold findingsOf
  split
  · exact List.Pairwise.nil
  · split
    · exact (Rule.pairwise_findingsFrom _ filePath 1 _).imp Or.inl
    · exact List.Pairwise.nil

/-- With a rule switched, the others find what they found, and the rule what it finds when it is
switched on, or nothing. -/
theorem mem_findings_setEnabled_iff (distinct : book.ids.Nodup) {id : String} {on : Bool}
    {finding : Finding} :
    finding ∈ ((Detector.mk (book.setEnabled id on) categories).detect content
        filePath).findings ↔
      finding ∈ ((Detector.mk book categories).detect content filePath).findings ∧
          finding.ruleId ≠ id ∨
        on = true ∧ finding ∈ (Detector.mk book categories).findingsOf id content filePath := by
  simp only [mem_findings_iff, mem_findingsOf_iff distinct, RuleBook.mem_entries_setEnabled_iff]
  constructor
  · rintro ⟨covered, rule, ⟨held, other⟩ | ⟨same, switched, was, held⟩, member⟩
    · rw [← (Rule.signed_of_mem_findings member).1] at other
      exact Or.inl ⟨⟨covered, rule, held, member⟩, other⟩
    · exact Or.inr ⟨switched.symm, covered, _, held, same, member⟩
  · rintro (⟨⟨covered, rule, held, member⟩, other⟩ | ⟨rfl, covered, entry, held, named, member⟩)
    · rw [(Rule.signed_of_mem_findings member).1] at other
      exact ⟨covered, rule, Or.inl ⟨held, other⟩, member⟩
    · exact ⟨covered, entry.rule, Or.inr ⟨named, rfl, entry.enabled, held⟩, member⟩

theorem ruleId_of_mem_findingsOf (distinct : book.ids.Nodup) {id : String} {finding : Finding}
    (member : finding ∈ (Detector.mk book categories).findingsOf id content filePath) :
    finding.ruleId = id := by
  obtain ⟨-, entry, -, named, found⟩ := (mem_findingsOf_iff distinct).mp member
  rw [(Rule.signed_of_mem_findings found).1, named]

section Switched

variable (distinct : book.ids.Nodup) (id : String)

include distinct

theorem findings_switched_off :
    ((Detector.mk (book.setEnabled id false) categories).detect content filePath).findings =
      ((Detector.mk book categories).detect content filePath).findings.filter
        fun finding => finding.ruleId ≠ id := by
  refine findings_eq_of_mem_iff (by rwa [RuleBook.ids_setEnabled])
    ((pairwise_precedes_findings distinct).filter _) fun finding => ?_
  simp [mem_findings_setEnabled_iff distinct]

theorem findings_of_others_switched_on :
    ((Detector.mk (book.setEnabled id true) categories).detect content filePath).findings.filter
        (fun finding => finding.ruleId ≠ id) =
      ((Detector.mk book categories).detect content filePath).findings.filter
        fun finding => finding.ruleId ≠ id := by
  have distinct' : (book.setEnabled id true).ids.Nodup := by rwa [RuleBook.ids_setEnabled]
  refine ((pairwise_precedes_findings distinct').filter _).eq_of_mem_iff
    ((pairwise_precedes_findings distinct).filter _) fun finding => ?_
  simp only [List.mem_filter, mem_findings_setEnabled_iff distinct, decide_eq_true_eq]
  constructor
  · rintro ⟨⟨member, -⟩ | ⟨-, own⟩, other⟩
    · exact ⟨member, other⟩
    · exact absurd (ruleId_of_mem_findingsOf distinct own) other
  · rintro ⟨member, other⟩
    exact ⟨Or.inl ⟨member, other⟩, other⟩

theorem findings_of_own_switched_on :
    ((Detector.mk (book.setEnabled id true) categories).detect content filePath).findings.filter
        (fun finding => finding.ruleId = id) =
      (Detector.mk book categories).findingsOf id content filePath := by
  have distinct' : (book.setEnabled id true).ids.Nodup := by rwa [RuleBook.ids_setEnabled]
  refine ((pairwise_precedes_findings distinct').filter _).eq_of_mem_iff
    (pairwise_findingsOf _ id content filePath) fun finding => ?_
  simp only [List.mem_filter, mem_findings_setEnabled_iff distinct, decide_eq_true_eq, true_and]
  constructor
  · rintro ⟨⟨-, other⟩ | own, named⟩
    · exact absurd named other
    · exact own
  · intro own
    exact ⟨Or.inr own, ruleId_of_mem_findingsOf distinct own⟩

end Switched

theorem findings_of_own (distinct : book.ids.Nodup) (id : String) :
    ((Detector.mk book categories).detect content filePath).findings.filter
        (fun finding => finding.ruleId = id) =
      if (book.find? id).any (fun entry => entry.enabled) then
        (Detector.mk book categories).findingsOf id content filePath else [] := by
  have already {on : Bool} (as : ∀ entry, book.find? id = some entry → entry.enabled = on) :
      book.setEnabled id on = book := RuleBook.setEnabled_eq_self distinct as
  split
  · next switchedOn =>
    have enabled : ∀ entry, book.find? id = some entry → entry.enabled = true :=
      fun entry found => by simpa [found] using switchedOn
    rw [← findings_of_own_switched_on distinct id, already enabled]
  · next switchedOff =>
    have disabled : ∀ entry, book.find? id = some entry → entry.enabled = false :=
      fun entry found => by simpa [found] using switchedOff
    have others : ((Detector.mk book categories).detect content filePath).findings =
        ((Detector.mk book categories).detect content filePath).findings.filter
          fun finding => finding.ruleId ≠ id := by
      rw [← findings_switched_off distinct, already disabled]
    rw [others, List.filter_filter]
    simp

/-- Restricting a detector and switching rules act on its findings as one expects. Whatever was done
to a rule book: a detector of some categories finds what the unrestricted one finds in these, in the
same order, and to look for no category in particular is to look for all; two restrictions put
together find in the categories of both. Switching a rule off takes away its findings and no others,
switching it on leaves the others and gives the rule all its own. -/
theorem detect_restricted (history : List (Operation π)) (categories more : List Category)
    (content filePath : String) :
    let book := RuleBook.after history
    let verdict (book : RuleBook π) (categories : List Category) :=
      (Detector.mk book categories).detect content filePath
    (categories ≠ [] → (verdict book categories).findings =
        (verdict book []).findings.filter fun finding => finding.category ∈ categories) ∧
      verdict book [] = verdict book Category.all ∧
      (categories ≠ [] → more ≠ [] → ∀ category,
        category ∈ (verdict book (categories ++ more)).categories ↔
          category ∈ (verdict book categories).categories ∨
            category ∈ (verdict book more).categories) ∧
      ∀ id,
        let own := (Detector.mk book categories).findingsOf id content filePath
        let others := (verdict book categories).findings.filter fun finding => finding.ruleId ≠ id
        (verdict book categories).findings.filter (fun finding => finding.ruleId = id) =
            (if (book.find? id).any (fun entry => entry.enabled) then own else []) ∧
          (verdict (book.setEnabled id false) categories).findings = others ∧
          (verdict (book.setEnabled id true) categories).findings.filter
            (fun finding => finding.ruleId ≠ id) = others ∧
          (verdict (book.setEnabled id true) categories).findings.filter
            (fun finding => finding.ruleId = id) = own := by
  intro book verdict
  have distinct : book.ids.Nodup := (RuleBook.follows_after history).distinct
  refine ⟨findings_restricted distinct, (detect_all book content filePath).symm,
    fun restricted restricted' category => mem_categories_append_iff restricted restricted',
    fun id => ⟨findings_of_own distinct id, findings_switched_off distinct id,
      findings_of_others_switched_on distinct id, findings_of_own_switched_on distinct id⟩⟩

/-- Of a line that two rules look for, a detector of one category finds the call alone; with the
other category it also reports that one, and with the rule of the call off it finds nothing. -/
theorem detect_restricted_two_rules :
    let history : List Operation := [.register .shellExecution, .register .secretIdentifier]
    let verdict (book : RuleBook) (categories : List Category) :=
      (Detector.mk book categories).detect "exec(token)" "a.js"
    let calls : List Category := [.commandInjection]
    let secrets : List Category := [.secretLike]
    calls ≠ [] ∧ secrets ≠ [] ∧
      ((verdict (.after history) []).findings.filter fun finding =>
        finding.category ∈ calls).map Finding.matchedText = ["exec("] ∧
      Category.secretLike ∈ (verdict (.after history) (calls ++ secrets)).categories ∧
      (verdict ((RuleBook.after history).setEnabled "SEC-CMDI-001" false) calls).findings = [] := by
  intro history verdict calls secrets
  have restricted : calls ≠ [] := by
    decide
  have restricted' : secrets ≠ [] := by
    decide
  obtain ⟨chosen, -, union, switched⟩ :=
    detect_restricted history calls secrets "exec(token)" "a.js"
  have secret : Category.secretLike ∈ (verdict (.after history) secrets).categories := by
    decide +kernel
  refine ⟨restricted, restricted', ?_,
    (union restricted restricted' .secretLike).mpr (Or.inr secret), ?_⟩
  · rw [← chosen restricted]
    decide +kernel
  · rw [(switched "SEC-CMDI-001").2.1]
    decide +kernel

end Remedy.Detector

import Mathlib.Data.String.Basic
import Remedy.Proofs.Detector.Concatenation
import Remedy.Proofs.Rule.History

/-!
# Verdicts do not depend on the order of rules

The ids of a rule book are distinct and a rule has one finding a line at most, so no two findings of
a text have the same line and the same rule. Sorted, the findings are thus in a strict order, and a
list in a strict order is known by its members: two books with the same entries come to the same
verdict, whatever their order.
-/

set_option autoImplicit false

namespace Remedy

namespace Finding

def Precedes (a b : Finding) : Prop :=
  a.line < b.line ∨ a.line = b.line ∧ a.ruleId < b.ruleId

theorem Precedes.asymm {a b : Finding} (first : a.Precedes b) : ¬ b.Precedes a := by
  rintro (below | ⟨same, rules⟩)
  · rcases first with above | ⟨same, -⟩ <;> omega
  · rcases first with above | ⟨-, rules'⟩
    · omega
    · exact lt_asymm rules rules'

instance : Std.Irrefl Precedes where
  irrefl _ self := self.asymm self

instance : Std.Antisymm Precedes where
  antisymm _ _ first second := absurd second first.asymm

def Coincides (a b : Finding) : Prop :=
  a.line = b.line ∧ a.ruleId = b.ruleId

theorem Precedes.not_coincides {a b : Finding} (first : a.Precedes b) : ¬ a.Coincides b := by
  rintro ⟨sameLine, sameRule⟩
  rcases first with above | ⟨-, rules⟩
  · omega
  · exact lt_irrefl b.ruleId (sameRule ▸ rules)

theorem precedes_of_before {a b : Finding} (first : Detector.before a b = true)
    (apart : ¬ a.Coincides b) : a.Precedes b := by
  simp only [Detector.before, Bool.or_eq_true, Bool.and_eq_true, decide_eq_true_eq] at first
  rcases first with above | ⟨sameLine, rules⟩
  · exact Or.inl above
  · have different : a.ruleId ≠ b.ruleId := fun same => apart ⟨sameLine, same⟩
    exact Or.inr ⟨sameLine, lt_of_le_of_ne rules different⟩

theorem length_le_one {findings : List Finding} (strict : findings.Pairwise Precedes)
    (alike : ∀ a ∈ findings, ∀ b ∈ findings, a.Coincides b) : findings.length ≤ 1 := by
  rcases findings with _ | ⟨first, _ | ⟨second, rest⟩⟩
  · exact Nat.zero_le 1
  · exact Nat.le_refl 1
  · have later : second ∈ first :: second :: rest := List.mem_cons_of_mem _ (List.mem_cons_self ..)
    have ordered : first.Precedes second := List.rel_of_pairwise_cons strict (List.mem_cons_self ..)
    exact absurd (alike first (List.mem_cons_self ..) second later) ordered.not_coincides

end Finding

namespace Detector

variable {π : Type} [Searchable π] {detector : Detector π} {content filePath : String}

theorem mem_findings_detect_iff {finding : Finding} :
    finding ∈ (detector.detect content filePath).findings ↔
      ∃ rule ∈ detector.rules, finding ∈ rule.findings filePath content := by
  rw [detect, Verdict.ofFindings, List.mem_mergeSort, List.mem_flatMap]

theorem mem_categories_detect_iff {category : Category} :
    category ∈ (detector.detect content filePath).categories ↔
      ∃ finding ∈ (detector.detect content filePath).findings, finding.category = category :=
  Verdict.mem_categories_ofFindings

omit [Searchable π] in
theorem nodup_ids_rules (distinct : detector.book.ids.Nodup) :
    (detector.rules.map Rule.id).Nodup := by
  have part : (detector.rules.map Rule.id).Sublist detector.book.ids := by
    have rules := (List.filter_sublist (p := fun rule => detector.covers rule.category)).trans
      detector.book.enabledRules_sublist
    have named := rules.map Rule.id
    rwa [List.map_map] at named
  exact distinct.sublist part

theorem pairwise_not_coincides (distinct : detector.book.ids.Nodup) :
    (detector.rules.flatMap fun rule => rule.findings filePath content).Pairwise
      fun a b => ¬ a.Coincides b := by
  rw [List.pairwise_flatMap]
  constructor
  · intro rule _
    refine (Rule.pairwise_findingsFrom rule filePath 1 _).imp fun above same => ?_
    rw [same.1] at above
    exact lt_irrefl _ above
  · refine (List.pairwise_map.mp (nodup_ids_rules distinct)).imp fun different a inFirst b inSecond
      same => different ?_
    rw [← (Rule.signed_of_mem_findings inFirst).1, same.2,
      (Rule.signed_of_mem_findings inSecond).1]

theorem pairwise_precedes_findings (distinct : detector.book.ids.Nodup) :
    (detector.detect content filePath).findings.Pairwise Finding.Precedes := by
  have apart : ((detector.rules.flatMap fun rule => rule.findings filePath content).mergeSort
      before).Pairwise fun a b => ¬ a.Coincides b :=
    ((List.mergeSort_perm _ before).pairwise_iff fun other same =>
      other ⟨same.1.symm, same.2.symm⟩).mpr (pairwise_not_coincides distinct)
  exact ((List.pairwise_mergeSort before_trans before_total _).and apart).imp fun both =>
    Finding.precedes_of_before both.1 both.2

theorem length_coinciding_le_one (distinct : detector.book.ids.Nodup) (line : Int) (id : String) :
    ((detector.detect content filePath).findings.filter fun finding =>
      finding.line = line ∧ finding.ruleId = id).length ≤ 1 := by
  refine Finding.length_le_one ((pairwise_precedes_findings distinct).filter _) ?_
  simp only [List.mem_filter, decide_eq_true_eq]
  rintro a ⟨-, lineA, ruleA⟩ b ⟨-, lineB, ruleB⟩
  exact ⟨lineA.trans lineB.symm, ruleA.trans ruleB.symm⟩

/-- A list in a strict order is the list of findings if it has the same members. -/
theorem findings_eq_of_mem_iff {findings : List Finding} (distinct : detector.book.ids.Nodup)
    (strict : findings.Pairwise Finding.Precedes)
    (same : ∀ finding, finding ∈ (detector.detect content filePath).findings ↔
      finding ∈ findings) :
    (detector.detect content filePath).findings = findings :=
  (pairwise_precedes_findings distinct).eq_of_mem_iff strict same

omit [Searchable π] in
theorem mem_rules_congr {first second : RuleBook π} (distinct : first.ids.Nodup)
    (distinct' : second.ids.Nodup) (same : ∀ id, first.find? id = second.find? id)
    (categories : List Category) (rule : Rule π) :
    rule ∈ (Detector.mk first categories).rules ↔ rule ∈ (Detector.mk second categories).rules := by
  have entry : ⟨rule, true⟩ ∈ first.entries ↔ ⟨rule, true⟩ ∈ second.entries := by
    have found : first.find? rule.id = some ⟨rule, true⟩ ↔ ⟨rule, true⟩ ∈ first.entries := by
      rw [RuleBook.find?_eq_some_iff distinct, and_iff_left rfl]
    have found' : second.find? rule.id = some ⟨rule, true⟩ ↔ ⟨rule, true⟩ ∈ second.entries := by
      rw [RuleBook.find?_eq_some_iff distinct', and_iff_left rfl]
    rw [← found, ← found', same]
  simp only [rules, List.mem_filter, RuleBook.mem_enabledRules_iff, entry]
  rfl

/-- Verdicts are canonical. Whatever was done to a rule book, the findings of a text are what its
enabled rules find, in a strict order, so that there is one a line and rule at most; the categories
of the verdict are those of its findings, and it flags the file just if there is one. A book that
came by the same entries in another way comes to the same verdict. -/
theorem detect_canonical (history : List (Operation π)) (categories : List Category)
    (content filePath : String) :
    let detector : Detector π := ⟨.after history, categories⟩
    let verdict := detector.detect content filePath
    (∀ finding, finding ∈ verdict.findings ↔
        ∃ rule ∈ detector.rules, finding ∈ rule.findings filePath content) ∧
      verdict.findings.Pairwise Finding.Precedes ∧
      (∀ line id, (verdict.findings.filter fun finding =>
        finding.line = line ∧ finding.ruleId = id).length ≤ 1) ∧
      (∀ category, category ∈ verdict.categories ↔
        ∃ finding ∈ verdict.findings, finding.category = category) ∧
      (verdict.isFlagged = true ↔ verdict.findings ≠ []) ∧
      ∀ other : List (Operation π),
        (∀ id, (RuleBook.after history).find? id = (RuleBook.after other).find? id) →
        (Detector.mk (.after other) categories).detect content filePath = verdict := by
  intro detector verdict
  have distinct : detector.book.ids.Nodup := (RuleBook.follows_after history).distinct
  refine ⟨fun finding => mem_findings_detect_iff, pairwise_precedes_findings distinct,
    length_coinciding_le_one distinct, fun category => mem_categories_detect_iff, ?_, ?_⟩
  · have flagged : verdict.isFlagged = !verdict.findings.isEmpty :=
      Verdict.isFlagged_ofFindings filePath _
    rw [flagged]
    simp
  · intro other same
    have distinct' := (RuleBook.follows_after other).distinct
    have findings : ((Detector.mk (.after other) categories).detect content filePath).findings =
        verdict.findings := by
      refine findings_eq_of_mem_iff distinct' (pairwise_precedes_findings distinct)
        fun finding => ?_
      rw [mem_findings_detect_iff, mem_findings_detect_iff]
      refine exists_congr fun rule => and_congr_left fun _ => ?_
      exact (mem_rules_congr distinct distinct' same categories rule).symm
    exact congrArg (Verdict.ofFindings filePath) findings

/-- Registered the other way round, with one of the rules switched off and registered again, two
rules find the same in a line that both look for. -/
theorem detect_canonical_two_orders :
    let history : List Operation := [.register .shellExecution, .register .secretIdentifier]
    let other : List Operation := [.register .secretIdentifier, .register .shellExecution,
      .switch "SEC-SECRET-001" false, .register .secretIdentifier]
    (∀ id, (RuleBook.after history).find? id = (RuleBook.after other).find? id) ∧
      (Detector.mk (.after other) []).detect "exec(token)" "a.js" =
        (Detector.mk (.after history) []).detect "exec(token)" "a.js" ∧
      ((Detector.mk (.after history) []).detect "exec(token)" "a.js").findings.map
          (fun finding => (finding.line, finding.ruleId)) =
        [(1, "SEC-CMDI-001"), (1, "SEC-SECRET-001")] := by
  intro history other
  have entries : (RuleBook.after history).entries =
      [⟨.shellExecution, true⟩, ⟨.secretIdentifier, true⟩] := by
    decide
  have entries' : (RuleBook.after other).entries =
      [⟨.secretIdentifier, true⟩, ⟨.shellExecution, true⟩] := by
    decide
  have same : ∀ id, (RuleBook.after history).find? id = (RuleBook.after other).find? id := by
    intro id
    have apart : ¬ (Rule.shellExecution.id = id ∧ Rule.secretIdentifier.id = id) := by
      rintro ⟨rfl, twice⟩
      exact absurd twice (by decide)
    rw [RuleBook.find?, RuleBook.find?, entries, entries']
    by_cases first : Rule.shellExecution.id = id <;>
      by_cases second : Rule.secretIdentifier.id = id <;> simp_all
  have found : ((Detector.mk (.after history) []).rules.flatMap fun rule =>
      rule.findings "a.js" "exec(token)").map
        (fun finding => (finding.line, finding.ruleId)) =
      [(1, "SEC-CMDI-001"), (1, "SEC-SECRET-001")] := by
    decide
  have sorted : ((Detector.mk (.after history) []).rules.flatMap fun rule =>
      rule.findings "a.js" "exec(token)").Pairwise fun a b => before a b = true := by
    decide
  refine ⟨same, (detect_canonical history [] "exec(token)" "a.js").2.2.2.2.2 other same, ?_⟩
  rw [← found, detect, Verdict.ofFindings, List.mergeSort_of_pairwise sorted]

end Detector

end Remedy

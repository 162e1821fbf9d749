import Mathlib.Data.List.Sort
import Remedy.Proofs.Rule.Findings
import Remedy.Proofs.Text.Joining
import Remedy.Verdict

/-!
# Detection in texts put together

What is found in a text behind other lines is what is found in the text alone, further down. Rules
see one line at a time, and since sorting is stable and goes by lines first, the findings of the
first lines and those of the others are sorted each for themselves, whatever rules there are.
-/

set_option autoImplicit false

namespace Remedy

/-! ## Sorting in two parts -/

section Sorting

variable {α : Type} {le : α → α → Bool}

abbrev OrderOf (le : α → α → Bool) (a b : α) : Prop := le a b = true

theorem orderedInsert_of_le {a : α} {rest : List α} (above : ∀ b ∈ rest, le a b = true) :
    rest.orderedInsert (OrderOf le) a = a :: rest := by
  cases rest with
  | nil => rfl
  | cons b rest =>
    exact List.orderedInsert_cons_of_le (OrderOf le) rest (above b (List.mem_cons_self ..))

theorem orderedInsert_append_of_le {a : α} {first second : List α}
    (above : ∀ b ∈ second, le a b = true) :
    (first ++ second).orderedInsert (OrderOf le) a =
      first.orderedInsert (OrderOf le) a ++ second := by
  induction first with
  | nil => exact orderedInsert_of_le above
  | cons b rest ih =>
    rw [List.cons_append, List.orderedInsert_cons, List.orderedInsert_cons, ih]
    split <;> rfl

theorem orderedInsert_append_of_not_le {a : α} {first second : List α}
    (below : ∀ b ∈ first, ¬ le a b = true) :
    (first ++ second).orderedInsert (OrderOf le) a =
      first ++ second.orderedInsert (OrderOf le) a := by
  induction first with
  | nil => rfl
  | cons b rest ih =>
    obtain ⟨here, later⟩ := List.forall_mem_cons.mp below
    rw [List.cons_append, List.orderedInsert_of_not_le (OrderOf le) _ here, ih later,
      List.cons_append]

variable (trans : ∀ a b c, le a b = true → le b c = true → le a c = true)
  (total : ∀ a b, (le a b || le b a) = true)

include trans total

/-- Sorting inserts the first element into the others, sorted, before its equals. -/
theorem mergeSort_cons_eq (a : α) (rest : List α) :
    (a :: rest).mergeSort le = (rest.mergeSort le).orderedInsert (OrderOf le) a := by
  obtain ⟨before, behind, sorted, others, less⟩ := List.mergeSort_cons trans total a rest
  have ordered := List.pairwise_mergeSort trans total (a :: rest)
  rw [sorted, List.pairwise_append, List.pairwise_cons] at ordered
  have notAbove (b : α) (among : b ∈ before) : ¬ le a b = true := by
    simpa using less b among
  rw [sorted, others, orderedInsert_append_of_not_le notAbove,
    orderedInsert_of_le ordered.2.1.1]

/-- Where some elements come before all others, both are sorted for themselves. -/
theorem mergeSort_eq_append {low : α → Bool}
    (apart : ∀ a b, low a = true → low b = false → le a b = true ∧ ¬ le b a = true)
    (elements : List α) :
    elements.mergeSort le =
      (elements.filter low).mergeSort le ++ (elements.filter fun a => !low a).mergeSort le := by
  induction elements with
  | nil => simp
  | cons a rest ih =>
    rw [mergeSort_cons_eq trans total, ih]
    cases isLow : low a with
    | true =>
      rw [List.filter_cons_of_pos isLow, List.filter_cons_of_neg (by simp [isLow]),
        mergeSort_cons_eq trans total, orderedInsert_append_of_le]
      intro b among
      have isHigh : low b = false := by
        simpa using (List.mem_filter.mp (List.mem_mergeSort.mp among)).2
      exact (apart a b isLow isHigh).1
    | false =>
      rw [List.filter_cons_of_neg (by simp [isLow]), List.filter_cons_of_pos (by simp [isLow]),
        mergeSort_cons_eq trans total, orderedInsert_append_of_not_le]
      intro b among
      have alsoLow : low b = true := (List.mem_filter.mp (List.mem_mergeSort.mp among)).2
      exact (apart b a alsoLow isLow).2

end Sorting

/-! ## Findings further down -/

def Finding.movedBy (lines : Nat) (finding : Finding) : Finding :=
  { finding with line := finding.line + lines }

theorem Rule.findingsFrom_add {π : Type} [Searchable π] (rule : Rule π) (filePath : String)
    (number distance : Nat)
    (lines : List String) :
    rule.findingsFrom filePath (number + distance) lines =
      (rule.findingsFrom filePath number lines).map (Finding.movedBy distance) := by
  induction lines generalizing number with
  | nil => rfl
  | cons line rest ih =>
    have moved : rule.finding? filePath line (number + distance) =
        (rule.finding? filePath line number).map (Finding.movedBy distance) := by
      rw [finding?, finding?, Option.map_map]
      rfl
    rw [findingsFrom_cons, findingsFrom_cons, List.map_append, moved, Nat.add_right_comm, ih]
    cases rule.finding? filePath line number <;> rfl

/-! ## Categories of findings -/

namespace Verdict

theorem mem_canonical_iff {category : Category} {categories : List Category} :
    category ∈ Category.canonical categories ↔ category ∈ categories := by
  have listed : category ∈ Category.reportOrder := by
    cases category <;> decide
  simp [Category.canonical, listed]

theorem mem_categories_ofFindings {filePath : String} {findings : List Finding}
    {category : Category} :
    category ∈ (ofFindings filePath findings).categories ↔
      ∃ finding ∈ findings, finding.category = category := by
  rw [ofFindings, mem_canonical_iff, List.mem_map]

theorem isFlagged_ofFindings (filePath : String) (findings : List Finding) :
    (ofFindings filePath findings).isFlagged = !findings.isEmpty := by
  rw [isFlagged, Bool.eq_iff_iff]
  cases findings with
  | nil => simp [ofFindings, Category.canonical]
  | cons finding rest =>
    have present := List.ne_nil_of_mem
      (mem_categories_ofFindings.mpr ⟨finding, List.mem_cons_self .., rfl⟩ :
        finding.category ∈ (ofFindings filePath (finding :: rest)).categories)
    simp [present]

end Verdict

namespace Detector

theorem before_trans (a b c : Finding) (first : before a b = true) (second : before b c = true) :
    before a c = true := by
  simp only [before, Bool.or_eq_true, Bool.and_eq_true, decide_eq_true_eq] at first second ⊢
  rcases first with above | ⟨same, rules⟩
  · left
    omega
  · rcases second with above | ⟨same', rules'⟩
    · left
      omega
    · exact Or.inr ⟨same.trans same', String.le_trans rules rules'⟩

theorem before_total (a b : Finding) : (before a b || before b a) = true := by
  simp only [before, Bool.or_eq_true, Bool.and_eq_true, decide_eq_true_eq]
  rcases Int.lt_trichotomy a.line b.line with above | same | below
  · exact Or.inl (Or.inl above)
  · rcases String.le_total a.ruleId b.ruleId with first | second
    · exact Or.inl (Or.inr ⟨same, first⟩)
    · exact Or.inr (Or.inr ⟨same.symm, second⟩)
  · exact Or.inr (Or.inl below)

theorem before_movedBy (distance : Nat) (a b : Finding) :
    before a b = before (a.movedBy distance) (b.movedBy distance) := by
  have above : a.line + distance < b.line + distance ↔ a.line < b.line := by omega
  have same : a.line + distance = b.line + distance ↔ a.line = b.line := by omega
  simp only [before, Finding.movedBy, above, same]
  rfl

variable {π : Type} [Searchable π]

def findingsIn (detector : Detector π) (filePath : String) (lines : List String) : List Finding :=
  (detector.rules.flatMap fun rule => rule.findingsFrom filePath 1 lines).mergeSort before

theorem detect_eq (detector : Detector π) (content filePath : String) :
    detector.detect content filePath =
      .ofFindings filePath (detector.findingsIn filePath (Text.lines content)) := rfl

theorem findingsIn_append (detector : Detector π) (filePath : String) (first second : List String) :
    detector.findingsIn filePath (first ++ second) =
      detector.findingsIn filePath first ++
        (detector.findingsIn filePath second).map (Finding.movedBy first.length) := by
  let low : Finding → Bool := fun finding => finding.line ≤ first.length
  have apart (a b : Finding) (isLow : low a = true) (isHigh : low b = false) :
      before a b = true ∧ ¬ before b a = true := by
    simp only [low, decide_eq_true_eq, decide_eq_false_iff_not] at isLow isHigh
    simp only [before, Bool.or_eq_true, Bool.and_eq_true, decide_eq_true_eq]
    omega
  have lows (rule : Rule π) : ∀ finding ∈ rule.findingsFrom filePath 1 first,
      low finding = true := by
    intro finding member
    have within := (Rule.line_of_mem_findingsFrom member).2
    simp only [low, decide_eq_true_eq]
    omega
  have highs (rule : Rule π) : ∀ finding ∈ rule.findingsFrom filePath (1 + first.length) second,
      low finding = false := by
    intro finding member
    have beyond := (Rule.line_of_mem_findingsFrom member).1
    simp only [low, decide_eq_false_iff_not]
    omega
  have lowPart (rule : Rule π) : (rule.findingsFrom filePath 1 (first ++ second)).filter low =
      rule.findingsFrom filePath 1 first := by
    rw [Rule.findingsFrom_append, List.filter_append, List.filter_eq_self.mpr (lows rule),
      List.filter_eq_nil_iff.mpr (by simpa using highs rule), List.append_nil]
  have highPart (rule : Rule π) :
      (rule.findingsFrom filePath 1 (first ++ second)).filter (fun finding => !low finding) =
        (rule.findingsFrom filePath 1 second).map (Finding.movedBy first.length) := by
    rw [Rule.findingsFrom_append, List.filter_append,
      List.filter_eq_nil_iff.mpr (by simpa using lows rule),
      List.filter_eq_self.mpr (by simpa using highs rule), List.nil_append,
      Rule.findingsFrom_add]
  rw [findingsIn, mergeSort_eq_append before_trans before_total apart, List.filter_flatMap,
    List.filter_flatMap]
  simp only [lowPart, highPart]
  rw [← List.map_flatMap, ← List.map_mergeSort fun a _ b _ => before_movedBy first.length a b]
  rfl

/-- Detection goes along with putting texts together. Behind a text that is empty or ends with a
line feed, every text has the findings that it has alone, as many lines further down as there are
before, and they follow the findings of the first text; the categories are those of both. No
finding is lost, neither to lines that come before nor to a line feed and lines that come
behind. -/
theorem detect_append (detector : Detector π) (filePath : String) {front : String}
    (aligned : front = "" ∨ ∃ text, front = text ++ "\n") (rest : String) :
    (detector.detect (front ++ rest) filePath).findings =
        (detector.detect front filePath).findings ++
          (detector.detect rest filePath).findings.map
            (Finding.movedBy (Text.lines front).length) ∧
      (∀ category, category ∈ (detector.detect (front ++ rest) filePath).categories ↔
        category ∈ (detector.detect front filePath).categories ∨
          category ∈ (detector.detect rest filePath).categories) ∧
      (detector.detect (front ++ rest) filePath).isFlagged =
        ((detector.detect front filePath).isFlagged || (detector.detect rest filePath).isFlagged) ∧
      ∀ content, (detector.detect content filePath).findings <+:
        (detector.detect (content ++ "\n" ++ rest) filePath).findings := by
  have found : detector.findingsIn filePath (Text.lines (front ++ rest)) =
      detector.findingsIn filePath (Text.lines front) ++
        (detector.findingsIn filePath (Text.lines rest)).map
          (Finding.movedBy (Text.lines front).length) := by
    rw [Text.lines_append aligned, findingsIn_append]
  simp only [detect_eq, Verdict.isFlagged_ofFindings, Verdict.mem_categories_ofFindings, found]
  refine ⟨rfl, fun category => ?_, ?_, fun content => ?_⟩
  · simp only [List.mem_append, List.mem_map, or_and_right, exists_or]
    refine or_congr_right ?_
    constructor
    · rintro ⟨-, ⟨finding, member, rfl⟩, rfl⟩
      exact ⟨finding, member, rfl⟩
    · rintro ⟨finding, member, rfl⟩
      exact ⟨_, ⟨finding, member, rfl⟩, rfl⟩
  · cases detector.findingsIn filePath (Text.lines front) <;> simp
  · obtain ⟨more, lines⟩ := Text.lines_prefix_append content rest
    rw [← lines, findingsIn_append]
    exact List.prefix_append _ _

/-- A call behind a first line is the call in the second line. -/
theorem detect_append_second_line :
    let first := ((Detector.standard []).detect "let a;\n" "a.js").findings
    let second := ((Detector.standard []).detect "exec(a)" "a.js").findings
    let both := ((Detector.standard []).detect "let a;\nexec(a)" "a.js").findings
    both = first ++ second.map (Finding.movedBy 1) ∧
      both.map (fun finding => (finding.line, finding.matchedText)) = [(2, "exec(")] := by
  intro first second both
  have aligned : "let a;\n" = "" ∨ ∃ text, "let a;\n" = text ++ "\n" :=
    Or.inr ⟨"let a;", by decide⟩
  refine ⟨((Detector.standard []).detect_append "a.js" aligned "exec(a)").1, ?_⟩
  decide +kernel

end Detector

end Remedy

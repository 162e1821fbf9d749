import Remedy.Proofs.Pattern.Matching
import Remedy.Rule.Builtin

/-!
# What a rule finds

A rule has a finding in a line exactly if one of its patterns occurs in the line, and then it has
one. The finding tells the first of the patterns that occur, and the occurrence that begins first.
The rules that are always there have patterns that match no empty text, so that their findings
always have something to show.
-/

set_option autoImplicit false

namespace Remedy.Rule

variable {filePath : String}

section Lines

variable {π : Type} [Searchable π] {rule : Rule π}

/-! ## One line -/

theorem finding?_eq_some {line : String} {number : Nat} {finding : Finding}
    (found : rule.finding? filePath line number = some finding) :
    rule.firstMatch? line = some finding.matchedText ∧
      finding = ⟨rule.id, rule.category, filePath, number, finding.matchedText,
        rule.description⟩ := by
  rw [finding?, Option.map_eq_some_iff] at found
  obtain ⟨text, matched, rfl⟩ := found
  exact ⟨matched, rfl⟩

/-! ## The lines of a text -/

theorem findingsFrom_cons (rule : Rule π) (filePath : String) (number : Nat) (line : String)
    (rest : List String) :
    rule.findingsFrom filePath number (line :: rest) =
      (rule.finding? filePath line number).toList ++
        rule.findingsFrom filePath (number + 1) rest := by
  rw [findingsFrom]
  cases rule.finding? filePath line number <;> rfl

theorem findingsFrom_append (rule : Rule π) (filePath : String) (number : Nat)
    (first second : List String) :
    rule.findingsFrom filePath number (first ++ second) =
      rule.findingsFrom filePath number first ++
        rule.findingsFrom filePath (number + first.length) second := by
  induction first generalizing number with
  | nil => rfl
  | cons line rest ih =>
    rw [List.cons_append, findingsFrom_cons, findingsFrom_cons, ih, List.append_assoc,
      List.length_cons, Nat.add_assoc, Nat.add_comm 1]

theorem mem_findingsFrom_iff {number : Nat} {lines : List String} {finding : Finding} :
    finding ∈ rule.findingsFrom filePath number lines ↔
      ∃ n line, lines[n]? = some line ∧
        rule.finding? filePath line (number + n) = some finding := by
  induction lines generalizing number with
  | nil => simp [findingsFrom]
  | cons line rest ih =>
    rw [findingsFrom_cons, List.mem_append, Option.mem_toList, ih]
    constructor
    · rintro (here | ⟨n, later, at', found⟩)
      · exact ⟨0, line, rfl, here⟩
      · exact ⟨n + 1, later, at', by rw [Nat.add_comm n, ← Nat.add_assoc, found]⟩
    · rintro ⟨n, later, at', found⟩
      cases n with
      | zero =>
        cases at'
        exact Or.inl found
      | succ n => exact Or.inr ⟨n, later, at', by rw [Nat.add_assoc, Nat.add_comm 1, found]⟩

theorem line_of_mem_findingsFrom {number : Nat} {lines : List String} {finding : Finding}
    (member : finding ∈ rule.findingsFrom filePath number lines) :
    (number : Int) ≤ finding.line ∧ finding.line < number + lines.length := by
  obtain ⟨n, line, at', found⟩ := mem_findingsFrom_iff.mp member
  have lineEq : finding.line = (number + n : Nat) := by rw [(finding?_eq_some found).2]
  have inside : n < lines.length := (List.getElem?_eq_some_iff.mp at').1
  omega

theorem pairwise_findingsFrom (rule : Rule π) (filePath : String) (number : Nat)
    (lines : List String) :
    (rule.findingsFrom filePath number lines).Pairwise fun a b => a.line < b.line := by
  induction lines generalizing number with
  | nil => exact List.Pairwise.nil
  | cons line rest ih =>
    rw [findingsFrom_cons, List.pairwise_append]
    refine ⟨by cases rule.finding? filePath line number <;> simp, ih _, ?_⟩
    intro first here second later
    have lineEq : first.line = number := by
      rw [(finding?_eq_some (Option.mem_toList.mp here)).2]
    have beyond := (line_of_mem_findingsFrom later).1
    omega

theorem signed_of_mem_findings {content : String} {finding : Finding}
    (member : finding ∈ rule.findings filePath content) :
    finding.ruleId = rule.id ∧ finding.category = rule.category := by
  obtain ⟨n, line, -, found⟩ := mem_findingsFrom_iff.mp member
  rw [(finding?_eq_some found).2]
  exact ⟨rfl, rfl⟩

end Lines

/-! ## Occurrences of patterns -/

section Occurrences

variable {rule : Rule}

theorem firstMatch?_isSome_iff {line : String} :
    (rule.firstMatch? line).isSome = true ↔ ∃ p ∈ rule.patterns, p.Occurs line := by
  rw [firstMatch?, List.findSome?_isSome_iff]
  refine exists_congr fun p => and_congr_right fun _ => ?_
  rw [Option.isSome_iff_ne_none, ne_eq, show Searchable.search? p line = p.search? line from rfl,
    Pattern.search?_eq_none_iff, Classical.not_not]

theorem firstMatch?_eq_some {line found : String} (matched : rule.firstMatch? line = some found) :
    ∃ earlier p later, rule.patterns = earlier ++ p :: later ∧
      (∀ q ∈ earlier, ¬ q.Occurs line) ∧ p.search? line = some found := by
  rw [firstMatch?, List.findSome?_eq_some_iff] at matched
  obtain ⟨earlier, p, later, split, searched, nothing⟩ := matched
  exact ⟨earlier, p, later, split,
    fun q among => Pattern.search?_eq_none_iff.mp (nothing q among), searched⟩

theorem exists_finding_iff (rule : Rule) (filePath content : String) (n : Nat) :
    (∃ finding ∈ rule.findings filePath content, finding.line = n + 1) ↔
      ∃ line, (Text.lines content)[n]? = some line ∧ ∃ p ∈ rule.patterns, p.Occurs line := by
  constructor
  · rintro ⟨finding, member, numbered⟩
    obtain ⟨m, line, at', found⟩ := mem_findingsFrom_iff.mp member
    obtain ⟨matched, shape⟩ := finding?_eq_some found
    have lineEq : finding.line = (1 + m : Nat) := by rw [shape]
    obtain rfl : m = n := by omega
    exact ⟨line, at', firstMatch?_isSome_iff.mp (by rw [matched]; rfl)⟩
  · rintro ⟨line, at', occurs⟩
    obtain ⟨text, matched⟩ := Option.isSome_iff_exists.mp (firstMatch?_isSome_iff.mpr occurs)
    have found : rule.finding? filePath line (1 + n) =
        some ⟨rule.id, rule.category, filePath, (1 + n : Nat), text, rule.description⟩ := by
      rw [finding?, matched]
      rfl
    refine ⟨_, mem_findingsFrom_iff.mpr ⟨n, line, at', found⟩, ?_⟩
    exact (Int.natCast_add 1 n).trans (Int.add_comm 1 n)

/-- A finding shows the leftmost occurrence of the first pattern that occurs in its line. -/
theorem occursAt_of_mem_findings {content : String} {finding : Finding}
    (member : finding ∈ rule.findings filePath content) :
    ∃ (n : Nat) (line : String), (Text.lines content)[n]? = some line ∧
      finding = ⟨rule.id, rule.category, filePath, n + 1, finding.matchedText,
        rule.description⟩ ∧
      ∃ earlier p later start, rule.patterns = earlier ++ p :: later ∧
        (∀ q ∈ earlier, ¬ q.Occurs line) ∧
        p.OccursAt none line.toList start finding.matchedText.toList ∧
        ∀ further part, p.OccursAt none line.toList further part → start ≤ further := by
  obtain ⟨n, line, at', found⟩ := mem_findingsFrom_iff.mp member
  obtain ⟨matched, shape⟩ := finding?_eq_some found
  obtain ⟨earlier, p, later, split, nothing, searched⟩ := firstMatch?_eq_some matched
  obtain ⟨start, occurs, first⟩ := Pattern.occursAt_of_search? searched
  rw [Int.natCast_add, Int.add_comm] at shape
  exact ⟨n, line, at', shape, earlier, p, later, start, split, nothing, occurs, first⟩

end Occurrences

/-! ## The rules that are always there -/

variable {rule : Rule}

theorem consumes_of_mem_builtin (listed : rule ∈ builtin) {p : Pattern}
    (member : p ∈ rule.patterns) : p.consumes = true := by
  have all : builtin.all (fun rule => rule.patterns.all Pattern.consumes) = true := by
    decide
  exact List.all_eq_true.mp (List.all_eq_true.mp all rule listed) p member

/-- A rule that is always there has findings exactly in the lines in which one of its patterns
occurs, and one in each of them. The text of a finding is an occurrence of the first listed pattern
that occurs in the line; no occurrence of this pattern begins further to the left; and the text is
a part of the line that is not empty. -/
theorem findings_builtin (listed : rule ∈ builtin) (filePath content : String) :
    (∀ n : Nat,
      (∃ finding ∈ rule.findings filePath content, finding.line = n + 1) ↔
        ∃ line, (Text.lines content)[n]? = some line ∧ ∃ p ∈ rule.patterns, p.Occurs line) ∧
    (rule.findings filePath content).Pairwise (fun a b => a.line < b.line) ∧
    ∀ finding ∈ rule.findings filePath content,
      ∃ (n : Nat) (line : String), (Text.lines content)[n]? = some line ∧
        finding = ⟨rule.id, rule.category, filePath, n + 1, finding.matchedText,
          rule.description⟩ ∧
        finding.matchedText ≠ "" ∧ finding.matchedText.toList <:+: line.toList ∧
        ∃ earlier p later start, rule.patterns = earlier ++ p :: later ∧
          (∀ q ∈ earlier, ¬ q.Occurs line) ∧
          p.OccursAt none line.toList start finding.matchedText.toList ∧
          ∀ further part, p.OccursAt none line.toList further part → start ≤ further := by
  refine ⟨exists_finding_iff rule filePath content, pairwise_findingsFrom rule filePath 1 _, ?_⟩
  intro finding member
  obtain ⟨n, line, at', shape, earlier, p, later, start, split, nothing, occurs, first⟩ :=
    occursAt_of_mem_findings member
  have consumes : p.consumes = true := by
    refine consumes_of_mem_builtin listed ?_
    rw [split]
    exact List.mem_append_right _ (List.mem_cons_self ..)
  have shown : finding.matchedText ≠ "" := by
    intro empty
    exact occurs.ne_nil consumes (by rw [empty]; rfl)
  exact ⟨n, line, at', shape, shown, occurs.isInfix, earlier, p, later, start, split, nothing,
    occurs, first⟩

/-- A name that only begins like a call does not count, the call in the next line does. -/
theorem findings_builtin_second_line :
    shellExecution ∈ builtin ∧
      (∀ p ∈ shellExecution.patterns, ¬ p.Occurs "executor(\"ls\")") ∧
      ∃ p ∈ shellExecution.patterns, p.Occurs "return execSync (\"ls\")" := by
  have listed : shellExecution ∈ builtin := by
    simp [builtin]
  obtain ⟨located, -, -⟩ :=
    findings_builtin listed "a.js" "executor(\"ls\")\nreturn execSync (\"ls\")"
  have numbers : (shellExecution.findings "a.js"
      "executor(\"ls\")\nreturn execSync (\"ls\")").map Finding.line = [2] := by
    decide
  have lines : Text.lines "executor(\"ls\")\nreturn execSync (\"ls\")" =
      ["executor(\"ls\")", "return execSync (\"ls\")"] := by
    decide
  refine ⟨listed, fun p among occurs => ?_, ?_⟩
  · obtain ⟨finding, member, first⟩ :=
      (located 0).mpr ⟨_, by rw [lines]; rfl, p, among, occurs⟩
    have numbered := List.mem_map_of_mem (f := Finding.line) member
    rw [numbers, first] at numbered
    simp at numbered
  · have second : (2 : Int) ∈ (shellExecution.findings "a.js"
        "executor(\"ls\")\nreturn execSync (\"ls\")").map Finding.line := by
      rw [numbers]
      exact List.mem_singleton_self 2
    obtain ⟨finding, member, numbered⟩ := List.mem_map.mp second
    obtain ⟨line, at', occurs⟩ := (located 1).mp ⟨finding, member, numbered⟩
    rw [lines] at at'
    cases at'
    exact occurs

end Remedy.Rule

import Mathlib.Data.List.Infix
import Remedy.Proofs.Detector.Standard
import Remedy.Proofs.Pattern.Language
import Remedy.Proofs.Text.Parts

/-!
# Template markers

A template marker is a dollar sign and an opening brace, and a closing brace somewhere behind them.
The detector sees every marker that has no boundary of lines within, wherever it stands. Rules look
at one line at a time, and a marker that is laid out over several lines is in none of them.
-/

set_option autoImplicit false

namespace Remedy.Detector

open Pattern Text

def markerOpening : List Char :=
  ['$', '\x7b']

/-- A text with a template marker: somewhere one is opened, and behind that a brace is closed. -/
def HoldsMarker (text : List Char) : Prop :=
  ∃ behind ∈ text.tails, markerOpening <+: behind ∧ '\x7d' ∈ behind

instance (text : List Char) : Decidable (HoldsMarker text) :=
  inferInstanceAs (Decidable (∃ behind ∈ text.tails, markerOpening <+: behind ∧ '\x7d' ∈ behind))

/-- A text with a template marker that no boundary of lines divides. -/
def HoldsMarkerInLine (text : List Char) : Prop :=
  ∃ inside, (∀ c ∈ inside, isLineEnd c = false) ∧ markerOpening ++ (inside ++ ['\x7d']) <:+: text

theorem exists_append_mem_tails {part text : List Char} (within : part <:+: text) :
    ∃ more, part ++ more ∈ text.tails := by
  obtain ⟨front, more, rfl⟩ := within
  refine ⟨more, ?_⟩
  rw [List.mem_tails, List.append_assoc front]
  exact List.suffix_append front _

theorem holdsMarker_of_infix {inside text : List Char}
    (within : markerOpening ++ (inside ++ ['\x7d']) <:+: text) : HoldsMarker text := by
  obtain ⟨more, among⟩ := exists_append_mem_tails within
  refine ⟨_, among, ?_, by simp⟩
  rw [List.append_assoc]
  exact List.prefix_append _ _

theorem holdsMarker_iff {text : List Char} :
    HoldsMarker text ↔
      ∃ inside, '\x7d' ∉ inside ∧ markerOpening ++ (inside ++ ['\x7d']) <:+: text := by
  constructor
  · rintro ⟨_, suffix, ⟨rest, rfl⟩, closed⟩
    have later : '\x7d' ∈ rest := by simpa [markerOpening] using closed
    obtain ⟨inside, more, rfl, first⟩ := List.eq_append_cons_of_mem later
    obtain ⟨front, rfl⟩ := (List.mem_tails _ _).mp suffix
    exact ⟨inside, first, front, more, by simp⟩
  · rintro ⟨inside, -, within⟩
    exact holdsMarker_of_infix within

theorem occurs_templateInterpolation_iff {line : String} :
    (∃ p ∈ Rule.templateInterpolation.patterns, p.Occurs line) ↔ HoldsMarker line.toList := by
  have reads (before : Option Char) (part after : List Char) :
      Matches (sequence [text "$\x7b", run (.noneOf ['\x7d']), text "\x7d"]) before part after ↔
        ∃ inside, '\x7d' ∉ inside ∧ part = markerOpening ++ (inside ++ ['\x7d']) := by
    simp only [matches_sequence_cons_iff, matches_sequence_nil_iff, matches_text_iff,
      matches_run_iff]
    constructor
    · rintro ⟨_, _, rfl, rfl, inside, _, rfl, members, _, _, rfl, rfl, rfl⟩
      refine ⟨inside, fun closed => ?_, rfl⟩
      cases members _ closed
    · rintro ⟨inside, first, rfl⟩
      refine ⟨_, _, rfl, rfl, inside, _, rfl, fun c member => ?_, _, [], rfl, rfl, rfl⟩
      have other : c ≠ '\x7d' := fun same => first (same ▸ member)
      simpa [CharClass.contains] using other
  simp only [Rule.templateInterpolation, List.mem_singleton, exists_eq_left]
  rw [occurs_iff_isInfix reads, holdsMarker_iff]
  constructor
  · rintro ⟨_, within, inside, first, rfl⟩
    exact ⟨inside, first, within⟩
  · rintro ⟨inside, first, within⟩
    exact ⟨_, within, inside, first, rfl⟩

theorem holdsMarkerInLine_iff_exists_line (content : String) :
    HoldsMarkerInLine content.toList ↔ ∃ line ∈ lines content, HoldsMarker line.toList := by
  have notEmpty (inside : List Char) : markerOpening ++ (inside ++ ['\x7d']) ≠ [] := by
    simp [markerOpening]
  constructor
  · rintro ⟨inside, plain, within⟩
    have opening : ∀ c ∈ markerOpening, isLineEnd c = false := inside_of_any rfl
    have boundless : ∀ c ∈ markerOpening ++ (inside ++ ['\x7d']), isLineEnd c = false := by
      intro c member
      rcases List.mem_append.mp member with first | later
      · exact opening c first
      · rcases List.mem_append.mp later with middle | last
        · exact plain c middle
        · obtain rfl := List.mem_singleton.mp last
          rfl
    obtain ⟨line, among, found⟩ :=
      (infix_iff_exists_line (notEmpty inside) boundless content).mp within
    exact ⟨line, among, holdsMarker_of_infix found⟩
  · rintro ⟨line, among, holds⟩
    obtain ⟨inside, -, found⟩ := holdsMarker_iff.mp holds
    have boundless : ∀ c ∈ markerOpening ++ (inside ++ ['\x7d']), isLineEnd c = false :=
      fun c member => inside_of_mem_lines among c (found.subset member)
    refine ⟨inside, fun c member => boundless c ?_, ?_⟩
    · exact List.mem_append_right _ (List.mem_append_left _ member)
    · exact (infix_iff_exists_line (notEmpty inside) boundless content).mpr ⟨line, among, found⟩

/-- Every template marker that no boundary of lines divides is reported, wherever it stands, and
there is a finding of its rule for each line that has a marker in it, and no other. -/
theorem detect_interpolation (content filePath : String) :
    let verdict := (standard []).detect content filePath
    (HoldsMarkerInLine content.toList → .commandInjection ∈ verdict.categories) ∧
      (verdict.findings.filter fun finding => finding.ruleId = "SEC-CMDI-002").length =
        ((lines content).filter fun line => HoldsMarker line.toList).length := by
  intro verdict
  have listed : Rule.templateInterpolation ∈ Rule.builtin := by
    simp [Rule.builtin]
  refine ⟨fun holds => ?_, length_findings_standard listed fun line _ =>
    occurs_templateInterpolation_iff⟩
  obtain ⟨line, among, inLine⟩ := (holdsMarkerInLine_iff_exists_line content).mp holds
  exact mem_categories_standard_iff.mpr ⟨.templateInterpolation,
    List.mem_filter.mpr ⟨listed, rfl⟩, line, among, occurs_templateInterpolation_iff.mpr inLine⟩

/-- White space other than a boundary does not divide a marker. -/
theorem detect_interpolation_second_line :
    HoldsMarkerInLine "// greet\r\n`hello $\x7b\tname \x7d`".toList ∧
      .commandInjection ∈ ((standard []).detect "// greet\r\n`hello $\x7b\tname \x7d`"
        "a.js").categories := by
  have holds : HoldsMarkerInLine "// greet\r\n`hello $\x7b\tname \x7d`".toList := by
    refine ⟨"\tname ".toList, inside_of_any rfl, ?_⟩
    decide
  exact ⟨holds, (detect_interpolation "// greet\r\n`hello $\x7b\tname \x7d`" "a.js").1 holds⟩

/-- A marker that is laid out over three lines is in none of them, and nothing is reported. -/
theorem marker_over_lines_missed :
    HoldsMarker "`hello $\x7b\n  name\n\x7d`".toList ∧
      .commandInjection ∉ ((standard []).detect "`hello $\x7b\n  name\n\x7d`"
        "a.js").categories := by
  decide +kernel

end Remedy.Detector

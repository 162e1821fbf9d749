import Remedy.Command.Scan
import Remedy.Proofs.Pipeline.File
import Remedy.Proofs.Text.Newlines

/-!
# What is found when files are only looked at

The command that only looks at files reads them with line feeds for all newlines, the pipeline as
they stand. Rules see nothing but lines, and lines are the same either way: with the same settings
both reach the same verdict on a file, down to the numbers of lines and the texts that matched, or
neither can read it.
-/

set_option autoImplicit false

namespace Remedy

/-! ## Rules see lines -/

theorem Rule.findings_congr (rule : Rule) (filePath : String) {first second : String}
    (same : Text.lines first = Text.lines second) :
    rule.findings filePath first = rule.findings filePath second := by
  rw [findings, findings, same]

theorem Detector.detect_congr (detector : Detector) (filePath : String) {first second : String}
    (same : Text.lines first = Text.lines second) :
    detector.detect first filePath = detector.detect second filePath := by
  have found : (fun rule : Rule => rule.findings filePath first) =
      fun rule : Rule => rule.findings filePath second := by
    funext rule
    exact rule.findings_congr filePath same
  rw [detect, detect, found]

theorem Detector.detect_unifyNewlines (detector : Detector) (content filePath : String) :
    detector.detect (Text.unifyNewlines content) filePath = detector.detect content filePath :=
  detector.detect_congr filePath (Text.lines_unifyNewlines content)

/-! ## The pipeline's side -/

namespace Pipeline

variable {σ : Type} {pipeline : Pipeline} {generate : Generator σ} {around : Surroundings}
  {path content : String} {state : RunState σ}

theorem ofSettings_eq_ok {settings : Settings} {root : String}
    (equipped : ofSettings settings root = .ok pipeline) :
    pipeline.root = root ∧ ∃ categories, settings.enabledCategories = .ok categories ∧
      pipeline.detector = .standard categories := by
  simp only [ofSettings] at equipped
  split at equipped
  · cases equipped
  · cases enabled : settings.enabledCategories with
    | error fault =>
      rw [enabled] at equipped
      cases equipped
    | ok categories =>
      rw [enabled] at equipped
      cases equipped
      exact ⟨rfl, categories, rfl, rfl⟩

theorem journal_prefix_contain (step : Step (RunState σ) FileOutcome) :
    step.journal <+: (contain path step).journal := by
  simp only [contain]
  split
  · exact List.prefix_append _ _
  · exact List.prefix_rfl

/-- The verdict on a flagged file is told before anything else, and then the file is asked
about. -/
theorem announcement_prefix_process
    (readable : state.tree.readText around.directory (pipeline.locationOf path) = .ok content)
    (flagged : (pipeline.detector.detect content path).isFlagged = true) :
    announcement (pipeline.detector.detect content path) (pipeline.promptOf path content) <+:
      (pipeline.process generate around path state).journal := by
  rw [process_of_flagged readable flagged]
  refine List.IsPrefix.trans ?_ (journal_prefix_contain _)
  rw [Step.after_journal, List.append_assoc]
  exact List.prefix_append _ _

end Pipeline

/-! ## The side of the command that only looks -/

namespace Command.ScanOptions

open Pipeline (EndsAs announcement)

variable {σ τ : Type} {options : ScanOptions} {detector : Detector} {session : Session σ}
  {tree : FileTree} {path : String}

theorem look_of_unreadable {error : FileError}
    (unreadable : tree.readText session.around.directory (Path.join options.common.root path) =
      .error error) (verdict : Verdict) :
    (options.look detector session tree path).2 ≠ .ok (some verdict) := by
  unfold look
  rw [FileTree.readLines, unreadable]
  cases error with
  | nulCharacter => exact nofun
  | system error => exact nofun
  | undecodable fault => exact nofun

theorem look_of_readable {content : String}
    (readable : tree.readText session.around.directory (Path.join options.common.root path) =
      .ok content) :
    options.look detector session tree path =
      (verdictJournal (detector.detect content path),
        .ok (some (detector.detect content path))) := by
  unfold look
  simp only [FileTree.readLines, readable, Except.map, Detector.detect_unifyNewlines]

/-- With the same settings a file that can be read has one verdict. The command that only looks at
files reports it, and the pipeline announces it and asks for a correction, or passes the file over
if nothing was found. A file that cannot be read has none for either. -/
theorem look_agrees_with_process {settings : Settings} {pipeline : Pipeline}
    (equipped : Pipeline.ofSettings settings options.common.root = .ok pipeline)
    (session : Session σ) (generate : Generator τ) (path : String) (state : RunState τ) :
    ∃ categories, settings.enabledCategories = .ok categories ∧
      ((∃ error,
          state.tree.readText session.around.directory (pipeline.locationOf path) = .error error ∧
          (∀ verdict, (options.look (.standard categories) session state.tree path).2 ≠
            .ok (some verdict)) ∧
          EndsAs path (pipeline.process generate session.around path state) .error) ∨
        ∃ content verdict,
          state.tree.readText session.around.directory (pipeline.locationOf path) = .ok content ∧
          (options.look (.standard categories) session state.tree path).2 = .ok (some verdict) ∧
          pipeline.detector.detect content path = verdict ∧
          (verdict.isFlagged = true →
            announcement verdict (pipeline.promptOf path content) <+:
              (pipeline.process generate session.around path state).journal) ∧
          (verdict.isFlagged = false →
            EndsAs path (pipeline.process generate session.around path state) .skipped)) := by
  obtain ⟨rooted, categories, enabled, standard⟩ := Pipeline.ofSettings_eq_ok equipped
  have location : pipeline.locationOf path = Path.join options.common.root path := by
    rw [Pipeline.locationOf, rooted]
  refine ⟨categories, enabled, ?_⟩
  cases read : state.tree.readText session.around.directory (pipeline.locationOf path) with
  | error error =>
    left
    refine ⟨error, rfl, ?_, (Pipeline.process_of_unreadable generate read).2⟩
    rw [location] at read
    exact look_of_unreadable read
  | ok content =>
    right
    refine ⟨content, pipeline.detector.detect content path, rfl, ?_, rfl,
      Pipeline.announcement_prefix_process read,
      fun unflagged => (Pipeline.process_of_unflagged read generate unflagged).2⟩
    rw [location] at read
    rw [look_of_readable read, standard]

/-- A lone carriage return and a pair end a line each: the call stands in the third line. -/
theorem look_agrees_with_process_third_line :
    let options : ScanOptions := ⟨⟨none, "", none, [], none, none, false, false, false⟩, [], false⟩
    let session : Session Unit := ⟨⟨[], "k", fun _ => none, .notInstalled⟩, [], false,
      fun _ state => (.interrupted, state)⟩
    let generate : Generator Unit := fun _ asked => Step.done asked none
    let pipeline : Pipeline := ⟨"", ⟨"", .str "main", .str "origin",
      ⟨Setting.texts [".js"], Setting.texts ["scripts/", "securityagent/"]⟩⟩,
      .standard [.secretLike, .sqlInjection, .xss, .commandInjection], false⟩
    let content := "let a;\r\r\nexec(x)\r"
    let state : RunState Unit :=
      ⟨.processing, ⟨[(["a.js"], .file (Text.Utf8.encode content) 0o644)]⟩, ()⟩
    Pipeline.ofSettings Settings.default options.common.root = .ok pipeline ∧
      ∃ categories verdict,
        (options.look (.standard categories) session state.tree "a.js").2 = .ok (some verdict) ∧
        (verdict.findings.map fun finding => (finding.line, finding.matchedText)) =
          [(3, "exec(")] ∧
        announcement verdict (pipeline.promptOf "a.js" content) <+:
          (pipeline.process generate session.around "a.js" state).journal := by
  intro options session generate pipeline content state
  have equipped : Pipeline.ofSettings Settings.default options.common.root = .ok pipeline := by
    rfl
  have readable : state.tree.readText session.around.directory (pipeline.locationOf "a.js") =
      .ok content := by
    decide
  have flagged : (pipeline.detector.detect content "a.js").isFlagged = true := by
    decide +kernel
  have found : ((pipeline.detector.detect content "a.js").findings.map fun finding =>
      (finding.line, finding.matchedText)) = [(3, "exec(")] := by
    decide +kernel
  refine ⟨equipped, ?_⟩
  obtain ⟨categories, -, ⟨error, unreadable, -⟩ | ⟨read, verdict, same, looked, rfl, told, -⟩⟩ :=
    look_agrees_with_process equipped session generate "a.js" state
  · rw [readable] at unreadable
    cases unreadable
  · rw [readable] at same
    cases same
    exact ⟨categories, _, looked, found, told flagged⟩

end Command.ScanOptions

end Remedy

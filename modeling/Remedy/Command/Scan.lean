import Remedy.Command.Session

/-!
The command that only looks at files. A file that cannot be read is passed over with a warning.
The exit status tells whether some file is flagged.
-/

namespace Remedy.Command

namespace ScanOptions

variable [Interpreter] {σ : Type}

def settings (options : ScanOptions) (session : Session σ) (tree : FileTree) :
    Except Fault Settings :=
  options.common.settingsBelow options.common.layer session tree

def walked (options : ScanOptions) (selection : Selection) (session : Session σ)
    (tree : FileTree) : Except Fault (List String) :=
  if options.common.root.toList.contains '\x00' then .error (.file .nulCharacter)
  else (selection.walk tree session.around.directory options.common.root).mapError .type

def changeSet (options : ScanOptions) (settings : Settings) (selection : Selection) : ChangeSet :=
  ⟨options.common.root, settings .baseRef, settings .remote, selection⟩

/-- The paths that are looked at: the change set, the selected ones of those that are named, or
all selected files. -/
def candidates (options : ScanOptions) (session : Session σ) (settings : Settings)
    (tree : FileTree) : Journal × Except Fault (List String) :=
  let selection : Selection := ⟨settings .extensions, settings .excludedPaths⟩
  if options.changed then
    match selection.check with
    | .error fault => ([], .error (.type fault))
    | .ok () =>
      let (journal, paths) :=
        (options.changeSet settings selection).resolve session.around.versionControl
      (journal, paths.mapError .type)
  else if options.paths.isEmpty then ([], options.walked selection session tree)
  else ([], (selection.select options.paths).mapError .type)

def verdictJournal (verdict : Verdict) : Journal :=
  verdict.journal ++
    (if verdict.isFlagged then [.info ("🚨 Vulnerability patterns in " ++ verdict.filePath)]
      else [])

/-- The verdict on the file of a path, unless the file cannot be read. A path that cannot be one is
a fault. -/
def look (options : ScanOptions) (detector : Detector) (session : Session σ) (tree : FileTree)
    (path : String) : Journal × Except Fault (Option Verdict) :=
  match tree.readLines session.around.directory (Path.join options.common.root path) with
  | .error .nulCharacter => ([], .error (.file .nulCharacter))
  | .error error =>
    ([.warning ("Skipping unreadable file " ++ path ++ ": " ++ error.message)], .ok none)
  | .ok content =>
    let verdict := detector.detect content path
    (verdictJournal verdict, .ok (some verdict))

def lookAtAll (options : ScanOptions) (detector : Detector) (session : Session σ)
    (tree : FileTree) : List String → Journal × Except Fault (List Verdict)
  | [] => ([], .ok [])
  | path :: rest =>
    match options.look detector session tree path with
    | (journal, .error fault) => (journal, .error fault)
    | (journal, .ok verdict) =>
      let (later, verdicts) := options.lookAtAll detector session tree rest
      (journal ++ later, verdicts.map (verdict.toList ++ ·))

def closing (verdicts : List Verdict) : Event × ExitStatus :=
  if verdicts.any Verdict.isFlagged then (.error "❌ Vulnerability patterns found.", .flagged)
  else (.info "✅ No vulnerability patterns found.", .clean)

def conclude (options : ScanOptions) (session : Session σ) (settings : Settings)
    (verdicts : List Verdict) (world : World σ) : Step (World σ) Conclusion :=
  (Step.attempt world (options.common.writer session settings)).andThen fun writer world =>
    (options.common.deliver session (writer.verdicts verdicts) world).andThen
      fun output world =>
        let (record, status) := closing verdicts
        (Step.done world ⟨output, status⟩).after [record]

def runWith (options : ScanOptions) (session : Session σ) (settings : Settings)
    (world : World σ) : Step (World σ) Conclusion :=
  (Step.attempt world settings.enabledCategories).andThen fun categories world =>
    let (chosen, paths) := options.candidates session settings world.tree
    ((Step.attempt world paths).after chosen).andThen fun paths world =>
      let (looked, verdicts) :=
        options.lookAtAll (.standard categories) session world.tree paths
      ((Step.attempt world verdicts).after looked).andThen (options.conclude session settings)

def run (options : ScanOptions) (session : Session σ) (world : World σ) :
    Step (World σ) Conclusion :=
  (Step.attempt world (options.settings session world.tree)).andThen
    (options.runWith session)

end ScanOptions

end Remedy.Command

import Remedy.Completion
import Remedy.Diff.Unified
import Remedy.FileTree.Replace
import Remedy.Journal
import Remedy.Outcome

/-!
Remediations. An artifact that is not empty and changes the file replaces its content in one step;
otherwise, and in a dry run, the file stays as it is. The outcome says which, and a log record
says the same.
-/

namespace Remedy

/-- What is needed to bring an artifact into a file: the file's spelling, how it is called in
reports, its content, the categories that were found in it, and the way it is replaced. -/
structure Remediation where
  label : String
  current : String
  categories : List Category
  dryRun : Bool
  replacement : Replacement

namespace Remediation

structure Effect where
  journal : Journal
  tree : FileTree
  result : Except ReplaceError FileOutcome

def outcome (r : Remediation) (result : FileResult) (message diff : String) : FileOutcome :=
  ⟨r.label, result, r.categories, message, diff⟩

def byteCount (r : Remediation) (text : String) : Except ReplaceError Nat :=
  match r.replacement.encoding.codec? with
  | none => .error (.unknownEncoding r.replacement.encoding.name)
  | some codec =>
    match codec.encode text with
    | .error fault => .error (.unencodable fault)
    | .ok bytes => .ok bytes.length

/-- Whether a failed replacement is an outcome of the file. An encoding that does not exist and a
path that cannot be one are the caller's mistakes. -/
def isFileFailure : ReplaceError → Bool
  | .unknownEncoding _ => false
  | .file .nulCharacter => false
  | _ => true

/-- The effect once the file holds the artifact; the sizes in the log may be beyond the
encoding. -/
def applied (r : Remediation) (tree : FileTree) (content diff : String) : Effect :=
  match r.byteCount r.current, r.byteCount content with
  | .error error, _ => ⟨[], tree, .error error⟩
  | _, .error error => ⟨[], tree, .error error⟩
  | .ok before, .ok after =>
    ⟨[.info ("✅ " ++ r.label ++ ": remediation applied (" ++ toString before ++ " -> " ++
      toString after ++ " bytes)")], tree,
      .ok (r.outcome .flaggedFixed "remediation applied" diff)⟩

def failed (r : Remediation) (tree : FileTree) (error : ReplaceError) (diff : String) : Effect :=
  if isFileFailure error then
    ⟨[.error ("❌ " ++ r.label ++ ": could not write remediation: " ++ error.message)], tree,
      .ok (r.outcome .error ("write failed: " ++ error.message) diff)⟩
  else ⟨[], tree, .error error⟩

def replace (r : Remediation) (tree : FileTree) (content : String) : Effect :=
  let diff := Diff.unified r.current content r.label
  if r.dryRun then
    ⟨[.info ("[DRY RUN] " ++ r.label ++ ": remediation available, not written\n" ++ diff)], tree,
      .ok (r.outcome .flaggedUnfixed "dry run" diff)⟩
  else
    match r.replacement.run content tree with
    | (tree, .error error) => r.failed tree error diff
    | (tree, .ok ()) => r.applied tree content diff

def apply (r : Remediation) (tree : FileTree) (artifact : String) : Effect :=
  if artifact = "" then
    ⟨[.warning ("⚠ " ++ r.label ++ ": AI returned an empty artifact; file left unchanged")], tree,
      .ok (r.outcome .flaggedUnfixed "empty artifact" "")⟩
  else
    let content := Completion.restoreEnding r.current artifact
    if content = r.current then
      ⟨[.warning ("⚠ " ++ r.label ++ ": AI returned the original content unchanged")], tree,
        .ok (r.outcome .flaggedUnfixed "artifact identical to original" "")⟩
    else r.replace tree content

end Remediation

end Remedy

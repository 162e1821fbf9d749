import Remedy.Journal
import Remedy.Selection
import Remedy.Text.Lines

/-!
Change sets: the files that differ between the base reference and the head, as version control
names them and as far as they are selected. When version control cannot name them the change set
is empty and a warning says why.
-/

namespace Remedy

/-- What version control answers when it is asked for the names of changed files. -/
inductive DiffAnswer where
  | names (output : String)
  | noRepository (text : String)
  | notInstalled
  | failed (status : Int)
  deriving Repr, DecidableEq

/-- What a change set is asked for: a repository, the reference to compare with, and which of the
changed files matter. -/
structure ChangeSet where
  root : String
  baseRef : Value
  remote : Value
  selection : Selection
  deriving Repr

namespace ChangeSet

/-- The range of commits whose changes count: all since the head left the base. -/
def range (changes : ChangeSet) : String :=
  (if changes.remote.truthy then changes.remote.shown ++ "/" ++ changes.baseRef.shown
    else changes.baseRef.shown) ++ "...HEAD"

def diffArguments (changes : ChangeSet) : List String :=
  ["--name-only", "--diff-filter=d", changes.range]

def resolve (changes : ChangeSet) (answer : DiffAnswer) :
    Journal × Except TypeFault (List String) :=
  let opened := Event.consult [changes.root]
  let asked := Event.consult changes.diffArguments
  match answer with
  | .noRepository text =>
    ([opened, .warning ("Not a git repository (" ++ text ++ "); no changed files")], .ok [])
  | .notInstalled => ([opened, .warning "git executable not found; no changed files"], .ok [])
  | .failed status =>
    ([opened, asked, .warning ("git diff against " ++ changes.range ++ " failed (exit " ++
      toString status ++ "); no changed files")], .ok [])
  | .names output =>
    match changes.selection.select (Text.lines output) with
    | .error fault => ([opened, asked], .error fault)
    | .ok paths =>
      ([opened, asked, .info ("Resolved " ++ toString paths.length ++
        " changed file(s) against " ++ changes.range)], .ok paths)

end ChangeSet

end Remedy

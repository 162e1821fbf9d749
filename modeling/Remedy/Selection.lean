import Remedy.FileTree.Basic
import Remedy.PathFilter
import Remedy.SourceWalk
import Remedy.Value

/-!
Selections: path filters as settings give them. What settings give need not be lists of texts, so
selecting may meet a value of another type; it does so only at a path for which the value counts.
On lists of texts a selection is a path filter.
-/

namespace Remedy

structure Selection where
  extensions : Value
  excluded : Value
  deriving Repr

namespace Selection

def ofFilter (filter : PathFilter) : Selection :=
  ⟨.list (filter.extensions.map .str), .list (filter.excluded.map .str)⟩

def endsInOne (path : String) : List Value → Except TypeFault Bool
  | [] => .ok false
  | .str ending :: rest =>
    if PathFilter.endsIn path ending then .ok true else endsInOne path rest
  | v :: _ => .error (.suffixItem v.typeName)

/-- Whether a path begins with one of the members of a list, tried in order. -/
def beginsWithOne (path : String) : List Value → Except TypeFault Bool
  | [] => .ok false
  | .str start :: rest =>
    if PathFilter.beginsWith path start then .ok true else beginsWithOne path rest
  | v :: _ => .error (.startArgument v.typeName)

def hasExtension (selection : Selection) (name : String) : Except TypeFault Bool :=
  match selection.extensions.members with
  | .error fault => .error fault
  | .ok endings => endsInOne name endings

def excludes (selection : Selection) (path : String) : Except TypeFault Bool :=
  match selection.excluded.members with
  | .error fault => .error fault
  | .ok starts => beginsWithOne path starts

/-- Whether a path is selected whose name, or the path itself, has to have an extension. -/
def keepsNamed (selection : Selection) (path name : String) : Except TypeFault Bool :=
  match selection.hasExtension name with
  | .error fault => .error fault
  | .ok false => .ok false
  | .ok true => (selection.excludes path).map (!·)

/-- The members of a list that are selected and do not stand in `seen`, each once. -/
def selectFrom (selection : Selection) (seen : List String) :
    List String → Except TypeFault (List String)
  | [] => .ok []
  | path :: rest =>
    if path = "" || seen.contains path then selection.selectFrom seen rest
    else
      match selection.keepsNamed path path with
      | .error fault => .error fault
      | .ok false => selection.selectFrom seen rest
      | .ok true => (selection.selectFrom (path :: seen) rest).map (path :: ·)

def select (selection : Selection) (raw : List String) : Except TypeFault (List String) :=
  selection.selectFrom [] (raw.map PathFilter.normalize)

def selectFiles (selection : Selection) : List Path → Except TypeFault (List String)
  | [] => .ok []
  | path :: rest =>
    let listed := SourceWalk.listed path
    match selection.keepsNamed listed (path.getLast?.getD "") with
    | .error fault => .error fault
    | .ok false => selection.selectFiles rest
    | .ok true => (selection.selectFiles rest).map (listed :: ·)

def walk (selection : Selection) (tree : FileTree) (directory : Path) (root : String) :
    Except TypeFault (List String) :=
  match selection.extensions.members with
  | .error fault => .error fault
  | .ok _ => selection.selectFiles (SourceWalk.candidates tree directory root)

/-- What is wrong with a selection whichever paths are selected from: a part that has no
members. -/
def check (selection : Selection) : Except TypeFault Unit :=
  match selection.extensions.members with
  | .error fault => .error fault
  | .ok _ => selection.excluded.members.map fun _ => ()

end Selection

end Remedy

import Remedy.FileTree.Access
import Remedy.Text.Charset

/-!
Atomic replacement of a file. The new content goes into a temporary file beside the target, which
then takes the target's permission bits and its place; whatever fails on the way, the temporary
file is taken away again and the target is as before. A temporary file never takes the place of
anything that is there.
-/

namespace Remedy

inductive ReplaceStep where
  | create
  | write
  | sync
  | copyMode
  | rename
  deriving Repr, DecidableEq

inductive ReplaceError where
  | file (error : FileError)
  | unknownEncoding (name : String)
  | unencodable (fault : Text.EncodeFault)
  deriving Repr, DecidableEq

namespace ReplaceError

def message : ReplaceError → String
  | file error => error.message
  | unknownEncoding name => "unknown encoding: " ++ name
  | unencodable fault => fault.message

def kind : ReplaceError → String
  | file error => error.kind
  | unknownEncoding _ => "LookupError"
  | unencodable fault => fault.kind

end ReplaceError

/-- A replacement: where the target is, the changing part of the temporary file's name, the
encoding, and the failures that the surroundings hold ready. -/
structure Replacement where
  directory : Path
  target : String
  tag : String
  encoding : Text.Encoding
  faults : ReplaceStep → Option String

namespace Replacement

def temporaryName (r : Replacement) : String :=
  ".securityagent-" ++ r.tag ++ ".tmp"

def place (r : Replacement) : Path :=
  Path.denoted r.directory r.target

def temporary (r : Replacement) : Path :=
  r.place.dropLast ++ [r.temporaryName]

def privateMode : Nat := 0o600

def check (r : Replacement) (step : ReplaceStep) : Except ReplaceError Unit :=
  match r.faults step with
  | some text => .error (.file (.system (.plain text)))
  | none => .ok ()

/-- What is said when every name that was tried for the temporary file is taken. -/
def nameTaken : ReplaceError :=
  .file (.system (.plain "[Errno 17] No usable temporary file name found"))

def create (r : Replacement) (tree : FileTree) : Except ReplaceError FileTree := do
  r.check .create
  if (Path.spell r.temporary).toList.contains '\x00' then .error (.file .nulCharacter)
  else
    match tree.reach r.temporary with
    | .error cause => .error (.file (.system (.at cause (Path.spell r.temporary))))
    | .ok _ =>
      if (tree.find? r.temporary).isSome then .error nameTaken
      else return tree.put r.temporary (.file [] privateMode)

def write (r : Replacement) (content : String) (tree : FileTree) :
    Except ReplaceError FileTree := do
  match r.encoding.codec? with
  | none => .error (.unknownEncoding r.encoding.name)
  | some codec =>
    match codec.stream content with
    | .error fault => .error (.unencodable fault)
    | .ok bytes =>
      r.check .write
      return tree.put r.temporary (.file bytes privateMode)

def sync (r : Replacement) (tree : FileTree) : Except ReplaceError FileTree := do
  r.check .sync
  return tree

/-- Gives the temporary file the permission bits of the target, if there is one. Those of a
directory do not matter, for nothing takes its place. -/
def copyMode (r : Replacement) (tree : FileTree) : Except ReplaceError FileTree := do
  match tree.lookAt r.directory r.target with
  | none => return tree
  | some entry =>
    r.check .copyMode
    match entry, tree.find? r.temporary with
    | .file _ mode, some (.file bytes _) => return tree.put r.temporary (.file bytes mode)
    | _, _ => return tree

/-- The place that the temporary file is moved to. Nothing takes the place of the directory that a
step of points leads to. -/
def destination (r : Replacement) (tree : FileTree) : Except SystemCause Path :=
  if Path.endsInDots r.target then
    match tree.locate r.directory r.target with
    | .error cause => .error cause
    | .ok _ => .error .busy
  else tree.locateTarget r.directory r.target .notADirectory

def rename (r : Replacement) (tree : FileTree) : Except ReplaceError FileTree := do
  r.check .rename
  let failure (cause : SystemCause) : Except ReplaceError FileTree :=
    .error (.file (.system (.between cause (Path.spell r.temporary) r.target)))
  if r.target.toList.contains '\x00' then .error (.file .nulCharacter)
  else
    match r.destination tree with
    | .error cause => failure cause
    | .ok place =>
      match tree.find? place, tree.find? r.temporary with
      | some .directory, _ => failure .isADirectory
      | _, none => failure .noSuchFile
      | _, some entry => return (tree.remove r.temporary).put place entry

def laterStages (r : Replacement) (content : String) :
    List (FileTree → Except ReplaceError FileTree) :=
  [r.write content, r.sync, r.copyMode, r.rename]

def stages (r : Replacement) (content : String) : List (FileTree → Except ReplaceError FileTree) :=
  r.create :: r.laterStages content

/-- Carries out steps one after the other, and tells the failure that ended them, if one did. -/
def carryOut (tree : FileTree) :
    List (FileTree → Except ReplaceError FileTree) → FileTree × Option ReplaceError
  | [] => (tree, none)
  | stage :: rest =>
    match stage tree with
    | .error error => (tree, some error)
    | .ok next => carryOut next rest

def treesAlong (tree : FileTree) :
    List (FileTree → Except ReplaceError FileTree) → List FileTree
  | [] => [tree]
  | stage :: rest =>
    match stage tree with
    | .error _ => [tree]
    | .ok next => tree :: treesAlong next rest

/-- The trees that a replacement goes through, from the one that it starts from. -/
def history (r : Replacement) (content : String) (tree : FileTree) : List FileTree :=
  treesAlong tree (r.stages content)

/-- Replaces the content of the target. After a failure a temporary file that was made is gone. -/
def run (r : Replacement) (content : String) (tree : FileTree) :
    FileTree × Except ReplaceError Unit :=
  match r.create tree with
  | .error error => (tree, .error error)
  | .ok made =>
    match carryOut made (r.laterStages content) with
    | (last, none) => (last, .ok ())
    | (last, some error) => (last.remove r.temporary, .error error)

end Replacement

end Remedy

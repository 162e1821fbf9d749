import Remedy.FileTree.Basic
import Remedy.Text.Decoding
import Remedy.Text.Lines

/-!
Access to files by the spelling of their paths. A spelling is followed step by step, each step
from a directory that is there; what stops it is reported with the spelling.
-/

namespace Remedy

inductive SystemCause where
  | noSuchFile
  | busy
  | notADirectory
  | isADirectory
  | nameTooLong
  | permissionDenied
  | linkLoop
  | other (number : Nat) (words : String)
  deriving Repr, DecidableEq

namespace SystemCause

def number : SystemCause → Nat
  | noSuchFile => 2
  | busy => 16
  | notADirectory => 20
  | isADirectory => 21
  | nameTooLong => 36
  | permissionDenied => 13
  | linkLoop => 40
  | other number _ => number

def words : SystemCause → String
  | noSuchFile => "No such file or directory"
  | busy => "Device or resource busy"
  | notADirectory => "Not a directory"
  | isADirectory => "Is a directory"
  | nameTooLong => "File name too long"
  | permissionDenied => "Permission denied"
  | linkLoop => "Too many levels of symbolic links"
  | other _ words => words

def absences : List Nat := [2, 9, 20, 40]

def isAbsence (cause : SystemCause) : Bool :=
  absences.contains cause.number

end SystemCause

/-- A failure of the file system: a cause at a path, a cause between two paths, or one that is
only known by its text. -/
inductive SystemError where
  | at (cause : SystemCause) (path : String)
  | between (cause : SystemCause) (source target : String)
  | plain (text : String)
  deriving Repr, DecidableEq

namespace SystemError

def message : SystemError → String
  | .at cause path =>
    "[Errno " ++ toString cause.number ++ "] " ++ cause.words ++ ": " ++ Text.quoted path
  | between cause source target =>
    "[Errno " ++ toString cause.number ++ "] " ++ cause.words ++ ": " ++ Text.quoted source ++
      " -> " ++ Text.quoted target
  | plain text => text

def kind (error : SystemError) : String :=
  let ofCause : SystemCause → String
    | .noSuchFile => "FileNotFoundError"
    | .notADirectory => "NotADirectoryError"
    | .isADirectory => "IsADirectoryError"
    | .permissionDenied => "PermissionError"
    | _ => "OSError"
  match error with
  | .at cause _ => ofCause cause
  | between cause _ _ => ofCause cause
  | plain _ => "OSError"

end SystemError

/-- Whether something is there, by the answer to a look at it. An answer that does not tell is a
failure. -/
def SystemCause.presence (spelling : String) : Except SystemCause Unit → Except SystemError Bool
  | .ok () => .ok true
  | .error cause => if cause.isAbsence then .ok false else .error (.at cause spelling)

inductive FileError where
  | system (error : SystemError)
  | nulCharacter
  | undecodable (fault : Text.Utf8.Fault)
  deriving Repr, DecidableEq

namespace FileError

def message : FileError → String
  | system error => error.message
  | nulCharacter => "embedded null byte"
  | undecodable fault => fault.message

def kind : FileError → String
  | system error => error.kind
  | nulCharacter => "ValueError"
  | undecodable _ => "UnicodeDecodeError"

end FileError

namespace FileTree

def maxNameBytes : Nat := 255

def maxPathBytes : Nat := 4095

/-- Follows steps from a place. Every step needs a directory to start from, also one that stays
where it is; the last place reached need not hold anything. -/
def follow (tree : FileTree) (place : Path) : List String → Except SystemCause Path
  | [] => .ok place
  | step :: rest =>
    match tree.find? place with
    | none => .error .noSuchFile
    | some (.file ..) => .error .notADirectory
    | some .directory =>
      if maxNameBytes < (Text.Utf8.encode step).length then .error .nameTooLong
      else tree.follow (Path.advance place step) rest

def reach (tree : FileTree) (place : Path) : Except SystemCause Path :=
  if maxPathBytes < (Text.Utf8.encode (Path.spell place)).length then .error .nameTooLong
  else tree.follow [] place

def locate (tree : FileTree) (directory : Path) (spelling : String) : Except SystemCause Path :=
  if spelling = "" then .error .noSuchFile
  else if maxPathBytes < (Text.Utf8.encode spelling).length then .error .nameTooLong
  else tree.follow (Path.start directory spelling) (Path.steps spelling)

/-- The place that a spelling leads to where a file is to be put. A spelling that ends in a slash
stands for no file, which is reported as `cause`. -/
def locateTarget (tree : FileTree) (directory : Path) (spelling : String) (cause : SystemCause) :
    Except SystemCause Path :=
  if Path.endsInSlash spelling then
    match tree.locate directory (Path.withoutEndSlashes spelling) with
    | .error earlier => .error earlier
    | .ok _ => .error cause
  else tree.locate directory spelling

def lookAt (tree : FileTree) (directory : Path) (spelling : String) : Option Entry :=
  if spelling.toList.contains '\x00' then none
  else
    match tree.locate directory spelling with
    | .ok place => tree.find? place
    | .error _ => none

def look (tree : FileTree) (directory : Path) (spelling : String) : Except SystemCause Unit :=
  match tree.locate directory spelling with
  | .error cause => .error cause
  | .ok place => if (tree.find? place).isSome then .ok () else .error .noSuchFile

def exists? (tree : FileTree) (directory : Path) (spelling : String) : Except SystemError Bool :=
  if spelling.toList.contains '\x00' then .ok false
  else SystemCause.presence spelling (tree.look directory spelling)

def readBytes (tree : FileTree) (directory : Path) (spelling : String) :
    Except FileError (List UInt8) :=
  if spelling.toList.contains '\x00' then .error .nulCharacter
  else
    match tree.locate directory spelling with
    | .error cause => .error (.system (.at cause spelling))
    | .ok place =>
      match tree.find? place with
      | none => .error (.system (.at .noSuchFile spelling))
      | some .directory => .error (.system (.at .isADirectory spelling))
      | some (.file bytes _) => .ok bytes

def readText (tree : FileTree) (directory : Path) (spelling : String) :
    Except FileError String :=
  match tree.readBytes directory spelling with
  | .error error => .error error
  | .ok bytes =>
    match Text.Utf8.decode bytes with
    | .error fault => .error (.undecodable fault)
    | .ok text => .ok text

/-- The text of the file that a spelling leads to, with line feeds for all newlines. -/
def readLines (tree : FileTree) (directory : Path) (spelling : String) :
    Except FileError String :=
  (tree.readText directory spelling).map Text.unifyNewlines

def newFileMode : Nat := 0o644

def writeBytes (tree : FileTree) (directory : Path) (spelling : String) (bytes : List UInt8) :
    Except FileError FileTree :=
  if spelling.toList.contains '\x00' then .error .nulCharacter
  else
    match tree.locateTarget directory spelling .isADirectory with
    | .error cause => .error (.system (.at cause spelling))
    | .ok place =>
      match tree.find? place with
      | some .directory => .error (.system (.at .isADirectory spelling))
      | some (.file _ mode) => .ok (tree.put place (.file bytes mode))
      | none => .ok (tree.put place (.file bytes newFileMode))

/-- The tree in which every place from `place` along some names is a directory. -/
def makeDirectories (tree : FileTree) (place : Path) : List String → FileTree
  | [] => tree
  | step :: rest =>
    let next := Path.advance place step
    let tree := if (tree.find? next).isNone then tree.put next .directory else tree
    tree.makeDirectories next rest

def plant (tree : FileTree) (directory : Path) (spelling : String) (entry : Entry) : FileTree :=
  let steps := Path.steps spelling
  let start := Path.start directory spelling
  let tree := tree.makeDirectories start steps.dropLast
  let place := steps.foldl Path.advance start
  match entry with
  | .directory => if (tree.find? place).isNone then tree.put place .directory else tree
  | .file bytes mode => tree.put place (.file bytes mode)

def delete (tree : FileTree) (directory : Path) (spelling : String) : FileTree :=
  match tree.locate directory spelling with
  | .ok place => tree.remove place
  | .error _ => tree

end FileTree

end Remedy

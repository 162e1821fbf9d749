import Remedy.Fault
import Remedy.Interpreter
import Remedy.Json.Reader
import Remedy.Settings.Environment

/-!
Settings files. A file is JSON if its name ends so and YAML otherwise. Unless a file is named it is
looked for in a directory and in those above it; the nearest directory that has one decides, and
in it the first of the names that a settings file may have.
-/

namespace Remedy

namespace SettingsFile

def names : List String :=
  [".securityagent.yaml", ".securityagent.yml", ".securityagent.json", "securityagent.yaml",
    "securityagent.yml", "securityagent.json"]

/-- The value of a settings file's text; a text without a document has none. -/
def parse [Interpreter] (path text : String) : Except Fault (Option Value) :=
  if Path.suffix path = ".json" then
    match Json.read Interpreter.fileRoom text with
    | .ok document => .ok (some (document.map Text.legible).toValue)
    | .error (.tooLong digits) => .error (.tooManyDigits digits)
    | .error (.tooDeep container) => .error (.tooDeep container)
    | .error error => .error (.settings (.fileNotReadable path error.message))
  else
    match Interpreter.readYaml text with
    | .ok value => .ok value
    | .error (.unreadable detail) => .error (.settings (.fileNotReadable path detail))
    | .error (.foreign kind text) => .error (.foreign kind text)

def entriesOf (path : String) : Option Value → Except Fault (List (Value × Value))
  | none => .ok []
  | some .null => .ok []
  | some (.map entries) => .ok entries
  | some _ => .error (.settings (.notAMapping path))

def load [Interpreter] (tree : FileTree) (directory : Path) (spelling : String) :
    Except Fault (List (Value × Value)) := do
  let path := Path.tidy spelling
  match tree.exists? directory path with
  | .error error => .error (.file (.system error))
  | .ok false => .error (.settings (.fileNotFound path))
  | .ok true =>
    match tree.readLines directory path with
    | .error error => .error (.file error)
    | .ok text =>
      match parse path text with
      | .error fault => .error fault
      | .ok value => entriesOf path value

/-- How paths are looked up: the place from the root that a spelling leads to, with all links
followed, and what the system answers to a look at a path. -/
structure Finder where
  resolve : String → Except Fault Path
  look : String → Except SystemCause Unit

def candidates (place : Path) : List String :=
  (Path.upward place).flatMap fun above => names.map fun name => Path.spell (above ++ [name])

namespace Finder

def firstOf (finder : Finder) : List String → Except SystemError (Option String)
  | [] => .ok none
  | path :: rest =>
    match SystemCause.presence path (finder.look path) with
    | .error error => .error error
    | .ok true => .ok (some path)
    | .ok false => finder.firstOf rest

def find (finder : Finder) (start : String) : Except Fault (Option String) :=
  match finder.resolve start with
  | .error fault => .error fault
  | .ok place =>
    (finder.firstOf (candidates place)).mapError fun error => .file (.system error)

def ofTree (tree : FileTree) (directory : Path) : Finder where
  resolve start :=
    if start.toList.contains '\x00' then .error (.file .nulCharacter)
    else .ok (Path.denoted directory start)
  look := tree.look directory

end Finder

def find (tree : FileTree) (directory : Path) (start : String) : Except Fault (Option String) :=
  (Finder.ofTree tree directory).find start

/-- The entries of the settings file in use: the named one, or the one that is found; an empty
name stands for none. -/
def entries [Interpreter] (tree : FileTree) (directory : Path) (named : Option String)
    (start : String) : Except Fault (List (Value × Value)) :=
  let path : Except Fault (Option String) :=
    match named with
    | some path => .ok (some path)
    | none => find tree directory start
  match path with
  | .error fault => .error fault
  | .ok none => .ok []
  | .ok (some path) => if path = "" then .ok [] else load tree directory path

end SettingsFile

def Settings.load [Interpreter] (tree : FileTree) (directory : Path) (named : Option String)
    (start : String) (environment : Environment) : Except Fault Settings :=
  match SettingsFile.entries tree directory named start with
  | .error fault => .error fault
  | .ok entries => ((Settings.ofEntries entries).belowEnvironment environment).mapError .settings

end Remedy

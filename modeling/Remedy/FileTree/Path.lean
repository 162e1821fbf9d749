/-!
Paths. A spelling of a path is a text with slashes; it is absolute or starts at the working
directory, and may hold empty, `.` and `..` steps. The place it denotes lexically is the list of
names from the root that is left when those steps are carried out.
-/

namespace Remedy

abbrev Path := List String

namespace Path

/-- The parts of a text between slashes; there is always one more than slashes. -/
def splitChars : List Char → List (List Char)
  | [] => [[]]
  | c :: rest =>
    if c = '/' then [] :: splitChars rest
    else
      match splitChars rest with
      | [] => [[c]]
      | part :: parts => (c :: part) :: parts

def steps (spelling : String) : List String :=
  (splitChars spelling.toList).map String.ofList

def isAbsolute (spelling : String) : Bool :=
  spelling.toList.head? = some '/'

def start (directory : Path) (spelling : String) : Path :=
  if isAbsolute spelling then [] else directory

def advance (place : Path) (step : String) : Path :=
  if step = "" || step = "." then place
  else if step = ".." then place.dropLast
  else place ++ [step]

def denoted (directory : Path) (spelling : String) : Path :=
  (steps spelling).foldl advance (start directory spelling)

def spell (place : Path) : String :=
  "/" ++ "/".intercalate place

def endsInSlash (spelling : String) : Bool :=
  spelling.toList.getLast? = some '/'

def withoutEndSlashes (spelling : String) : String :=
  match (spelling.toList.reverse.dropWhile (· = '/')).reverse with
  | [] => if isAbsolute spelling then "/" else ""
  | kept => String.ofList kept

def endsInDots (spelling : String) : Bool :=
  match (steps (withoutEndSlashes spelling)).getLast? with
  | some step => step = "." || step = ".."
  | none => false

/-- A spelling seen from another one: an absolute spelling stands for itself. -/
def join (base spelling : String) : String :=
  if isAbsolute spelling then spelling
  else if base = "" || endsInSlash base then base ++ spelling
  else base ++ "/" ++ spelling

/-- A spelling without empty and `.` steps; a spelling without steps becomes a point. -/
def tidy (spelling : String) : String :=
  let kept := (steps spelling).filter fun s => s ≠ "" && s ≠ "."
  if isAbsolute spelling then spell kept
  else if kept.isEmpty then "."
  else "/".intercalate kept

def upward (place : Path) : List Path :=
  (List.range (place.length + 1)).map fun n => place.take (place.length - n)

def lastName (spelling : String) : String :=
  (((steps spelling).filter fun s => s ≠ "" && s ≠ ".").getLast?).getD ""

/-- What a name ends in from its last point on. A point at either end of the name does not
count. -/
def suffix (spelling : String) : String :=
  let name := (lastName spelling).toList
  let tail := name.reverse.takeWhile (· ≠ '.')
  if tail.isEmpty || name.length ≤ tail.length + 1 then ""
  else String.ofList ('.' :: tail.reverse)

end Path

end Remedy

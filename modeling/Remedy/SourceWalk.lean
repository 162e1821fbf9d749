import Remedy.FileTree.Access
import Remedy.PathFilter

/-!
The walk over a tree of sources. It lists the files below a directory that a path filter keeps,
leaving out hidden entries and directories of dependencies and build results. A directory's own
files come first, by name, then its subdirectories, by name. It is assumed that the walk can read
every directory and is never nested too deep, and that no path is too long for the system.
-/

namespace Remedy.SourceWalk

def ignoredDirectories : List String :=
  ["node_modules", "vendor", "dist", "build", "__pycache__"]

def isHidden (name : String) : Bool :=
  name.toList.head? = some '.'

def enters (name : String) : Bool :=
  !ignoredDirectories.contains name && !isHidden name

def listed (path : Path) : String :=
  "/".intercalate path

/-- The names of the files in a directory that are not hidden, in alphabetical order. -/
def ownFiles (tree : FileTree) (place : Path) : List String :=
  ((tree.namesIn place).filter fun name =>
    tree.isFile (place ++ [name]) && !isHidden name).mergeSort fun a b => a ≤ b

/-- The names of the directories in a directory that the walk enters, in alphabetical order. -/
def subdirectories (tree : FileTree) (place : Path) : List String :=
  ((tree.namesIn place).filter fun name =>
    tree.isDirectory (place ++ [name]) && enters name).mergeSort fun a b => a ≤ b

theorem length_lt_of_mem_subdirectories {tree : FileTree} {place : Path} {name : String}
    (entered : name ∈ subdirectories tree place) : place.length < tree.depth :=
  FileTree.length_lt_depth (List.mem_filter.mp (List.mem_mergeSort.mp entered)).1

/-- The files that the walk comes past below a place: first those in it, then those below each of
its subdirectories. -/
def candidatesAt (tree : FileTree) (place : Path) : List Path :=
  (ownFiles tree place).map (fun name => [name]) ++
    (subdirectories tree place).attach.flatMap fun ⟨name, _⟩ =>
      (candidatesAt tree (place ++ [name])).map fun path => name :: path
termination_by tree.depth - place.length
decreasing_by
  have within := length_lt_of_mem_subdirectories ‹name ∈ subdirectories tree place›
  rw [List.length_append, List.length_singleton]
  omega

/-- The files that the walk comes past below the directory of a spelling; if there is no such
directory there are none. -/
def candidates (tree : FileTree) (directory : Path) (root : String) : List Path :=
  match tree.locate directory root with
  | .ok place => if tree.isDirectory place then candidatesAt tree place else []
  | .error _ => []

def lists (filter : PathFilter) (path : Path) : Bool :=
  filter.hasExtension (path.getLast?.getD "") && !filter.excludes (listed path)

def files (filter : PathFilter) (tree : FileTree) (directory : Path) (root : String) :
    List String :=
  ((candidates tree directory root).filter (lists filter)).map listed

end Remedy.SourceWalk

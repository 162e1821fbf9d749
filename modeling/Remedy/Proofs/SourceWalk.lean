import Mathlib.Data.List.Sort
import Mathlib.Data.String.Basic
import Remedy.Proofs.FileTree.Nesting
import Remedy.Proofs.FirstOccurrences
import Remedy.Proofs.PathFilter.Exclusion

/-!
# What the walk lists

The walk comes past a file exactly if it is not hidden and every directory on the way to it is one
that the walk enters. The names in a directory are sorted, so that of two files that it comes past
it is clear which stands first: a file before what lies deeper, and otherwise the name at which the
two paths part decides. Membership is by induction on the path, order by induction on the places
that the walk enters.
-/

set_option autoImplicit false

namespace Remedy

/-! ## The names in a directory -/

namespace FileTree

variable {tree : FileTree} {place : Path} {name : String}

end FileTree

namespace SourceWalk

variable {tree : FileTree} {place : Path} {name : String}

/-- The order of the walk: in a directory its own files come first, by name, then what lies in its
subdirectories, by their names. -/
inductive Ahead : Path → Path → Prop where
  | files {first second : String} : first < second → Ahead [first] [second]
  | fileFirst {file directory : String} {path : Path} : path ≠ [] → Ahead [file] (directory :: path)
  | directories {first second : String} {path other : Path} :
      first < second → path ≠ [] → other ≠ [] → Ahead (first :: path) (second :: other)
  | within {directory : String} {path other : Path} :
      Ahead path other → Ahead (directory :: path) (directory :: other)

theorem Ahead.ne {path other : Path} (ahead : Ahead path other) : path ≠ other := by
  induction ahead with
  | files less =>
    rintro ⟨⟩
    exact lt_irrefl _ less
  | fileFirst below =>
    rintro ⟨⟩
    exact below rfl
  | directories less _ _ =>
    rintro ⟨⟩
    exact lt_irrefl _ less
  | within _ ih =>
    rintro ⟨⟩
    exact ih rfl

end SourceWalk

end Remedy

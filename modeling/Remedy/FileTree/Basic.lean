import Remedy.FileTree.Path

/-!
File trees as values: which places hold a file, with its bytes and its permission bits, and which
a directory. The root is always a directory. Changing one place leaves what every other place
holds as it was.
-/

namespace Remedy

inductive Entry where
  | file (bytes : List UInt8) (mode : Nat)
  | directory
  deriving Repr, DecidableEq

structure FileTree where
  entries : List (Path × Entry)
  deriving Repr, DecidableEq

namespace FileTree

def empty : FileTree := ⟨[]⟩

def find? (tree : FileTree) (place : Path) : Option Entry :=
  if place = [] then some .directory else tree.entries.lookup place

def putEntry (place : Path) (entry : Entry) : List (Path × Entry) → List (Path × Entry)
  | [] => [(place, entry)]
  | (p, e) :: rest =>
    if p = place then (p, entry) :: rest else (p, e) :: putEntry place entry rest

def put (tree : FileTree) (place : Path) (entry : Entry) : FileTree :=
  ⟨putEntry place entry tree.entries⟩

def remove (tree : FileTree) (place : Path) : FileTree :=
  ⟨tree.entries.filter fun e => e.1 ≠ place⟩

@[simp] theorem find?_root (tree : FileTree) : tree.find? [] = some .directory := rfl

theorem lookup_putEntry_self (place : Path) (entry : Entry) (entries : List (Path × Entry)) :
    (putEntry place entry entries).lookup place = some entry := by
  induction entries with
  | nil => simp [putEntry]
  | cons first rest ih =>
    obtain ⟨p, e⟩ := first
    by_cases h : p = place
    · simp [putEntry, h]
    · simp [putEntry, h, List.lookup_cons, beq_false_of_ne (Ne.symm h), ih]

theorem lookup_putEntry_of_ne {place other : Path} (h : other ≠ place) (entry : Entry)
    (entries : List (Path × Entry)) :
    (putEntry place entry entries).lookup other = entries.lookup other := by
  induction entries with
  | nil => simp [putEntry, List.lookup_cons, beq_false_of_ne h]
  | cons first rest ih =>
    obtain ⟨p, e⟩ := first
    by_cases hp : p = place
    · simp [putEntry, hp, List.lookup_cons, beq_false_of_ne h]
    · simp [putEntry, hp, List.lookup_cons, ih]

/-- A place below the root holds what was put there last. -/
@[simp] theorem find?_put_self (tree : FileTree) {place : Path} (h : place ≠ [])
    (entry : Entry) : (tree.put place entry).find? place = some entry := by
  simp [find?, put, h, lookup_putEntry_self]

/-- Putting an entry somewhere leaves every other place as it was. -/
@[simp] theorem find?_put_of_ne (tree : FileTree) {place other : Path} (h : other ≠ place)
    (entry : Entry) : (tree.put place entry).find? other = tree.find? other := by
  simp [find?, put, lookup_putEntry_of_ne h]

/-- A place below the root holds nothing once it was emptied. -/
@[simp] theorem find?_remove_self (tree : FileTree) {place : Path} (h : place ≠ []) :
    (tree.remove place).find? place = none := by
  simp only [find?, remove, if_neg h, List.lookup_eq_none_iff]
  intro first member
  have differs : first.1 ≠ place := of_decide_eq_true (List.mem_filter.mp member).2
  simpa using differs.symm

/-- Emptying a place leaves every other place as it was. -/
@[simp] theorem find?_remove_of_ne (tree : FileTree) {place other : Path} (h : other ≠ place) :
    (tree.remove place).find? other = tree.find? other := by
  simp only [find?, remove, ne_eq, decide_not]
  split
  · rfl
  · induction tree.entries with
    | nil => rfl
    | cons first rest ih =>
      obtain ⟨p, e⟩ := first
      by_cases hp : p = place
      · simpa [hp, List.lookup_cons, beq_false_of_ne h] using ih
      · simp [hp, List.lookup_cons, ih]

def isDirectory (tree : FileTree) (place : Path) : Bool :=
  tree.find? place = some .directory

def bytes? (tree : FileTree) (place : Path) : Option (List UInt8) :=
  match tree.find? place with
  | some (.file bytes _) => some bytes
  | _ => none

def isFile (tree : FileTree) (place : Path) : Bool :=
  (tree.bytes? place).isSome

def namesIn (tree : FileTree) (place : Path) : List String :=
  (tree.entries.filterMap fun (p, _) =>
    if p.dropLast = place then p.getLast? else none).eraseDups

def depth (tree : FileTree) : Nat :=
  tree.entries.foldr (fun e longest => max e.1.length longest) 0

theorem mem_namesIn_iff {tree : FileTree} {place : Path} {name : String} :
    name ∈ tree.namesIn place ↔ ∃ entry, (place ++ [name], entry) ∈ tree.entries := by
  have whole (p : Path) : (if p.dropLast = place then p.getLast? else none) = some name ↔
      p = place ++ [name] := by
    constructor
    · intro held
      split at held
      · next above =>
        obtain ⟨front, rfl⟩ := List.getLast?_eq_some_iff.mp held
        rw [List.dropLast_concat] at above
        rw [above]
      · cases held
    · rintro rfl
      simp
  simp only [namesIn, List.mem_eraseDups, List.mem_filterMap, whole]
  constructor
  · rintro ⟨⟨p, entry⟩, member, rfl⟩
    exact ⟨entry, member⟩
  · rintro ⟨entry, member⟩
    exact ⟨_, member, rfl⟩

theorem length_le_depth {tree : FileTree} {e : Path × Entry} (member : e ∈ tree.entries) :
    e.1.length ≤ tree.depth := by
  obtain ⟨entries⟩ := tree
  rw [depth]
  induction entries with
  | nil => cases member
  | cons first rest ih =>
    rw [List.foldr_cons]
    rcases List.mem_cons.mp member with rfl | later
    · exact Nat.le_max_left _ _
    · exact Nat.le_trans (ih later) (Nat.le_max_right _ _)

theorem length_lt_depth {tree : FileTree} {place : Path} {name : String}
    (listed : name ∈ tree.namesIn place) : place.length < tree.depth := by
  obtain ⟨entry, member⟩ := mem_namesIn_iff.mp listed
  have within := length_le_depth member
  rw [List.length_append, List.length_singleton] at within
  exact within

def filesBelow (tree : FileTree) (place : Path) : List (Path × List UInt8) :=
  tree.entries.filterMap fun (p, entry) =>
    match entry with
    | .file bytes _ =>
      if place.isPrefixOf p && place.length < p.length then some (p.drop place.length, bytes)
      else none
    | .directory => none

end FileTree

end Remedy

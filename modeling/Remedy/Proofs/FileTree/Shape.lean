import Mathlib.Data.Option.Basic
import Remedy.FileTree.Access

/-!
# The shape of a tree, and where spellings lead

Following a spelling looks only at which places hold files and which directories: this is the shape
of a tree. A tree in which a file got other bytes or permission bits has the shape that it had, so
every spelling leads where it led. A spelling that can be followed leads to the place that it
denotes lexically.
-/

set_option autoImplicit false

namespace Remedy.FileTree

/-! ## Putting and removing -/

theorem putEntry_putEntry (place : Path) (first second : Entry)
    (entries : List (Path × Entry)) :
    putEntry place second (putEntry place first entries) = putEntry place second entries := by
  induction entries with
  | nil => simp [putEntry]
  | cons head rest ih =>
    obtain ⟨p, e⟩ := head
    by_cases h : p = place
    · simp [putEntry, h]
    · simp [putEntry, h, ih]

@[simp] theorem put_put (tree : FileTree) (place : Path) (first second : Entry) :
    (tree.put place first).put place second = tree.put place second := by
  simp [put, putEntry_putEntry]

theorem filter_putEntry {place : Path} (entry : Entry) {entries : List (Path × Entry)}
    (fresh : ∀ e ∈ entries, e.1 ≠ place) :
    (putEntry place entry entries).filter (fun e => e.1 ≠ place) = entries := by
  induction entries with
  | nil => simp [putEntry]
  | cons head rest ih =>
    obtain ⟨p, e⟩ := head
    have other : p ≠ place := fresh (p, e) (List.mem_cons_self ..)
    have tail := ih fun e member => fresh e (List.mem_cons_of_mem _ member)
    simp only [putEntry, if_neg other]
    rw [List.filter_cons_of_pos (by simpa using other), tail]

theorem ne_root_of_find?_eq_none {tree : FileTree} {place : Path}
    (fresh : tree.find? place = none) : place ≠ [] := by
  rintro rfl
  simp at fresh

theorem remove_put {tree : FileTree} {place : Path} (fresh : tree.find? place = none)
    (entry : Entry) : (tree.put place entry).remove place = tree := by
  have below : place ≠ [] := ne_root_of_find?_eq_none fresh
  simp only [find?, if_neg below, List.lookup_eq_none_iff] at fresh
  have absent : ∀ e ∈ tree.entries, e.1 ≠ place := by
    intro e member
    simpa using Ne.symm (by simpa using fresh e member : place ≠ e.1)
  simp only [put, remove, filter_putEntry entry absent]

/-! ## Shapes -/

end FileTree

def Entry.isDirectory : Entry → Bool
  | .file .. => false
  | .directory => true

namespace FileTree

def kind? (tree : FileTree) (place : Path) : Option Bool :=
  (tree.find? place).map Entry.isDirectory

/-- Two trees have their files and their directories at the same places. -/
def SameShape (a b : FileTree) : Prop :=
  ∀ place, a.kind? place = b.kind? place

namespace SameShape

variable {a b c : FileTree}

theorem refl (a : FileTree) : SameShape a a := fun _ => rfl

theorem symm (same : SameShape a b) : SameShape b a := fun place => (same place).symm

theorem trans (first : SameShape a b) (second : SameShape b c) : SameShape a c :=
  fun place => (first place).trans (second place)

theorem find?_eq_directory_iff (same : SameShape a b) (place : Path) :
    a.find? place = some .directory ↔ b.find? place = some .directory := by
  have kinds := same place
  simp only [kind?] at kinds
  have directory (o : Option Entry) :
      o = some .directory ↔ o.map Entry.isDirectory = some true := by
    rcases o with _ | ⟨_ | _⟩ <;> simp [Entry.isDirectory]
  rw [directory, directory, kinds]

theorem follow (same : SameShape a b) (place : Path) (steps : List String) :
    a.follow place steps = b.follow place steps := by
  induction steps generalizing place with
  | nil => rfl
  | cons step rest ih =>
    have kinds := same place
    simp only [kind?] at kinds
    simp only [FileTree.follow]
    rcases ha : a.find? place with _ | ⟨_ | _⟩ <;> rcases hb : b.find? place with _ | ⟨_ | _⟩ <;>
      simp_all [Entry.isDirectory]

theorem reach (same : SameShape a b) (place : Path) : a.reach place = b.reach place := by
  simp only [FileTree.reach, same.follow]

theorem locate (same : SameShape a b) (directory : Path) (spelling : String) :
    a.locate directory spelling = b.locate directory spelling := by
  simp only [FileTree.locate, same.follow]

theorem locateTarget (same : SameShape a b) (directory : Path) (spelling : String)
    (cause : SystemCause) :
    a.locateTarget directory spelling cause = b.locateTarget directory spelling cause := by
  simp only [FileTree.locateTarget, same.locate]

end SameShape

theorem sameShape_put {tree : FileTree} {place : Path} {old : Entry}
    (held : tree.find? place = some old) {new : Entry}
    (kind : new.isDirectory = old.isDirectory) : SameShape (tree.put place new) tree := by
  intro other
  by_cases h : other = place
  · subst h
    by_cases root : other = []
    · subst root
      rfl
    · simp [kind?, find?_put_self _ root, held, kind]
  · simp [kind?, find?_put_of_ne _ h]

theorem sameShape_put_file {tree : FileTree} {place : Path} {bytes : List UInt8} {mode : Nat}
    (held : tree.find? place = some (.file bytes mode)) (newBytes : List UInt8)
    (newMode : Nat) : SameShape (tree.put place (.file newBytes newMode)) tree :=
  sameShape_put held rfl

/-! ## Where spellings lead -/

theorem follow_eq {tree : FileTree} {place reached : Path} {steps : List String}
    (leads : tree.follow place steps = .ok reached) :
    reached = steps.foldl Path.advance place := by
  induction steps generalizing place with
  | nil =>
    cases leads
    rfl
  | cons step rest ih =>
    simp only [follow] at leads
    split at leads
    · cases leads
    · cases leads
    · split at leads
      · cases leads
      · exact ih leads

theorem locate_eq {tree : FileTree} {directory reached : Path} {spelling : String}
    (leads : tree.locate directory spelling = .ok reached) :
    reached = Path.denoted directory spelling := by
  simp only [locate] at leads
  split at leads
  · cases leads
  · split at leads
    · cases leads
    · exact follow_eq leads

theorem follow_mono {a b : FileTree}
    (kept : ∀ place, a.find? place = some .directory → b.find? place = some .directory)
    {place reached : Path} {steps : List String} (leads : a.follow place steps = .ok reached) :
    b.follow place steps = .ok reached := by
  induction steps generalizing place with
  | nil => exact leads
  | cons step rest ih =>
    simp only [follow] at leads ⊢
    split at leads
    · cases leads
    · cases leads
    · next directory =>
      rw [kept place directory]
      simp only
      split at leads
      · cases leads
      · next fits =>
        rw [if_neg fits]
        exact ih leads

theorem locate_mono {a b : FileTree}
    (kept : ∀ place, a.find? place = some .directory → b.find? place = some .directory)
    {directory reached : Path} {spelling : String}
    (leads : a.locate directory spelling = .ok reached) :
    b.locate directory spelling = .ok reached := by
  simp only [locate] at leads ⊢
  split at leads
  · cases leads
  · next notEmpty =>
    split at leads
    · cases leads
    · next fits =>
      rw [if_neg notEmpty, if_neg fits]
      exact follow_mono kept leads

theorem locate_of_locateTarget {tree : FileTree} {directory reached : Path} {spelling : String}
    {cause : SystemCause} (leads : tree.locateTarget directory spelling cause = .ok reached) :
    tree.locate directory spelling = .ok reached := by
  simp only [locateTarget] at leads
  split at leads
  · split at leads <;> cases leads
  · exact leads

/-! ## Reading -/

theorem readBytes_eq_ok {tree : FileTree} {directory : Path} {spelling : String}
    {bytes : List UInt8} (read : tree.readBytes directory spelling = .ok bytes) :
    ∃ mode, tree.find? (Path.denoted directory spelling) = some (.file bytes mode) := by
  simp only [readBytes] at read
  split at read
  · cases read
  · split at read
    · cases read
    · next place leads =>
      rw [locate_eq leads] at read
      split at read
      · cases read
      · cases read
      · next found =>
        cases read
        exact ⟨_, found⟩

theorem readBytes_of_readText {tree : FileTree} {directory : Path} {spelling text : String}
    (read : tree.readText directory spelling = .ok text) :
    ∃ bytes, tree.readBytes directory spelling = .ok bytes ∧
      Text.Utf8.decode bytes = .ok text := by
  simp only [readText] at read
  split at read
  · cases read
  · next bytes bytesRead =>
    split at read
    · cases read
    · next decoded =>
      cases read
      exact ⟨bytes, bytesRead, decoded⟩

theorem readText_eq_ok {tree : FileTree} {directory : Path} {spelling text : String}
    (read : tree.readText directory spelling = .ok text) :
    ∃ bytes mode, tree.find? (Path.denoted directory spelling) = some (.file bytes mode) ∧
      Text.Utf8.decode bytes = .ok text := by
  obtain ⟨bytes, bytesRead, decoded⟩ := readBytes_of_readText read
  obtain ⟨mode, found⟩ := readBytes_eq_ok bytesRead
  exact ⟨bytes, mode, found, decoded⟩

/-- Reading depends on the shape of the tree and on what the denoted place holds. -/
theorem readBytes_congr {a b : FileTree} (same : SameShape a b) {directory : Path}
    {spelling : String}
    (held : a.find? (Path.denoted directory spelling) =
      b.find? (Path.denoted directory spelling)) :
    a.readBytes directory spelling = b.readBytes directory spelling := by
  simp only [readBytes, same.locate]
  split
  · rfl
  · cases leads : b.locate directory spelling with
    | error cause => rfl
    | ok place =>
      simp only
      rw [locate_eq leads, held]

/-! ## Writing in place -/

def Writable (tree : FileTree) (directory : Path) (spelling : String) : Prop :=
  spelling.toList.contains '\x00' = false ∧
    ∃ place, tree.locateTarget directory spelling .isADirectory = .ok place ∧
      tree.find? place ≠ some .directory

theorem SameShape.writable_iff {a b : FileTree} (same : SameShape a b) (directory : Path)
    (spelling : String) : a.Writable directory spelling ↔ b.Writable directory spelling := by
  simp only [Writable, same.locateTarget, ne_eq, same.find?_eq_directory_iff]

theorem writeBytes_isOk_iff (tree : FileTree) (directory : Path) (spelling : String)
    (bytes : List UInt8) :
    (∃ after, tree.writeBytes directory spelling bytes = .ok after) ↔
      tree.Writable directory spelling := by
  simp only [writeBytes, Writable]
  cases nul : spelling.toList.contains '\x00' with
  | true => simp
  | false =>
    cases leads : tree.locateTarget directory spelling .isADirectory with
    | error cause => simp
    | ok place => rcases held : tree.find? place with _ | ⟨_ | _⟩ <;> simp [held]

end Remedy.FileTree

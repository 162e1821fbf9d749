import Remedy.Proofs.FileTree.Shape
import Remedy.Proofs.FileTree.Spelling

/-!
# What lies in what

In a well-formed tree everything lies in a directory, and places are named. Where a file is found
there is thus a directory above it at every step, whatever else the tree holds. A file that was
read can be put again without any other place noticing, and two files can be put in either order.
-/

set_option autoImplicit false

namespace Remedy.FileTree

/-! ## Putting in two places -/

section Readable

variable {tree : FileTree} {directory : Path} {spelling : String} {bytes : List UInt8}
  (read : tree.readBytes directory spelling = .ok bytes)

include read

theorem located_of_readBytes :
    spelling.toList.contains '\x00' = false ∧
      tree.locate directory spelling = .ok (Path.denoted directory spelling) ∧
      ∃ mode, tree.find? (Path.denoted directory spelling) = some (.file bytes mode) := by
  have held := readBytes_eq_ok read
  simp only [readBytes] at read
  split at read
  · cases read
  · next noNul =>
    split at read
    · cases read
    · next place leads =>
      rw [locate_eq leads] at leads
      exact ⟨by simpa using noNul, leads, held⟩

theorem readBytes_put (content : List UInt8) (mode : Nat) :
    (tree.put (Path.denoted directory spelling) (.file content mode)).readBytes directory spelling =
      .ok content := by
  obtain ⟨noNul, leads, former, held⟩ := located_of_readBytes read
  have below : Path.denoted directory spelling ≠ [] := by
    intro root
    rw [root, find?_root] at held
    cases held
  have still := (sameShape_put_file held content mode).locate directory spelling
  rw [leads] at still
  simp only [readBytes, noNul, still, find?_put_self tree below, Bool.false_eq_true, if_false]

end Readable

theorem follow_concat {tree : FileTree} {place reached : Path} {steps : List String} {step : String}
    (leads : tree.follow place (steps ++ [step]) = .ok reached) :
    ∃ parent, tree.find? parent = some .directory ∧ reached = Path.advance parent step := by
  induction steps generalizing place with
  | nil =>
    simp only [List.nil_append, follow] at leads
    split at leads
    · cases leads
    · cases leads
    · next directory =>
      split at leads
      · cases leads
      · cases leads
        exact ⟨place, directory, rfl⟩
  | cons first rest ih =>
    simp only [List.cons_append, follow] at leads
    split at leads
    · cases leads
    · cases leads
    · split at leads
      · cases leads
      · exact ih leads

theorem not_endsInSlash_of_readBytes {tree : FileTree} {directory : Path} {spelling : String}
    {bytes : List UInt8} (read : tree.readBytes directory spelling = .ok bytes) :
    Path.endsInSlash spelling = false := by
  rw [← Bool.not_eq_true]
  intro slash
  obtain ⟨front, -, stepsEq⟩ := Path.steps_of_endsInSlash slash
  obtain ⟨-, leads, mode, held⟩ := located_of_readBytes read
  simp only [locate] at leads
  split at leads
  · cases leads
  · split at leads
    · cases leads
    · rw [stepsEq] at leads
      obtain ⟨parent, above, reached⟩ := follow_concat leads
      rw [reached] at held
      simp only [Path.advance, decide_true, Bool.true_or, if_true, above] at held
      cases held

/-! ## Well-formed trees -/

/-- A tree as a file system has one: places are named, and everything lies in a directory. -/
structure WellFormed (tree : FileTree) : Prop where
  named : ∀ place, tree.find? place ≠ none → ∀ name ∈ place, Path.IsName name
  nested : ∀ place name, tree.find? (place ++ [name]) ≠ none → tree.find? place = some .directory

theorem exists_entry_of_find? {tree : FileTree} {place : Path} (below : place ≠ [])
    (held : tree.find? place ≠ none) : ∃ entry, (place, entry) ∈ tree.entries := by
  by_contra absent
  refine held ?_
  rw [find?, if_neg below, List.lookup_eq_none_iff]
  intro e member
  simpa using fun same : place = e.1 => absent ⟨e.2, same ▸ member⟩

namespace WellFormed

variable {tree : FileTree}

theorem of_entries (each : ∀ e ∈ tree.entries,
    (∀ name ∈ e.1, Path.IsName name) ∧ tree.find? e.1.dropLast = some .directory) :
    tree.WellFormed where
  named place held name member := by
    obtain ⟨entry, listed⟩ := exists_entry_of_find? (List.ne_nil_of_mem member) held
    exact (each _ listed).1 name member
  nested place name held := by
    obtain ⟨entry, listed⟩ := exists_entry_of_find? (by simp) held
    simpa using (each _ listed).2

theorem directory_above (wellFormed : tree.WellFormed) {front back : Path} (more : back ≠ [])
    (held : tree.find? (front ++ back) ≠ none) : tree.find? front = some .directory := by
  induction back generalizing front with
  | nil => exact absurd rfl more
  | cons name rest ih =>
    cases rest with
    | nil => exact wellFormed.nested front name held
    | cons second others =>
      have above : tree.find? (front ++ [name]) = some .directory :=
        ih (by simp) (by rwa [List.append_assoc, List.singleton_append])
      exact wellFormed.nested front name (by simp [above])

end WellFormed

end Remedy.FileTree

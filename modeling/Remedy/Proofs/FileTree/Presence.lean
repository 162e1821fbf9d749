import Mathlib.Algebra.GroupWithZero.Nat
import Remedy.Proofs.FileTree.Nesting

/-!
# Whether something is there

The spelling of a place from the root leads along the names of the place. In a well-formed tree it
is found out in this way whether the place holds something, for a way that ends early ends where
nothing lies any deeper. The system does not go a way whose spelling, or one of whose names, is
longer than it takes.
-/

set_option autoImplicit false

namespace Remedy

open Text

namespace Path

/-- A place whose names can be those of files and directories. -/
def Nameable (place : Path) : Prop :=
  ∀ name ∈ place, IsName name ∧ '/' ∉ name.toList ∧ '\x00' ∉ name.toList

instance (place : Path) : Decidable (Nameable place) :=
  inferInstanceAs (Decidable (∀ name ∈ place,
    IsName name ∧ '/' ∉ name.toList ∧ '\x00' ∉ name.toList))

namespace Nameable

variable {place : Path} (nameable : Nameable place)

include nameable

theorem lacks_slash : Lacks '/' place := fun name member => (nameable name member).2.1

theorem lacks_nul : Lacks '\x00' place := fun name member => (nameable name member).2.2

theorem isName : ∀ name ∈ place, IsName name := fun name member => (nameable name member).1

theorem append {more : Path} (others : Nameable more) : Nameable (place ++ more) := by
  intro name member
  exact (List.mem_append.mp member).elim (nameable name) (others name)

theorem of_prefix {above : Path} (within : above <+: place) : Nameable above :=
  fun name member => nameable name (within.subset member)

end Nameable

theorem slash_not_mem_of_mem_splitChars {part text : List Char} (member : part ∈ splitChars text) :
    '/' ∉ part := by
  induction text generalizing part with
  | nil =>
    rw [splitChars, List.mem_singleton] at member
    simp [member]
  | cons c rest ih =>
    by_cases slash : c = '/'
    · subst slash
      rw [splitChars_slash, List.mem_cons] at member
      rcases member with rfl | later
      · simp
      · exact ih later
    · obtain ⟨first, parts, whole, kept⟩ := splitChars_of_ne slash rest
      rw [whole] at ih
      rw [kept] at member
      rcases List.mem_cons.mp member with rfl | later
      · simpa [Ne.symm slash] using ih (List.mem_cons_self ..)
      · exact ih (List.mem_cons_of_mem _ later)

/-- A spelling without the null character leads from one place that can be named to another. -/
theorem Nameable.denoted {directory : Path} (nameable : Nameable directory) {spelling : String}
    (noNul : '\x00' ∉ spelling.toList) : Nameable (denoted directory spelling) := by
  have stepwise (steps : List String) (place : Path) (nameable : Nameable place)
      (free : ∀ step ∈ steps, '/' ∉ step.toList ∧ '\x00' ∉ step.toList) :
      Nameable (steps.foldl advance place) := by
    induction steps generalizing place with
    | nil => exact nameable
    | cons step rest ih =>
      obtain ⟨here, later⟩ := List.forall_mem_cons.mp free
      refine ih (advance place step) ?_ later
      by_cases isName : IsName step
      · rw [advance_of_isName isName]
        exact nameable.append fun name member => by
          rw [List.mem_singleton.mp member]
          exact ⟨isName, here⟩
      · have within : advance place step <+: place := by
          unfold advance
          split
          · exact List.prefix_rfl
          · split
            · exact List.dropLast_prefix place
            · next notStay notUp =>
              simp only [Bool.or_eq_true, decide_eq_true_eq, not_or] at notStay
              exact absurd ⟨notStay.1, notStay.2, notUp⟩ isName
        exact nameable.of_prefix within
  refine stepwise _ _ ?_ fun step member => ?_
  · unfold start
    split
    · intro name member
      cases member
    · exact nameable
  · have part : step.toList ∈ splitChars spelling.toList :=
      toList_steps spelling ▸ List.mem_map_of_mem member
    exact ⟨slash_not_mem_of_mem_splitChars part,
      fun inStep => noNul (subset_of_mem_splitChars part inStep)⟩

theorem toList_spell (place : Path) :
    (spell place).toList = '/' :: List.intercalate ['/'] (place.map String.toList) := by
  simp [spell, String.toList_intercalate]

/-- The spelling of a place has the names of the place as its steps, behind the slash in front. -/
theorem steps_spell {place : Path} (below : place ≠ []) (lacks : Lacks '/' place) :
    steps (spell place) = "" :: place := by
  have behind := steps_intercalate below lacks
  rw [steps, String.toList_intercalate] at behind
  rw [steps, toList_spell, splitChars_slash, List.map_cons]
  exact congrArg _ behind

theorem start_spell (directory place : Path) : start directory (spell place) = [] := by
  rw [start, isAbsolute, toList_spell]
  rfl

theorem denoted_name {name : String} (named : Nameable [name]) (directory : Path) :
    denoted directory name = directory ++ [name] := by
  have member := List.mem_singleton_self name
  have isName : IsName name := named.isName name member
  have alone : steps name = [name] := by
    rw [steps, splitChars_of_not_mem (named.lacks_slash name member), List.map_singleton,
      String.ofList_toList]
  rw [denoted, alone, start, isAbsolute_of_first_isName alone isName]
  exact advance_of_isName isName directory

theorem denoted_spell {place : Path} (below : place ≠ []) (nameable : Nameable place)
    (directory : Path) : denoted directory (spell place) = place := by
  rw [denoted, steps_spell below nameable.lacks_slash, start_spell, List.foldl_cons]
  exact foldl_advance_of_names nameable.isName []

theorem length_encode_spell {place : Path} (below : place ≠ []) :
    (Utf8.encode (spell place)).length =
      (place.map fun name => (Utf8.encode name).length + 1).sum := by
  have slash (text : List Char) :
      (Utf8.encodeChars ('/' :: text)).length = (Utf8.encodeChars text).length + 1 := by
    rw [Utf8.encodeChars, List.flatMap_cons, List.length_append, Nat.add_comm]
    rfl
  have slashed (parts : List (List Char)) (filled : parts ≠ []) :
      (Utf8.encodeChars ('/' :: List.intercalate ['/'] parts)).length =
        (parts.map fun part => (Utf8.encodeChars part).length + 1).sum := by
    induction parts with
    | nil => exact absurd rfl filled
    | cons part rest ih =>
      cases rest with
      | nil => simp [slash]
      | cons next more =>
        rw [List.map_cons, List.sum_cons, ← ih (List.cons_ne_nil next more), slash,
          List.intercalate_cons_cons, List.append_assoc, List.singleton_append, Utf8.encodeChars,
          List.flatMap_append, List.length_append]
        exact Nat.add_right_comm _ _ _
  have parts := slashed (place.map String.toList) (by simpa using below)
  rw [List.map_map] at parts
  rw [Utf8.encode, toList_spell, parts]
  rfl

theorem length_encode_spell_le {above place : Path} (within : above <+: place) {name last : String}
    (shorter : (Utf8.encode name).length ≤ (Utf8.encode last).length) :
    (Utf8.encode (spell (above ++ [name]))).length ≤
      (Utf8.encode (spell (place ++ [last]))).length := by
  obtain ⟨rest, rfl⟩ := within
  rw [length_encode_spell (by simp), length_encode_spell (by simp)]
  simp only [List.map_append, List.sum_append, List.map_cons, List.map_nil, List.sum_cons,
    List.sum_nil]
  omega

end Path

namespace FileTree

/-- On the way to a place a name has to be looked up that is longer than the system takes. -/
def HasLongName (tree : FileTree) (place : Path) : Prop :=
  ∃ front name back, place = front ++ name :: back ∧ tree.find? front = some .directory ∧
    maxNameBytes < (Utf8.encode name).length

def Refuses (tree : FileTree) (place : Path) : Prop :=
  maxPathBytes < (Utf8.encode (Path.spell place)).length ∨ tree.HasLongName place

variable {tree : FileTree}

theorem not_refuses_of_short {place : Path}
    (near : (Utf8.encode (Path.spell place)).length ≤ maxPathBytes)
    (short : ∀ name ∈ place, (Utf8.encode name).length ≤ maxNameBytes) : ¬ tree.Refuses place := by
  rintro (far | ⟨front, name, back, rfl, -, long⟩)
  · exact Nat.not_lt_of_le near far
  · exact Nat.not_lt_of_le (short name (by simp)) long

/-! ## The way along names -/

theorem follow_of_long (wellFormed : tree.WellFormed) {front before back : Path} {name : String}
    (names : ∀ step ∈ before, Path.IsName step)
    (inside : tree.find? (front ++ before) = some .directory)
    (long : maxNameBytes < (Utf8.encode name).length) :
    tree.follow front (before ++ name :: back) = .error .nameTooLong := by
  induction before generalizing front with
  | nil =>
    rw [List.append_nil] at inside
    simp only [List.nil_append, follow, inside, if_pos long]
  | cons step rest ih =>
    obtain ⟨isName, later⟩ := List.forall_mem_cons.mp names
    have here : tree.find? front = some .directory :=
      wellFormed.directory_above (List.cons_ne_nil step rest) (by simp [inside])
    rw [List.cons_append, follow, here]
    by_cases stepLong : maxNameBytes < (Utf8.encode step).length
    · exact if_pos stepLong
    · have deeper : tree.find? (front ++ [step] ++ rest) = some .directory := by
        rwa [List.append_assoc, List.singleton_append]
      simp only [if_neg stepLong, Path.advance_of_isName isName]
      exact ih later deeper

/-- Along names that are short enough one gets to the end, or nothing lies there. -/
theorem follow_of_short (wellFormed : tree.WellFormed) {front rest : Path}
    (names : ∀ step ∈ rest, Path.IsName step)
    (short : ∀ before name back, rest = before ++ name :: back →
      tree.find? (front ++ before) = some .directory →
        ¬ maxNameBytes < (Utf8.encode name).length) :
    tree.follow front rest = .ok (front ++ rest) ∨
      ∃ cause, cause.isAbsence = true ∧ tree.follow front rest = .error cause ∧
        tree.find? (front ++ rest) = none := by
  induction rest generalizing front with
  | nil =>
    left
    rw [follow, List.append_nil]
  | cons step rest ih =>
    obtain ⟨isName, later⟩ := List.forall_mem_cons.mp names
    have empty (noDirectory : tree.find? front ≠ some .directory) :
        tree.find? (front ++ step :: rest) = none := by
      by_contra held
      exact noDirectory (wellFormed.directory_above (List.cons_ne_nil step rest) held)
    rw [follow]
    cases here : tree.find? front with
    | none => exact Or.inr ⟨.noSuchFile, rfl, rfl, empty (by simp [here])⟩
    | some entry =>
      cases entry with
      | file bytes mode => exact Or.inr ⟨.notADirectory, rfl, rfl, empty (by simp [here])⟩
      | directory =>
        have stepShort := short [] step rest rfl (by simpa using here)
        simp only [if_neg stepShort, Path.advance_of_isName isName]
        rw [show front ++ step :: rest = front ++ [step] ++ rest by simp]
        refine ih later fun before name back parts inside => ?_
        refine short (step :: before) name back (by rw [parts, List.cons_append]) ?_
        rwa [List.append_assoc, List.singleton_append] at inside

/-! ## Spelled places -/

section Spelled

variable {place : Path} (below : place ≠ []) (nameable : Path.Nameable place)

include nameable

theorem not_contains_nul : (Path.spell place).toList.contains '\x00' = false := by
  simpa using nameable.lacks_nul.not_mem_spell (by decide)

include below

theorem locate_spell (directory : Path) :
    tree.locate directory (Path.spell place) = tree.reach place := by
  have filled : Path.spell place ≠ "" := by
    intro nothing
    have text := congrArg String.toList nothing
    rw [Path.toList_spell] at text
    cases text
  rw [locate, if_neg filled, Path.steps_spell below nameable.lacks_slash, Path.start_spell, reach,
    follow, find?_root]
  rfl

theorem look_of_refuses (wellFormed : tree.WellFormed) (refuses : tree.Refuses place)
    (directory : Path) : tree.look directory (Path.spell place) = .error .nameTooLong := by
  rw [look, locate_spell below nameable, reach]
  by_cases far : maxPathBytes < (Utf8.encode (Path.spell place)).length
  · rw [if_pos far]
  · obtain ⟨front, name, back, parts, inside, long⟩ := refuses.resolve_left far
    have stopped : tree.follow [] (front ++ name :: back) = .error .nameTooLong :=
      follow_of_long wellFormed
        (fun step member => nameable.isName step (by simp [parts, member])) inside long
    rw [if_neg far, parts, stopped]

/-- A look at what the system goes the way to tells whether the place holds something. -/
theorem presence_of_not_refuses (wellFormed : tree.WellFormed) (goes : ¬ tree.Refuses place)
    (directory : Path) :
    SystemCause.presence (Path.spell place) (tree.look directory (Path.spell place)) =
      .ok (tree.find? place).isSome := by
  obtain ⟨near, short⟩ := not_or.mp goes
  have led := @follow_of_short tree wellFormed [] place nameable.isName
    fun before name back parts inside long => short ⟨before, name, back, parts, inside, long⟩
  rw [look, locate_spell below nameable, reach, if_neg near]
  rcases led with reached | ⟨cause, absent, stopped, nothing⟩
  · rw [reached, List.nil_append]
    cases held : (tree.find? place).isSome <;> simp only [held] <;> rfl
  · rw [List.nil_append] at nothing
    rw [stopped, nothing]
    simp only [SystemCause.presence, absent, if_true, Option.isSome_none]

theorem exists?_of_not_refuses (wellFormed : tree.WellFormed) (goes : ¬ tree.Refuses place)
    (directory : Path) :
    tree.exists? directory (Path.spell place) = .ok (tree.find? place).isSome := by
  rw [exists?, not_contains_nul nameable, if_neg Bool.false_ne_true,
    presence_of_not_refuses below nameable wellFormed goes]

end Spelled

end FileTree

end Remedy

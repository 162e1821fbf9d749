import Mathlib.Data.List.Infix
import Remedy.FileTree.Path

/-!
# Spellings and their steps

The steps of a spelling are what stands between its slashes, and slashes between them give the
spelling back. A slash divides the steps before it from those behind it. Steps that are names lead
where they say; the others stay or go up.
-/

set_option autoImplicit false

namespace Remedy.Path

/-! ## Dividing at slashes -/

theorem splitChars_ne_nil (text : List Char) : splitChars text ≠ [] := by
  cases text with
  | nil => simp [splitChars]
  | cons c rest =>
    simp only [splitChars]
    split
    · simp
    · split <;> simp

theorem splitChars_slash (rest : List Char) : splitChars ('/' :: rest) = [] :: splitChars rest := by
  simp [splitChars]

theorem splitChars_of_ne {c : Char} (other : c ≠ '/') (rest : List Char) :
    ∃ part parts, splitChars rest = part :: parts ∧
      splitChars (c :: rest) = (c :: part) :: parts := by
  obtain ⟨part, parts, whole⟩ := List.exists_cons_of_ne_nil (splitChars_ne_nil rest)
  exact ⟨part, parts, whole, by simp only [splitChars, if_neg other, whole]⟩

theorem splitChars_append_slash (front back : List Char) :
    splitChars (front ++ '/' :: back) = splitChars front ++ splitChars back := by
  induction front with
  | nil => exact splitChars_slash back
  | cons c rest ih =>
    by_cases slash : c = '/'
    · subst slash
      rw [List.cons_append, splitChars_slash, splitChars_slash, ih, List.cons_append]
    · obtain ⟨part, parts, whole, kept⟩ := splitChars_of_ne slash rest
      obtain ⟨part', parts', whole', kept'⟩ := splitChars_of_ne slash (rest ++ '/' :: back)
      rw [ih, whole, List.cons_append] at whole'
      obtain ⟨rfl, rfl⟩ := List.cons.inj whole'
      rw [List.cons_append, kept', kept, List.cons_append]

theorem intercalate_splitChars (text : List Char) :
    List.intercalate ['/'] (splitChars text) = text := by
  induction text with
  | nil => rfl
  | cons c rest ih =>
    by_cases slash : c = '/'
    · subst slash
      rw [splitChars_slash, List.intercalate_cons_of_ne_nil (splitChars_ne_nil rest), ih]
      rfl
    · obtain ⟨part, parts, whole, kept⟩ := splitChars_of_ne slash rest
      rw [whole] at ih
      rw [kept]
      cases parts with
      | nil =>
        simp only [List.intercalate_singleton] at ih ⊢
        rw [ih]
      | cons second more =>
        rw [List.intercalate_cons_cons] at ih ⊢
        rw [← ih]
        rfl

theorem splitChars_of_not_mem {text : List Char} (without : '/' ∉ text) :
    splitChars text = [text] := by
  induction text with
  | nil => rfl
  | cons c rest ih =>
    obtain ⟨here, later⟩ := not_or.mp (List.mem_cons.not.mp without)
    simp only [splitChars, if_neg (Ne.symm here), ih later]

/-- Parts without slashes are the parts of the text that they make with slashes between them. -/
theorem splitChars_intercalate {parts : List (List Char)} (filled : parts ≠ [])
    (without : ∀ part ∈ parts, '/' ∉ part) : splitChars (List.intercalate ['/'] parts) = parts := by
  induction parts with
  | nil => exact absurd rfl filled
  | cons part rest ih =>
    obtain ⟨here, later⟩ := List.forall_mem_cons.mp without
    cases rest with
    | nil => rw [List.intercalate_singleton, splitChars_of_not_mem here]
    | cons next more =>
      rw [List.intercalate_cons_cons, List.append_assoc, List.singleton_append,
        splitChars_append_slash, splitChars_of_not_mem here, ih (List.cons_ne_nil next more) later]
      rfl

theorem intercalate_append {α : Type} (between : List α) {front back : List (List α)}
    (first : front ≠ []) (second : back ≠ []) :
    List.intercalate between (front ++ back) =
      List.intercalate between front ++ between ++ List.intercalate between back := by
  induction front with
  | nil => exact absurd rfl first
  | cons part parts ih =>
    cases parts with
    | nil =>
      rw [List.singleton_append, List.intercalate_cons_of_ne_nil second,
        List.intercalate_singleton]
    | cons next more =>
      rw [List.cons_append, List.intercalate_cons_of_ne_nil (by simp), ih (by simp),
        List.intercalate_cons_cons]
      simp only [List.append_assoc]

/-! ## Steps -/

theorem steps_ne_nil (spelling : String) : steps spelling ≠ [] := by
  simp [steps, splitChars_ne_nil]

theorem toList_steps (spelling : String) :
    (steps spelling).map String.toList = splitChars spelling.toList := by
  rw [steps, List.map_map]
  simp [Function.comp_def]

theorem steps_of_endsInSlash {spelling : String} (slash : endsInSlash spelling = true) :
    ∃ front, spelling.toList = front ++ ['/'] ∧
      steps spelling = (splitChars front).map String.ofList ++ [""] := by
  have last : spelling.toList.getLast? = some '/' := by simpa [endsInSlash] using slash
  obtain ⟨front, whole⟩ := List.getLast?_eq_some_iff.mp last
  refine ⟨front, whole, ?_⟩
  rw [steps, whole, splitChars_append_slash, List.map_append]
  rfl

/-- A spelling begins with one that ends in a slash just if its first steps are those before the
slash, and others follow. -/
theorem isPrefixOf_iff_steps {start : String} (slash : endsInSlash start = true)
    (spelling : String) :
    start.toList.isPrefixOf spelling.toList = true ↔
      ∃ rest ≠ [], steps spelling = (steps start).dropLast ++ rest := by
  obtain ⟨front, whole, stepsEq⟩ := steps_of_endsInSlash slash
  rw [stepsEq, List.dropLast_concat, List.isPrefixOf_iff_prefix, whole]
  constructor
  · rintro ⟨back, same⟩
    refine ⟨(splitChars back).map String.ofList, by simp [splitChars_ne_nil], ?_⟩
    rw [steps, ← same, List.append_assoc, List.singleton_append, splitChars_append_slash,
      List.map_append]
  · rintro ⟨rest, followed, same⟩
    have parts := congrArg (List.map String.toList) same
    rw [toList_steps, List.map_append, List.map_map] at parts
    have back : rest.map String.toList ≠ [] := by simpa using followed
    have spelled := congrArg (List.intercalate ['/']) parts
    rw [intercalate_splitChars, intercalate_append _ (by simp [splitChars_ne_nil]) back] at spelled
    simp only [Function.comp_def, String.toList_ofList, List.map_id',
      intercalate_splitChars] at spelled
    exact ⟨_, spelled.symm⟩

/-! ## Names -/

def IsName (step : String) : Prop :=
  step ≠ "" ∧ step ≠ "." ∧ step ≠ ".."

instance (step : String) : Decidable (IsName step) :=
  inferInstanceAs (Decidable (_ ∧ _ ∧ _))

theorem advance_of_isName {step : String} (name : IsName step) (place : Path) :
    advance place step = place ++ [step] := by
  obtain ⟨filled, notHere, notUp⟩ := name
  simp [advance, filled, notHere, notUp]

theorem foldl_advance_of_names {names : List String} (all : ∀ step ∈ names, IsName step)
    (place : Path) : names.foldl advance place = place ++ names := by
  induction names generalizing place with
  | nil => simp
  | cons step rest ih =>
    rw [List.foldl_cons, advance_of_isName (all step (List.mem_cons_self ..)),
      ih fun s member => all s (List.mem_cons_of_mem _ member), List.append_assoc,
      List.singleton_append]

theorem isAbsolute_of_first_isName {spelling step : String} {rest : List String}
    (first : steps spelling = step :: rest) (name : IsName step) : isAbsolute spelling = false := by
  rw [isAbsolute, decide_eq_false_iff_not]
  intro slash
  obtain ⟨text, whole⟩ := List.head?_eq_some_iff.mp slash
  rw [steps, whole, splitChars_slash, List.map_cons] at first
  exact name.1 (List.cons.inj first).1.symm

/-! ## Characters -/

def Lacks (c : Char) (place : Path) : Prop :=
  ∀ name ∈ place, c ∉ name.toList

theorem steps_intercalate {names : Path} (filled : names ≠ []) (lacks : Lacks '/' names) :
    steps ("/".intercalate names) = names := by
  have parts : splitChars ("/".intercalate names).toList = names.map String.toList := by
    rw [String.toList_intercalate]
    refine splitChars_intercalate (by simpa using filled) fun part member => ?_
    obtain ⟨name, among, rfl⟩ := List.mem_map.mp member
    exact lacks name among
  rw [steps, parts, List.map_map]
  simp [Function.comp_def]

theorem subset_of_mem_splitChars {part text : List Char} (member : part ∈ splitChars text) :
    part ⊆ text := by
  induction text generalizing part with
  | nil =>
    rw [splitChars, List.mem_singleton] at member
    rw [member]
    exact List.nil_subset _
  | cons c rest ih =>
    by_cases slash : c = '/'
    · subst slash
      rw [splitChars_slash, List.mem_cons] at member
      rcases member with rfl | later
      · exact List.nil_subset _
      · exact List.subset_cons_of_subset _ (ih later)
    · obtain ⟨first, parts, whole, kept⟩ := splitChars_of_ne slash rest
      rw [kept, List.mem_cons] at member
      rcases member with rfl | later
      · exact List.cons_subset_cons c (ih (whole ▸ List.mem_cons_self ..))
      · exact List.subset_cons_of_subset _ (ih (whole ▸ List.mem_cons_of_mem _ later))

theorem Lacks.advance {c : Char} {place : Path} {step : String} (lacks : Lacks c place)
    (without : c ∉ step.toList) : Lacks c (advance place step) := by
  intro name member
  unfold Path.advance at member
  split at member
  · exact lacks name member
  · split at member
    · exact lacks name (List.dropLast_subset place member)
    · rcases List.mem_append.mp member with before | last
      · exact lacks name before
      · rw [List.mem_singleton] at last
        rw [last]
        exact without

theorem Lacks.foldl_advance {c : Char} {place : Path} {steps : List String}
    (lacks : Lacks c place) (without : ∀ step ∈ steps, c ∉ step.toList) :
    Lacks c (steps.foldl Path.advance place) := by
  induction steps generalizing place with
  | nil => exact lacks
  | cons step rest ih =>
    rw [List.forall_mem_cons] at without
    exact ih (lacks.advance without.1) without.2

theorem Lacks.denoted {c : Char} {directory : Path} {spelling : String}
    (lacks : Lacks c directory) (without : c ∉ spelling.toList) :
    Lacks c (denoted directory spelling) := by
  apply Lacks.foldl_advance
  · unfold start
    split
    · intro name member
      cases member
    · exact lacks
  · intro step member inStep
    have part : step.toList ∈ splitChars spelling.toList :=
      toList_steps spelling ▸ List.mem_map_of_mem member
    exact without (subset_of_mem_splitChars part inStep)

theorem Lacks.not_mem_spell {c : Char} {place : Path} (lacks : Lacks c place) (other : c ≠ '/') :
    c ∉ (spell place).toList := by
  have parts (names : Path) (lacks : Lacks c names) :
      c ∉ List.intercalate ['/'] (names.map String.toList) := by
    induction names with
    | nil => simp
    | cons name rest ih =>
      have here : c ∉ name.toList := lacks name (List.mem_cons_self ..)
      cases rest with
      | nil => simpa using here
      | cons next more =>
        have later := ih fun n member => lacks n (List.mem_cons_of_mem _ member)
        rw [List.map_cons, List.map_cons, List.intercalate_cons_cons]
        simp only [List.map_cons] at later
        simp [here, other, later]
  simpa [spell, String.toList_intercalate, other] using parts place lacks

end Remedy.Path

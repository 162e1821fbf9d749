import Remedy.Proofs.Text.Newlines

/-!
# Parts of a text and parts of its lines

No line holds a boundary, and a part of a text that holds none lies within one line. What is looked
for line by line is therefore found wherever it stands in the text, as long as it holds no boundary.
-/

set_option autoImplicit false

namespace Remedy.Text

namespace Line

theorem inside_consChar {c : Char} {lines : List Line} (first : isLineEnd c = false)
    (inside : ∀ line ∈ lines, ∀ d ∈ line.body, isLineEnd d = false) :
    ∀ line ∈ consChar c lines, ∀ d ∈ line.body, isLineEnd d = false := by
  cases lines with
  | nil => simp [consChar, first]
  | cons line others =>
    obtain ⟨here, later⟩ := List.forall_mem_cons.mp inside
    exact List.forall_mem_cons.mpr ⟨List.forall_mem_cons.mpr ⟨first, here⟩, later⟩

theorem inside_of_mem_split (text : List Char) :
    ∀ line ∈ split text, ∀ c ∈ line.body, isLineEnd c = false := by
  fun_induction split text with
  | case1 => exact List.forall_mem_nil _
  | case2 rest ih => exact List.forall_mem_cons.mpr ⟨List.forall_mem_nil _, ih⟩
  | case3 c rest _ _ ih => exact List.forall_mem_cons.mpr ⟨List.forall_mem_nil _, ih⟩
  | case4 c rest _ inside ih => exact inside_consChar (eq_false_of_ne_true inside) ih

theorem body_infix_of_mem_split {text : List Char} {line : Line} (member : line ∈ split text) :
    line.body <:+: text := by
  have whole : (split text).flatMap chars = text := chars_split text
  have among : line.chars <:+: (split text).flatMap chars := by
    rw [List.flatMap_def]
    exact List.infix_of_mem_flatten (List.mem_map_of_mem member)
  rw [whole] at among
  exact (List.prefix_append line.body line.ending).isInfix.trans among

theorem prefix_first_body {part text : List Char} (notEmpty : part ≠ [])
    (inside : ∀ c ∈ part, isLineEnd c = false) (front : part <+: text) :
    ∃ line others, split text = line :: others ∧ part <+: line.body := by
  obtain ⟨c, more, rfl⟩ := List.exists_cons_of_ne_nil notEmpty
  obtain ⟨first, later⟩ := List.forall_mem_cons.mp inside
  obtain ⟨rest, rfl⟩ := front
  induction more generalizing c with
  | nil =>
    rw [List.singleton_append, split_of_not_lineEnd first]
    cases split rest with
    | nil => exact ⟨_, _, rfl, List.prefix_rfl⟩
    | cons line others => exact ⟨_, _, rfl, ⟨line.body, rfl⟩⟩
  | cons d more ih =>
    obtain ⟨next, still⟩ := List.forall_mem_cons.mp later
    obtain ⟨line, others, lines, begins⟩ := ih d (List.cons_ne_nil d more) later next still
    rw [List.cons_append, split_of_not_lineEnd first, lines]
    exact ⟨_, _, rfl, (List.prefix_cons_inj c).mpr begins⟩

theorem exists_mem_consChar (c : Char) {lines : List Line} {line : Line} (member : line ∈ lines) :
    ∃ other ∈ consChar c lines, line.body <:+: other.body := by
  cases lines with
  | nil => cases member
  | cons first others =>
    rcases List.mem_cons.mp member with rfl | later
    · exact ⟨_, List.mem_cons_self .., (List.suffix_cons c line.body).isInfix⟩
    · exact ⟨line, List.mem_cons_of_mem _ later, List.infix_rfl⟩

theorem exists_line_of_infix {part text : List Char} (notEmpty : part ≠ [])
    (inside : ∀ c ∈ part, isLineEnd c = false) (within : part <:+: text) :
    ∃ line ∈ split text, part <:+: line.body := by
  have ofPrefix {text : List Char} (front : part <+: text) :
      ∃ line ∈ split text, part <:+: line.body := by
    obtain ⟨line, others, lines, begins⟩ := prefix_first_body notEmpty inside front
    exact ⟨line, lines ▸ List.mem_cons_self .., begins.isInfix⟩
  have ofRest {line : Line} {rest : List Line} (later : ∃ line ∈ rest, part <:+: line.body) :
      ∃ other ∈ line :: rest, part <:+: other.body :=
    later.imp fun _ found => ⟨List.mem_cons_of_mem _ found.1, found.2⟩
  fun_induction split text with
  | case1 => exact absurd (List.infix_nil.mp within) notEmpty
  | case2 rest ih =>
    rcases List.infix_cons_iff.mp within with front | behind
    · exact ofPrefix front
    · rcases List.infix_cons_iff.mp behind with front | behind
      · obtain ⟨line, others, lines, begins⟩ := prefix_first_body notEmpty inside front
        cases lines
        exact absurd (List.prefix_nil.mp begins) notEmpty
      · exact ofRest (ih behind)
  | case3 c rest notPair ends ih =>
    rcases List.infix_cons_iff.mp within with front | behind
    · have here := ofPrefix front
      rwa [split_of_lineEnd ends (head?_ne_feed notPair)] at here
    · exact ofRest (ih behind)
  | case4 c rest notPair notEnd ih =>
    rcases List.infix_cons_iff.mp within with front | behind
    · have here := ofPrefix front
      rwa [split_of_not_lineEnd (eq_false_of_ne_true notEnd)] at here
    · obtain ⟨line, among, found⟩ := ih behind
      obtain ⟨other, among', wider⟩ := exists_mem_consChar c among
      exact ⟨other, among', found.trans wider⟩

end Line

open Line

theorem inside_of_mem_lines {content line : String} (member : line ∈ lines content) :
    ∀ c ∈ line.toList, isLineEnd c = false := by
  obtain ⟨parts, among, rfl⟩ := List.mem_map.mp member
  rw [String.toList_ofList]
  exact inside_of_mem_split content.toList parts among

theorem inside_of_any {text : List Char} (none : text.any isLineEnd = false) :
    ∀ c ∈ text, isLineEnd c = false := by
  simpa using none

/-- A part without boundaries is part of a text just if it is part of one of its lines. -/
theorem infix_iff_exists_line {part : List Char} (notEmpty : part ≠ [])
    (inside : ∀ c ∈ part, isLineEnd c = false) (content : String) :
    part <:+: content.toList ↔ ∃ line ∈ lines content, part <:+: line.toList := by
  constructor
  · intro within
    obtain ⟨line, among, found⟩ := exists_line_of_infix notEmpty inside within
    refine ⟨String.ofList line.body, List.mem_map_of_mem among, ?_⟩
    rwa [String.toList_ofList]
  · rintro ⟨_, member, found⟩
    obtain ⟨line, among, rfl⟩ := List.mem_map.mp member
    rw [String.toList_ofList] at found
    exact found.trans (body_infix_of_mem_split among)

end Remedy.Text

import Mathlib.Data.List.Basic
import Remedy.Proofs.Text.Joining

/-!
# The last line of a text

Only the last line of a text can lack its ending. Texts of which every one that another follows is
a whole line are therefore the lines of what they make up, also when nothing ends the last one.
Where a text without an ending is followed by one all the same, the two become one line.
-/

set_option autoImplicit false

namespace Remedy.Text

namespace Line

def Unended (line : Line) : Prop :=
  line.body ≠ [] ∧ (∀ c ∈ line.body, isLineEnd c = false) ∧ line.ending = []

/-- Lines as they come in a text: a line that another follows is whole. -/
structure Listed (lines : List Line) : Prop where
  followed : lines.Pairwise fun line _ => line.Whole
  each : ∀ line ∈ lines, line.Whole ∨ line.Unended

theorem Listed.cons {line : Line} (whole : line.Whole) {rest : List Line} (listed : Listed rest) :
    Listed (line :: rest) :=
  ⟨List.pairwise_cons.mpr ⟨fun _ _ => whole, listed.followed⟩,
    List.forall_mem_cons.mpr ⟨Or.inl whole, listed.each⟩⟩

theorem Listed.consChar {c : Char} (inside : isLineEnd c = false) {lines : List Line}
    (listed : Listed lines) : Listed (consChar c lines) := by
  cases lines with
  | nil =>
    exact ⟨List.pairwise_singleton _ _, List.forall_mem_singleton.mpr
      (Or.inr ⟨List.cons_ne_nil c [], List.forall_mem_singleton.mpr inside, rfl⟩)⟩
  | cons line rest =>
    obtain ⟨before, later⟩ := List.pairwise_cons.mp listed.followed
    obtain ⟨first, others⟩ := List.forall_mem_cons.mp listed.each
    refine ⟨List.pairwise_cons.mpr ⟨fun next member => (before next member).cons inside, later⟩,
      List.forall_mem_cons.mpr ⟨?_, others⟩⟩
    rcases first with whole | ⟨-, within, none⟩
    · exact Or.inl (whole.cons inside)
    · exact Or.inr ⟨List.cons_ne_nil _ _, List.forall_mem_cons.mpr ⟨inside, within⟩, none⟩

theorem listed_split (text : List Char) : Listed (split text) := by
  fun_induction split text with
  | case1 => exact ⟨.nil, List.forall_mem_nil _⟩
  | case2 rest ih => exact ih.cons ⟨List.forall_mem_nil _, Or.inl rfl⟩
  | case3 c rest _ ends ih => exact ih.cons ⟨List.forall_mem_nil _, Or.inr ⟨c, ends, rfl⟩⟩
  | case4 c rest _ inside ih => exact ih.consChar (eq_false_of_ne_true inside)

theorem split_of_unended {text : List Char} (some : text ≠ [])
    (inside : ∀ c ∈ text, isLineEnd c = false) : split text = [⟨text, []⟩] := by
  induction text with
  | nil => exact absurd rfl some
  | cons c rest ih =>
    obtain ⟨first, later⟩ := List.forall_mem_cons.mp inside
    rw [split_of_not_lineEnd first]
    cases rest with
    | nil => rfl
    | cons d more =>
      rw [ih (List.cons_ne_nil d more) later]
      rfl

theorem terminated_of_split {text : List Char} {front : List Line} {last : Line}
    (lines : split text = front ++ [last]) (whole : last.Whole) : Terminated text := by
  have chars := chars_split text
  rw [lines, List.flatMap_append, List.flatMap_singleton] at chars
  intro c ends
  rw [← chars, List.getLast?_append_of_ne_nil _ whole.chars_ne_nil] at ends
  exact whole.terminated c ends

end Line

open Line

def IsUnended (text : String) : Prop :=
  text.toList ≠ [] ∧ ∀ c ∈ text.toList, isLineEnd c = false

theorem IsUnended.mark {mark : Char} (inside : isLineEnd mark = false) {text : String}
    (unended : IsUnended text) : IsUnended (mark.toString ++ text) := by
  have chars : (mark.toString ++ text).toList = mark :: text.toList := by
    simp
  rw [IsUnended, chars]
  exact ⟨List.cons_ne_nil _ _, List.forall_mem_cons.mpr ⟨inside, unended.2⟩⟩

theorem IsUnended.append_isLine {text line : String} (unended : IsUnended text)
    (isLine : IsLine line) : IsLine (text ++ line) := by
  obtain ⟨parts, whole, chars⟩ := isLine.whole
  refine ⟨⟨⟨text.toList ++ parts.body, parts.ending⟩, ⟨?_, whole.2⟩, ?_⟩, ?_⟩
  · exact List.forall_mem_append.mpr ⟨unended.2, whole.1⟩
  · rw [String.toList_append, ← chars, Line.chars, Line.chars, List.append_assoc]
  · obtain ⟨c, rest, begins⟩ := List.exists_cons_of_ne_nil unended.1
    have first := unended.2
    rw [begins] at first
    rw [String.toList_append, begins]
    exact fun feed => ne_feed_of_inside (first c (List.mem_cons_self ..)) (Option.some.inj feed)

theorem IsUnended.append {text more : String} (unended : IsUnended text) (others : IsUnended more) :
    IsUnended (text ++ more) := by
  rw [IsUnended, String.toList_append]
  exact ⟨List.append_ne_nil_of_left_ne_nil unended.1 _,
    List.forall_mem_append.mpr ⟨unended.2, others.2⟩⟩

/-! ## Lines behind marks -/

/-- A line of a text that has its ending: it is a line behind a mark, too. -/
def Ended (line : String) : Prop :=
  ∀ mark, isLineEnd mark = false → IsLine (mark.toString ++ line)

section Lines

variable {whole : String}

theorem ended_ofList {line : Line} (isWhole : line.Whole) : Ended (String.ofList line.chars) := by
  intro mark inside
  refine ⟨⟨_, isWhole.cons inside, ?_⟩, ?_⟩
  · simp [chars]
  · simpa using ne_feed_of_inside inside

theorem isUnended_ofList {line : Line} (unended : line.Unended) :
    IsUnended (String.ofList line.chars) := by
  obtain ⟨some, inside, none⟩ := unended
  rw [IsUnended, String.toList_ofList, Line.chars, none, List.append_nil]
  exact ⟨some, inside⟩

theorem pairwise_ended (whole : String) :
    (linesWithEndings whole).Pairwise fun line _ => Ended line := by
  rw [linesWithEndings, List.pairwise_map]
  exact (listed_split whole.toList).followed.imp fun isWhole => ended_ofList isWhole

theorem ended_or_isUnended {line : String} (member : line ∈ linesWithEndings whole) :
    Ended line ∨ IsUnended line := by
  obtain ⟨parts, among, rfl⟩ := List.mem_map.mp member
  exact ((listed_split whole.toList).each parts among).imp ended_ofList isUnended_ofList

theorem ended_of_terminated (terminated : Terminated whole.toList) :
    ∀ line ∈ linesWithEndings whole, Ended line :=
  fun _ member _ inside => isLine_mark inside terminated member

theorem isUnended_of_last (unfinished : ¬ Terminated whole.toList) {front : List String}
    {last : String} (lines : linesWithEndings whole = front ++ [last]) : IsUnended last := by
  obtain ⟨before, ends, found, -, made⟩ := List.map_eq_append_iff.mp lines
  obtain ⟨line, rfl, rfl⟩ := List.map_eq_singleton_iff.mp made
  have member : line ∈ split whole.toList := by
    rw [found]
    exact List.mem_append_right before (List.mem_singleton_self line)
  rcases (listed_split whole.toList).each line member with isWhole | unended
  · exact absurd (terminated_of_split found isWhole) unfinished
  · exact isUnended_ofList unended

end Lines

/-! ## Texts one to a line -/

/-- Texts that stand one to a line: one that another follows is a line, and the last one may lack
its ending. -/
structure Linewise (texts : List String) : Prop where
  followed : texts.Pairwise fun text _ => IsLine text
  each : ∀ text ∈ texts, IsLine text ∨ IsUnended text

theorem join_glue (front : List String) (text next : String) (rest : List String) :
    String.join (front ++ text :: next :: rest) =
      String.join (front ++ (text ++ next) :: rest) := by
  apply String.toList_inj.mp
  simp [String.toList_join]

namespace Linewise

theorem append {front texts : List String} (before : ∀ text ∈ front, IsLine text)
    (linewise : Linewise texts) : Linewise (front ++ texts) :=
  ⟨List.pairwise_append.mpr ⟨List.pairwise_of_forall_mem_list fun text member _ _ =>
      before text member, linewise.followed, fun text member _ _ => before text member⟩,
    List.forall_mem_append.mpr ⟨fun text member => Or.inl (before text member), linewise.each⟩⟩

/-- An unended text in front of the first of some texts makes one line with it. -/
theorem glue {text next : String} {rest : List String} (unended : IsUnended text)
    (linewise : Linewise (next :: rest)) : Linewise ((text ++ next) :: rest) := by
  obtain ⟨before, later⟩ := List.pairwise_cons.mp linewise.followed
  obtain ⟨first, others⟩ := List.forall_mem_cons.mp linewise.each
  exact ⟨List.pairwise_cons.mpr
      ⟨fun other member => unended.append_isLine (before other member), later⟩,
    List.forall_mem_cons.mpr ⟨first.imp unended.append_isLine unended.append, others⟩⟩

/-- Texts that stand one to a line are the lines of the text that they make up. -/
theorem linesWithEndings_join {texts : List String} (linewise : Linewise texts) :
    linesWithEndings (String.join texts) = texts := by
  rcases List.eq_nil_or_concat' texts with rfl | ⟨front, last, rfl⟩
  · rfl
  obtain ⟨-, -, before⟩ := List.pairwise_append.mp linewise.followed
  have all : ∀ text ∈ front, IsLine text := fun text member =>
    before text member last (List.mem_singleton_self last)
  have lines := Text.linesWithEndings_join all
  rcases linewise.each last (List.mem_append_right front (List.mem_singleton_self last)) with
    isLine | unended
  · exact Text.linesWithEndings_join
      (List.forall_mem_append.mpr ⟨all, List.forall_mem_singleton.mpr isLine⟩)
  · have terminated : Terminated (String.join front).toList := by
      rcases List.eq_nil_or_concat' front with rfl | ⟨earlier, line, rfl⟩
      · exact fun _ none => nomatch none
      · have isLine := all line (List.mem_append_right earlier (List.mem_singleton_self line))
        obtain ⟨parts, isWhole, chars⟩ := isLine.whole
        intro c ends
        rw [String.toList_join, List.flatMap_append, List.flatMap_singleton,
          List.getLast?_append_of_ne_nil _ isLine.ne_empty, ← chars] at ends
        exact isWhole.terminated c ends
    have apart : last.toList.head? ≠ some '\n' := by
      intro feed
      have within := unended.2 '\n' (List.mem_of_mem_head? feed)
      cases within
    have chars : (String.join (front ++ [last])).toList =
        (String.join front).toList ++ last.toList := by
      rw [String.toList_join, String.toList_join, List.flatMap_append, List.flatMap_singleton]
    rw [linesWithEndings] at lines ⊢
    rw [chars, split_append terminated fun _ => apart, split_of_unended unended.1 unended.2,
      List.map_append, lines, List.map_singleton, Line.chars, List.append_nil, String.ofList_toList]

end Linewise

end Remedy.Text

import Remedy.Proofs.Completion.Echo

/-!
# Fences on lines of their own

Where every fence stands on a line of its own, cleaning takes these lines away and nothing else
but the white space at both ends: the code comes out as it was written, with all its backticks. A
text without fences that does not end in a backtick neither joins the fence behind it nor, once
that is gone, makes up a fence with what follows.
-/

set_option autoImplicit false

namespace Remedy.Completion

open Text

/-- The line of a fence: three backticks, a language tag and blanks. -/
structure FenceLine where
  tag : String
  blanks : String
  tagged : ∀ c ∈ tag.toList, isTagChar c = true
  blank : ∀ c ∈ blanks.toList, isLineBlank c = true

def FenceLine.mark (line : FenceLine) : String :=
  "\x60\x60\x60" ++ line.tag ++ line.blanks

/-- Code before a fence line: it has no fence, and it is empty or ends with a line feed. -/
structure Segment where
  text : String
  fenceless : Fenceless text.toList
  aligned : text = "" ∨ ∃ front, text = front ++ "\n"

/-- A text of code with any number of fences, each on a line of its own. The last line may be a
fence without a line feed. -/
inductive Fenced where
  | code (text : String) (fenceless : Fenceless text.toList)
  | fence (before : Segment) (line : FenceLine) (rest : Fenced)
  | lastFence (before : Segment) (line : FenceLine)

namespace Fenced

def text : Fenced → String
  | code text _ => text
  | fence before line rest => before.text ++ (line.mark ++ "\n" ++ rest.text)
  | lastFence before line => before.text ++ line.mark

def pieces : Fenced → String
  | code text _ => text
  | fence before _ rest => before.text ++ rest.pieces
  | lastFence before _ => before.text

end Fenced

/-! ## Texts that stand before a fence -/

/-- A text without fences that does not end in a backtick begins no fence with what follows. -/
theorem not_fence_prefix_append {text : List Char} (notEmpty : text ≠ [])
    (noFence : ¬ fence <+: text) (last : text.getLast? ≠ some '\x60') (rest : List Char) :
    ¬ fence <+: text ++ rest := by
  intro opens
  rcases List.prefix_or_prefix_of_prefix opens (List.prefix_append text rest) with whole | part
  · exact noFence whole
  · have inside : text.getLast notEmpty ∈ fence := part.subset (List.getLast_mem notEmpty)
    have backtick : text.getLast notEmpty = '\x60' := by simpa [fence] using inside
    exact last (by rw [List.getLast?_eq_some_getLast notEmpty, backtick])

theorem getLast?_tail_ne {c : Char} {rest : List Char} (last : (c :: rest).getLast? ≠ some '\x60') :
    rest.getLast? ≠ some '\x60' :=
  fun backtick => last (by rw [List.getLast?_cons, backtick]; rfl)

theorem removeTagged_append {text : List Char} (fenceless : Fenceless text)
    (last : text.getLast? ≠ some '\x60') (fuel : Nat) (rest : List Char) :
    removeTagged (text.length + fuel) (text ++ rest) = text ++ removeTagged fuel rest := by
  induction text with
  | nil => rw [List.length_nil, Nat.zero_add, List.nil_append, List.nil_append]
  | cons c text ih =>
    obtain ⟨noFence, later⟩ := fenceless_cons_iff.mp fenceless
    have opensNot := not_fence_prefix_append (List.cons_ne_nil c text) noFence last rest
    rw [List.cons_append] at opensNot
    rw [List.length_cons, Nat.add_right_comm, List.cons_append, removeTagged_cons opensNot,
      ih later (getLast?_tail_ne last), List.cons_append]

theorem Fenceless.append {first second : List Char} (fenceless : Fenceless first)
    (last : first.getLast? ≠ some '\x60') (fenceless' : Fenceless second) :
    Fenceless (first ++ second) := by
  induction first with
  | nil => exact fenceless'
  | cons c first ih =>
    obtain ⟨noFence, later⟩ := fenceless_cons_iff.mp fenceless
    exact fenceless_cons_iff.mpr
      ⟨not_fence_prefix_append (List.cons_ne_nil c first) noFence last second,
        ih later (getLast?_tail_ne last)⟩

theorem Segment.getLast?_ne (before : Segment) : before.text.toList.getLast? ≠ some '\x60' := by
  rcases before.aligned with empty | ⟨front, feed⟩
  · rw [empty]
    exact nofun
  · have last : before.text.toList.getLast? = some '\n' := by
      rw [feed, String.toList_append]
      exact List.getLast?_concat
    rw [last]
    decide

theorem FenceLine.mark_toList (line : FenceLine) :
    line.mark.toList = Completion.fence ++ (line.tag.toList ++ line.blanks.toList) := by
  simp [mark, Completion.fence]

/-! ## Texts with fences on lines of their own -/

namespace Fenced

theorem fenceless_pieces (fenced : Fenced) : Fenceless fenced.pieces.toList := by
  induction fenced with
  | code text fenceless => exact fenceless
  | fence before line rest ih =>
    rw [pieces, String.toList_append]
    exact before.fenceless.append before.getLast?_ne ih
  | lastFence before line => exact before.fenceless

/-- One fence is taken away from behind the code before it, with its tag, its blanks and a line feed
if one follows; the rest is treated likewise. -/
theorem removeTagged_mark (before : Segment) (line : FenceLine) {rest : List Char} {fuel : Nat}
    (enough : (before.text.toList ++ (line.mark.toList ++ rest)).length ≤ fuel) :
    ∃ spare, rest.length ≤ spare ∧
      removeTagged fuel (before.text.toList ++ (line.mark.toList ++ rest)) =
        before.text.toList ++
          removeTagged spare (afterTag (line.tag.toList ++ (line.blanks.toList ++ rest))) := by
  simp only [List.length_append, line.mark_toList, Completion.fence, List.length_cons] at enough
  obtain ⟨spare, rfl⟩ : ∃ spare, fuel = before.text.toList.length + (spare + 1) :=
    ⟨fuel - before.text.toList.length - 1, by omega⟩
  refine ⟨spare, by omega, ?_⟩
  rw [removeTagged_append before.fenceless before.getLast?_ne, line.mark_toList, List.append_assoc,
    removeTagged_fence, List.append_assoc]

theorem removeTagged_text (fenced : Fenced) {fuel : Nat}
    (enough : fenced.text.toList.length ≤ fuel) :
    removeTagged fuel fenced.text.toList = fenced.pieces.toList := by
  induction fenced generalizing fuel with
  | code text fenceless => exact removeTagged_of_fenceless fenceless fuel
  | fence before line rest ih =>
    have spelled : (fence before line rest).text.toList =
        before.text.toList ++ (line.mark.toList ++ '\n' :: rest.text.toList) := by
      simp [text]
    rw [spelled] at enough ⊢
    obtain ⟨spare, left, removed⟩ := removeTagged_mark before line enough
    rw [removed, afterTag_line line.tagged line.blank, ih (Nat.le_of_succ_le left), pieces,
      String.toList_append]
  | lastFence before line =>
    have spelled : (lastFence before line).text.toList =
        before.text.toList ++ (line.mark.toList ++ []) := by
      simp [text]
    have nothing : afterTag (line.tag.toList ++ (line.blanks.toList ++ [])) = [] :=
      afterTag_append line.tagged line.blank nofun
    rw [spelled] at enough ⊢
    obtain ⟨spare, -, removed⟩ := removeTagged_mark before line enough
    rw [removed, nothing, removeTagged_of_fenceless fenceless_nil, List.append_nil, pieces]

/-- Cleaning keeps the code. Of a text in which every fence stands on a line of its own it takes
away the fence lines and the white space at both ends, and nothing else: whatever the pieces of code
hold, they follow each other as they were written. -/
theorem clean_keeps_code (fenced : Fenced) : clean fenced.text = strip fenced.pieces := by
  apply String.toList_injective
  rw [clean_toList, strip_toList, cleanChars, fenced.removeTagged_text (Nat.le_refl _),
    removeBare_of_fenceless fenced.fenceless_pieces]

/-- Two fence lines around code with backticks of its own. -/
theorem clean_keeps_code_two_fences :
    ∃ fenced : Fenced,
      fenced.text = "a();\n\x60\x60\x60js \nlet b = \x60\x60c\x60;\n\x60\x60\x60\n\x60d" ∧
      fenced.pieces = "a();\nlet b = \x60\x60c\x60;\n\x60d" ∧
      clean fenced.text = strip fenced.pieces ∧ strip fenced.pieces = fenced.pieces := by
  let front : Segment := ⟨"a();\n", by decide +kernel, Or.inr ⟨"a();", rfl⟩⟩
  let middle : Segment := ⟨"let b = \x60\x60c\x60;\n", by decide +kernel,
    Or.inr ⟨"let b = \x60\x60c\x60;", rfl⟩⟩
  let opening : FenceLine :=
    ⟨"js", " ", List.all_eq_true.mp (by decide +kernel), List.all_eq_true.mp (by decide +kernel)⟩
  let closing : FenceLine := ⟨"", "", by simp, by simp⟩
  let fenced : Fenced := .fence front opening
    (.fence middle closing (.code "\x60d" (by decide +kernel)))
  exact ⟨fenced, rfl, rfl, clean_keeps_code fenced, by decide +kernel⟩

end Fenced

end Remedy.Completion

import Remedy.Text.Lines

/-!
# Newlines and lines

A carriage return ends a line as a line feed does, and one before a line feed ends the line
together with it. A text with line feeds for all newlines therefore has the lines that it had.
-/

set_option autoImplicit false

namespace Remedy.Text

namespace Line

theorem split_pair (rest : List Char) :
    split ('\r' :: '\n' :: rest) = ⟨[], ['\r', '\n']⟩ :: split rest := rfl

theorem split_of_lineEnd {c : Char} {rest : List Char} (ends : isLineEnd c = true)
    (single : c = '\r' → rest.head? ≠ some '\n') :
    split (c :: rest) = ⟨[], [c]⟩ :: split rest := by
  rw [split.eq_def]
  split
  · contradiction
  · next pair =>
    obtain ⟨rfl, rfl⟩ := List.cons.inj pair
    exact absurd rfl (single rfl)
  · next first later _ whole =>
    obtain ⟨rfl, rfl⟩ := List.cons.inj whole
    rw [if_pos ends]

theorem head?_ne_feed {c : Char} {rest : List Char}
    (noPair : ∀ more, c = '\r' → rest = '\n' :: more → False) (returns : c = '\r') :
    rest.head? ≠ some '\n' := by
  intro head
  obtain ⟨more, rfl⟩ := List.head?_eq_some_iff.mp head
  exact noPair more returns rfl

theorem split_of_not_lineEnd {c : Char} {rest : List Char} (inside : isLineEnd c = false) :
    split (c :: rest) = consChar c (split rest) := by
  rw [split.eq_def]
  split
  · contradiction
  · next pair =>
    obtain ⟨rfl, rfl⟩ := List.cons.inj pair
    exact absurd inside (by decide)
  · next first later _ whole =>
    obtain ⟨rfl, rfl⟩ := List.cons.inj whole
    rw [inside, if_neg Bool.false_ne_true]

theorem bodies_consChar (c : Char) {a b : List Line} (same : a.map body = b.map body) :
    (consChar c a).map body = (consChar c b).map body := by
  cases a with
  | nil => rw [List.map_eq_nil_iff.mp same.symm]
  | cons first rest =>
    obtain ⟨second, more, rfl, head, tail⟩ := List.map_eq_cons_iff.mp same.symm
    simp [consChar, head, tail]

end Line

open Line

theorem bodies_unifyNewlinesChars (text : List Char) :
    (split (unifyNewlinesChars text)).map body = (split text).map body := by
  fun_induction unifyNewlinesChars text with
  | case1 => rfl
  | case2 rest ih =>
    rw [split_pair, split_of_lineEnd (by decide) (by simp), List.map_cons, List.map_cons, ih]
  | case3 c rest notPair ih =>
    have single : c = '\r' → rest.head? ≠ some '\n' := head?_ne_feed notPair
    by_cases returns : c = '\r'
    · have ends : isLineEnd c = true := by
        rw [returns]
        decide
      rw [if_pos returns, split_of_lineEnd (by decide) (by simp),
        split_of_lineEnd ends single, List.map_cons, List.map_cons, ih]
    · rw [if_neg returns]
      cases ends : isLineEnd c with
      | true =>
        rw [split_of_lineEnd ends fun same => absurd same returns,
          split_of_lineEnd ends single, List.map_cons, List.map_cons, ih]
      | false =>
        rw [split_of_not_lineEnd ends, split_of_not_lineEnd ends, bodies_consChar c ih]

theorem lines_unifyNewlines (text : String) : lines (unifyNewlines text) = lines text := by
  have bodies := congrArg (List.map String.ofList) (bodies_unifyNewlinesChars text.toList)
  rw [List.map_map, List.map_map] at bodies
  rw [lines, lines, unifyNewlines, String.toList_ofList]
  exact bodies

end Remedy.Text

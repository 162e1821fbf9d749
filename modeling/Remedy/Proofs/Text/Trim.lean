import Mathlib.Data.List.TakeWhile
import Remedy.Text.Blank

/-!
# Trimming

A trimmed text has no white space at either end. Trimming takes white space away from both ends
until the text is trimmed, and nothing else.
-/

set_option autoImplicit false

namespace Remedy.Text

def Trimmed (text : List Char) : Prop :=
  (∀ c, text.head? = some c → isBlank c = false) ∧
    ∀ c, text.getLast? = some c → isBlank c = false

theorem dropWhile_of_head {skips : Char → Bool} {text : List Char}
    (stays : ∀ c, text.head? = some c → skips c = false) : text.dropWhile skips = text := by
  cases text with
  | nil => rfl
  | cons c rest => rw [List.dropWhile_cons_of_neg (by simp [stays c rfl])]

theorem head_dropWhile {skips : Char → Bool} {text : List Char} {c : Char}
    (head : (text.dropWhile skips).head? = some c) : skips c = false := by
  have stopped := List.head?_dropWhile_not skips text
  rw [head] at stopped
  exact stopped

theorem trimRight_prefix_self (skips : Char → Bool) (text : List Char) :
    trimRight skips text <+: text := by
  have suffix : text.reverse.dropWhile skips <:+ text.reverse := List.dropWhile_suffix skips
  have reversed := List.reverse_prefix.mpr suffix
  rwa [List.reverse_reverse] at reversed

theorem stripChars_infix_self (text : List Char) : stripChars text <:+: text :=
  (trimRight_prefix_self isBlank (trimLeft isBlank text)).isInfix.trans
    (List.dropWhile_suffix isBlank).isInfix

theorem trimmed_stripChars (text : List Char) : Trimmed (stripChars text) := by
  constructor
  · intro c head
    obtain ⟨rest, whole⟩ := trimRight_prefix_self isBlank (trimLeft isBlank text)
    have headBefore : (trimLeft isBlank text).head? = some c := by
      rw [← whole, List.head?_append, ← stripChars, head]
      rfl
    exact head_dropWhile headBefore
  · intro c last
    rw [stripChars, trimRight, List.getLast?_reverse] at last
    exact head_dropWhile last

theorem stripChars_append {text tail : List Char} (trimmed : Trimmed text)
    (blank : ∀ c ∈ tail, isBlank c = true) : stripChars (text ++ tail) = text := by
  have behind : trimRight isBlank (text ++ tail) = text := by
    have stays : ∀ c, text.reverse.head? = some c → isBlank c = false := by
      intro c head
      rw [List.head?_reverse] at head
      exact trimmed.2 c head
    rw [trimRight, List.reverse_append, List.dropWhile_append_of_pos (by simpa using blank),
      dropWhile_of_head stays, List.reverse_reverse]
  cases text with
  | nil =>
    have gone : tail.dropWhile isBlank = [] := List.dropWhile_eq_nil_iff.mpr blank
    rw [stripChars, trimLeft, List.nil_append, gone]
    rfl
  | cons c rest =>
    rw [stripChars, trimLeft, List.cons_append,
      List.dropWhile_cons_of_neg (by simp [trimmed.1 c rfl])]
    exact behind

theorem stripChars_of_trimmed {text : List Char} (trimmed : Trimmed text) :
    stripChars text = text := by
  have kept := stripChars_append trimmed (List.forall_mem_nil _)
  rwa [List.append_nil] at kept

end Remedy.Text

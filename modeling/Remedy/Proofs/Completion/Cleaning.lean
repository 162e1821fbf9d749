import Remedy.Proofs.Completion.Echo

/-!
# What cleaning leaves

Cleaning only takes characters away. What it leaves has no fence and no white space at its ends,
so cleaning it again takes nothing more away; and of a text without fences it is the trimmed text.
-/

set_option autoImplicit false

namespace Remedy.Completion

open Text

theorem dropNewline_suffix (text : List Char) : dropNewline text <:+ text := by
  unfold dropNewline
  split
  · exact List.suffix_cons _ _
  · exact List.suffix_rfl

theorem afterTag_suffix (text : List Char) : afterTag text <:+ text :=
  (dropNewline_suffix _).trans
    ((List.dropWhile_suffix isLineBlank).trans (List.dropWhile_suffix isTagChar))

theorem removeTagged_sublist (fuel : Nat) (text : List Char) :
    (removeTagged fuel text).Sublist text := by
  fun_induction removeTagged fuel text with
  | case1 fuel rest ih =>
    have behind : (afterTag rest).Sublist (fence ++ rest) :=
      (afterTag_suffix rest).sublist.trans (List.sublist_append_right fence rest)
    exact ih.trans behind
  | case2 fuel c rest _ ih => exact ih.cons_cons c
  | case3 => exact List.Sublist.refl _

theorem removeBare_sublist (text : List Char) : (removeBare text).Sublist text := by
  fun_induction removeBare text with
  | case1 rest ih => exact ih.trans (List.sublist_append_right fence rest)
  | case2 c rest _ ih => exact ih.cons_cons c
  | case3 => exact List.Sublist.refl _

theorem cleanChars_sublist (text : List Char) : (cleanChars text).Sublist text :=
  (stripChars_infix_self _).sublist.trans
    ((removeBare_sublist _).trans (removeTagged_sublist _ _))

theorem clean_of_fenceless {text : String} (fenceless : Fenceless text.toList) :
    clean text = strip text := by
  apply String.toList_injective
  rw [clean_toList, strip_toList, cleanChars_of_fenceless fenceless]

theorem strip_of_trimmed {text : String} (trimmed : Trimmed text.toList) : strip text = text := by
  apply String.toList_injective
  rw [strip_toList, stripChars_of_trimmed trimmed]

/-- Whatever fences a completion has, nested, split or one after the other: cleaning leaves part
of its characters in their order, no fence among them and no white space at their ends, and that
is all that it does to a text without fences. -/
theorem clean_normalizes (text : String) :
    Fenceless (clean text).toList ∧ Trimmed (clean text).toList ∧
      (clean text).toList.Sublist text.toList ∧ clean (clean text) = clean text ∧
      (Fenceless text.toList → clean text = strip text) := by
  have settled : clean (clean text) = clean text := by
    rw [clean_of_fenceless (fenceless_clean text), strip_of_trimmed (trimmed_clean text)]
  have part : (clean text).toList.Sublist text.toList := by
    rw [clean_toList]
    exact cleanChars_sublist text.toList
  exact ⟨fenceless_clean text, trimmed_clean text, part, settled, clean_of_fenceless⟩

/-- Pairs of backticks are no fences and stay. -/
theorem clean_normalizes_inline_code :
    Fenceless " let a = ``b``\n".toList ∧ clean " let a = ``b``\n" = "let a = ``b``" := by
  have fenceless : Fenceless " let a = ``b``\n".toList := by
    unfold Fenceless
    decide +kernel
  have trimmed : strip " let a = ``b``\n" = "let a = ``b``" := by
    decide +kernel
  exact ⟨fenceless, ((clean_normalizes _).2.2.2.2 fenceless).trans trimmed⟩

end Remedy.Completion

import Remedy.Proofs.Diff.Context

/-!
# What hunks take from a script

Hunks leave lines out but change nothing else: their lines, one hunk after the other, are lines of
the script in its order, and their changes are its changes. A change at the end of the script ends
the last hunk.
-/

set_option autoImplicit false

namespace Remedy.Diff

theorem flatMap_sublist {α β : Type} (f : α → List β) {xs ys : List α} (taken : xs.Sublist ys) :
    (xs.flatMap f).Sublist (ys.flatMap f) := by
  induction taken with
  | slnil => exact List.Sublist.refl []
  | cons y _ ih => exact ih.trans (List.sublist_append_right (f y) _)
  | cons_cons x _ ih => exact ih.append_left (f x)

theorem hunksFrom_body_sublist (oldBefore newBefore : Nat) (hunk : Hunk)
    (edits : List (Edit String)) :
    List.Sublist ((hunksFrom oldBefore newBefore hunk edits).flatMap Hunk.body)
      (hunk.body ++ edits.flatMap Edit.marked) := by
  have closed (hunk : Hunk) (kept : List String) :
      (closeHunk hunk kept).body = hunk.body ++ (Edit.keep (kept.take context)).marked :=
    hunk.body_snoc _
  fun_induction hunksFrom oldBefore newBefore hunk edits with
  | case1 oldBefore newBefore hunk => rw [List.flatMap_singleton, List.flatMap_nil, List.append_nil]
  | case2 oldBefore newBefore hunk kept =>
    rw [List.flatMap_singleton, List.flatMap_singleton, closed]
    exact ((List.take_sublist _ _).map _).append_left _
  | case3 oldBefore newBefore hunk kept rest notLast oldBefore' newBefore' far ih =>
    have ends : List.Sublist (kept.take context ++ kept.drop (kept.length - context)) kept := by
      have whole := take_append_gap_append_drop far []
      rw [List.append_nil, List.append_nil] at whole
      conv_rhs => rw [← whole]
      exact (List.sublist_append_right _ _).append_left _
    have opened : (openHunk oldBefore newBefore kept).body =
        (Edit.keep (kept.drop (kept.length - context))).marked := List.flatMap_singleton ..
    rw [opened] at ih
    rw [List.flatMap_cons, List.flatMap_cons, closed, List.append_assoc]
    refine List.Sublist.append_left ?_ _
    refine (ih.append_left _).trans ?_
    rw [← List.append_assoc, Edit.marked, Edit.marked, ← List.map_append]
    exact (ends.map _).append_right _
  | case4 oldBefore newBefore hunk kept rest notLast oldBefore' newBefore' near ih =>
    rw [Hunk.body_snoc, List.append_assoc] at ih
    exact ih
  | case5 oldBefore newBefore hunk removed added rest ih =>
    rw [Hunk.body_snoc, List.append_assoc] at ih
    exact ih

theorem mem_of_mem_hunksFrom {oldBefore newBefore : Nat} {hunk : Hunk} {edits : List (Edit String)}
    {made : Hunk} (member : made ∈ hunksFrom oldBefore newBefore hunk edits) {edit : Edit String}
    (among : edit ∈ made.edits) (change : edit.isKeep = false) : edit ∈ hunk.edits ++ edits := by
  have notKept {kept : List String} : edit ∉ [Edit.keep kept] := by
    intro same
    rw [List.mem_singleton.mp same] at change
    cases change
  fun_induction hunksFrom oldBefore newBefore hunk edits with
  | case1 oldBefore newBefore hunk =>
    rw [List.mem_singleton.mp member] at among
    exact List.mem_append_left _ among
  | case2 oldBefore newBefore hunk kept =>
    rw [List.mem_singleton.mp member] at among
    exact List.mem_append_left _ ((List.mem_append.mp among).resolve_right notKept)
  | case3 oldBefore newBefore hunk kept rest notLast oldBefore' newBefore' far ih =>
    rcases List.mem_cons.mp member with rfl | later
    · exact List.mem_append_left _ ((List.mem_append.mp among).resolve_right notKept)
    · have found := (List.mem_append.mp (ih later)).resolve_left notKept
      exact List.mem_append_right _ (List.mem_cons_of_mem _ found)
  | case4 oldBefore newBefore hunk kept rest notLast oldBefore' newBefore' near ih =>
    have found := ih member
    rw [List.append_assoc] at found
    exact found
  | case5 oldBefore newBefore hunk removed added rest ih =>
    have found := ih member
    rw [List.append_assoc] at found
    exact found

theorem hunksFrom_last (oldBefore newBefore : Nat) {hunk : Hunk} {edits : List (Edit String)}
    {removed added : List String}
    (last : (hunk.edits ++ edits).getLast? = some (.change removed added)) :
    ∃ before made more, hunksFrom oldBefore newBefore hunk edits = before ++ [made] ∧
      made.edits = more ++ [.change removed added] := by
  fun_induction hunksFrom oldBefore newBefore hunk edits with
  | case1 oldBefore newBefore hunk =>
    rw [List.append_nil] at last
    obtain ⟨more, ends⟩ := List.getLast?_eq_some_iff.mp last
    exact ⟨[], hunk, more, rfl, ends⟩
  | case2 oldBefore newBefore hunk kept =>
    rw [List.getLast?_concat] at last
    cases last
  | case3 oldBefore newBefore hunk kept rest notLast oldBefore' newBefore' far ih =>
    obtain ⟨edit, behind, rfl⟩ := List.exists_cons_of_ne_nil notLast
    rw [List.getLast?_append_cons, List.getLast?_cons_cons] at last
    obtain ⟨before, made, more, found, ends⟩ := ih last
    exact ⟨closeHunk hunk kept :: before, made, more, by rw [found]; rfl, ends⟩
  | case4 oldBefore newBefore hunk kept rest notLast oldBefore' newBefore' near ih =>
    exact ih (by rw [List.append_assoc]; exact last)
  | case5 oldBefore newBefore hunk removed' added' rest ih =>
    exact ih (by rw [List.append_assoc]; exact last)

theorem hunks_body_sublist (script : List (Edit String)) :
    List.Sublist ((hunks script).flatMap Hunk.body) (script.flatMap Edit.marked) := by
  refine (flatMap_sublist Hunk.body List.filter_sublist).trans ?_
  split
  · next kept rest =>
    have opened : (openHunk 0 0 kept).body =
        (Edit.keep (kept.drop (kept.length - context))).marked := List.flatMap_singleton ..
    refine (hunksFrom_body_sublist _ _ _ _).trans ?_
    rw [opened, List.flatMap_cons]
    exact ((List.drop_sublist _ _).map _).append_right _
  · exact hunksFrom_body_sublist 0 0 ⟨0, 0, []⟩ script

theorem Hunk.body_ne_nil {hunk : Hunk} (changes : .change [] [] ∉ hunk.edits)
    (changed : hunk.hasChange = true) : hunk.body ≠ [] := by
  obtain ⟨edit, among, isChange⟩ := List.any_eq_true.mp changed
  cases edit with
  | keep lines => cases isChange
  | change removed added =>
    have some := marked_ne_nil fun (empty : Edit.change removed added = _) =>
      changes (empty ▸ among)
    exact fun nothing => some (List.flatMap_eq_nil_iff.mp nothing _ among)

theorem body_ne_nil_of_mem_hunks {script : List (Edit String)} (normal : Normal script) :
    ∀ hunk ∈ hunks script, hunk.body ≠ [] := by
  intro hunk member
  obtain ⟨made, changed⟩ := List.mem_filter.mp member
  refine Hunk.body_ne_nil (fun empty => normal.changes ?_) changed
  split at made
  · have found := mem_of_mem_hunksFrom made empty rfl
    rcases List.mem_append.mp found with begun | later
    · cases List.mem_singleton.mp begun
    · exact List.mem_cons_of_mem _ later
  · exact mem_of_mem_hunksFrom made empty rfl

theorem hunks_concat_change (front : List (Edit String)) (removed added : List String) :
    ∃ before made more, hunks (front ++ [.change removed added]) = before ++ [made] ∧
      made.edits = more ++ [.change removed added] := by
  have kept {oldBefore newBefore : Nat} {hunk : Hunk} {edits : List (Edit String)}
      (last : (hunk.edits ++ edits).getLast? = some (.change removed added)) :
      ∃ before made more,
        (hunksFrom oldBefore newBefore hunk edits).filter Hunk.hasChange = before ++ [made] ∧
          made.edits = more ++ [.change removed added] := by
    obtain ⟨before, made, more, found, ends⟩ := hunksFrom_last oldBefore newBefore last
    have changed : made.hasChange = true := by
      rw [Hunk.hasChange, ends]
      simp
    refine ⟨before.filter Hunk.hasChange, made, more, ?_, ends⟩
    rw [found, List.filter_append, List.filter_cons_of_pos changed, List.filter_nil]
  cases front with
  | nil => exact kept rfl
  | cons edit rest =>
    cases edit with
    | keep lines =>
      have last : ((openHunk 0 0 lines).edits ++ (rest ++ [Edit.change removed added])).getLast? =
          some (.change removed added) := by
        rw [← List.append_assoc, List.getLast?_concat]
      exact kept last
    | change removed' added' => exact kept List.getLast?_concat

end Remedy.Diff

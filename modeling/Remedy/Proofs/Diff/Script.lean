import Mathlib.Data.List.Chain
import Remedy.Diff.Script

/-!
# What a script covers

Whatever lines count towards the longest stretch, cutting two lists around it loses no line, so the
parts of a script put together are the old list on the one side and the new list on the other. In
two equal lists the longest stretch stands at the same place in both, and the cut around it takes
everything: their script keeps all lines.
-/

set_option autoImplicit false

namespace Remedy.Diff

variable {α : Type} [DecidableEq α]

/-! ## Common starts -/

theorem sharedStart_prefix_left (xs ys : List α) : sharedStart xs ys <+: xs := by
  fun_induction sharedStart xs ys with
  | case1 xs y ys ih => exact (List.prefix_cons_inj y).mpr ih
  | case2 => exact List.nil_prefix
  | case3 => exact List.nil_prefix

theorem sharedStart_prefix_right (xs ys : List α) : sharedStart xs ys <+: ys := by
  fun_induction sharedStart xs ys with
  | case1 xs y ys ih => exact (List.prefix_cons_inj y).mpr ih
  | case2 => exact List.nil_prefix
  | case3 => exact List.nil_prefix

theorem sharedStart_self (xs : List α) : sharedStart xs xs = xs := by
  induction xs with
  | nil => rfl
  | cons x rest ih => rw [sharedStart, if_pos rfl, ih]

/-! ## The longest stretch -/

/-- A property of the best stretch before each place of a line holds behind the line if every
place keeps it, whether it improves the stretch or not. -/
theorem improve_induction (P : Nat → Stretch → Prop) (i : Nat) (lengths : List Nat) {j : Nat}
    {best : Stretch} (start : P j best)
    (kept : ∀ k size best, lengths[k]? = some size → ¬ best.size < size →
      P (j + k) best → P (j + k + 1) best)
    (better : ∀ k size best, lengths[k]? = some size → best.size < size →
      P (j + k) best → P (j + k + 1) ⟨i + 1 - size, j + k + 1 - size, size⟩) :
    P (j + lengths.length) (improve i j lengths best) := by
  induction lengths generalizing j best with
  | nil => exact start
  | cons size rest ih =>
    rw [improve, List.length_cons, Nat.add_comm rest.length, ← Nat.add_assoc]
    apply ih
    · split
      · next longer => exact better 0 size best rfl longer start
      · next notLonger => exact kept 0 size best rfl notLonger start
    · intro k size best stands notLonger before
      rw [Nat.add_assoc j 1 k, Nat.add_comm 1 k] at before ⊢
      exact kept (k + 1) size best stands notLonger before
    · intro k size best stands longer before
      rw [Nat.add_assoc j 1 k, Nat.add_comm 1 k] at before ⊢
      exact better (k + 1) size best stands longer before

theorem stretchLengths_eq (line : α) (diagonal : List Nat) (lines : List α) :
    stretchLengths line diagonal lines =
      List.zipWith (fun d y => if y = line then d + 1 else 0) diagonal lines := by
  induction diagonal generalizing lines with
  | nil => cases lines <;> rfl
  | cons d rest ih =>
    cases lines with
    | nil => rfl
    | cons y ys => rw [stretchLengths, ih, List.zipWith_cons_cons]

def Stretch.Within (stretch : Stretch) (old new : Nat) : Prop :=
  stretch.oldStart ≤ old ∧ stretch.newStart ≤ new

theorem within_longestFrom (counts : α → Bool) (new : List α) {i : Nat} {lengths : List Nat}
    {best : Stretch} {rest : List α} {old : Nat} (fits : lengths.length ≤ new.length)
    (inside : i + rest.length ≤ old) (start : best.Within old new.length) :
    (longestFrom counts new i lengths best rest).Within old new.length := by
  induction rest generalizing i lengths best with
  | nil => exact start
  | cons line rest ih =>
    rw [List.length_cons] at inside
    rw [longestFrom]
    generalize made : (if counts line then stretchLengths line (0 :: lengths) new
      else new.map fun _ => 0) = next
    have nextFits : next.length ≤ new.length := by
      rw [← made]
      split
      · rw [stretchLengths_eq, List.length_zipWith]
        exact Nat.min_le_right _ _
      · exact Nat.le_of_eq (List.length_map _)
    refine ih nextFits (by omega) ?_
    refine improve_induction (fun _ best => best.Within old new.length) i next start ?_ ?_
    · exact fun _ _ _ _ _ before => before
    · intro k size best stands longer before
      obtain ⟨place, -⟩ := List.getElem?_eq_some_iff.mp stands
      exact ⟨by simp only; omega, by simp only; omega⟩

theorem within_longest (counts : α → Bool) (old new : List α) :
    (longest counts old new).Within old.length new.length :=
  within_longestFrom counts new (Nat.le_of_eq (List.length_map _)) (Nat.le_of_eq (Nat.zero_add _))
    ⟨Nat.zero_le _, Nat.zero_le _⟩

/-! ## Cuts -/

omit [DecidableEq α] in
/-- What lies before and after a stretch around a place, with the stretch, is the list. -/
theorem take_append_drop_around {xs back onward : List α} {place : Nat}
    (inside : place ≤ xs.length) (before : back <:+ xs.take place)
    (after : onward <+: xs.drop place) :
    xs.take (place - back.length) ++ (back ++ onward) ++ xs.drop (place + onward.length) = xs := by
  obtain ⟨front, frontEq⟩ := before
  obtain ⟨rest, restEq⟩ := after
  have whole : xs = front ++ (back ++ (onward ++ rest)) := by
    rw [restEq, ← List.append_assoc, frontEq, List.take_append_drop]
  have size : front.length + back.length = place := by
    rw [← List.length_append, frontEq, List.length_take, Nat.min_eq_left inside]
  have left : xs.take (place - back.length) = front := by
    rw [show place - back.length = front.length by omega, whole, List.take_left]
  have right : xs.drop (place + onward.length) = rest := by
    rw [← List.drop_drop, ← restEq, List.drop_left]
  rw [left, right]
  conv_rhs => rw [whole]
  simp only [List.append_assoc]

theorem cut_old (counts : α → Bool) (old new : List α) :
    (cut counts old new).oldBefore ++ (cut counts old new).shared ++
      (cut counts old new).oldAfter = old := by
  refine take_append_drop_around (within_longest counts old new).1 ?_
    (sharedStart_prefix_left _ _)
  rw [← List.reverse_prefix, List.reverse_reverse]
  exact sharedStart_prefix_left _ _

theorem cut_new (counts : α → Bool) (old new : List α) :
    (cut counts old new).newBefore ++ (cut counts old new).shared ++
      (cut counts old new).newAfter = new := by
  refine take_append_drop_around (within_longest counts old new).2 ?_
    (sharedStart_prefix_right _ _)
  rw [← List.reverse_prefix, List.reverse_reverse]
  exact sharedStart_prefix_right _ _

/-! ## Scripts -/

theorem flatMap_rawScript (counts : α → Bool) (fuel : Nat) (old new : List α) :
    (rawScript counts fuel old new).flatMap Edit.old = old ∧
      (rawScript counts fuel old new).flatMap Edit.new = new := by
  induction fuel generalizing old new with
  | zero => exact ⟨List.append_nil old, List.append_nil new⟩
  | succ fuel ih =>
    simp only [rawScript]
    split
    · exact ⟨List.append_nil old, List.append_nil new⟩
    · obtain ⟨oldBefore, newBefore⟩ :=
        ih (cut counts old new).oldBefore (cut counts old new).newBefore
      obtain ⟨oldAfter, newAfter⟩ :=
        ih (cut counts old new).oldAfter (cut counts old new).newAfter
      rw [List.flatMap_append, List.flatMap_append, List.flatMap_cons, List.flatMap_cons,
        oldBefore, newBefore, oldAfter, newAfter, ← List.append_assoc, ← List.append_assoc]
      exact ⟨cut_old counts old new, cut_new counts old new⟩

omit [DecidableEq α] in
theorem flatMap_consEdit (edit : Edit α) (rest : List (Edit α)) :
    (consEdit edit rest).flatMap Edit.old = edit.old ++ rest.flatMap Edit.old ∧
      (consEdit edit rest).flatMap Edit.new = edit.new ++ rest.flatMap Edit.new := by
  fun_cases consEdit edit rest with
  | case1 => exact ⟨rfl, rfl⟩
  | case2 xs ys rest => exact ⟨List.append_assoc .., List.append_assoc ..⟩
  | case3 => exact ⟨rfl, rfl⟩

omit [DecidableEq α] in
theorem flatMap_foldr_consEdit (parts : List (Edit α)) :
    (parts.foldr consEdit []).flatMap Edit.old = parts.flatMap Edit.old ∧
      (parts.foldr consEdit []).flatMap Edit.new = parts.flatMap Edit.new := by
  induction parts with
  | nil => exact ⟨rfl, rfl⟩
  | cons edit rest ih =>
    obtain ⟨oldEq, newEq⟩ := flatMap_consEdit edit (rest.foldr consEdit [])
    rw [List.foldr_cons, oldEq, newEq, ih.1, ih.2]
    exact ⟨rfl, rfl⟩

theorem script_old (old new : List α) : (script old new).flatMap Edit.old = old :=
  (flatMap_foldr_consEdit _).1.trans (flatMap_rawScript _ _ old new).1

theorem script_new (old new : List α) : (script old new).flatMap Edit.new = new :=
  (flatMap_foldr_consEdit _).2.trans (flatMap_rawScript _ _ old new).2

/-! ## Parts next to each other -/

def Edit.isKeep : Edit α → Bool
  | keep _ => true
  | change _ _ => false

/-- A script in which no kept stretch stands next to another one, and every change changes
something. -/
structure Normal (script : List (Edit α)) : Prop where
  apart : script.IsChain fun first second => first.isKeep = true → second.isKeep = false
  changes : .change [] [] ∉ script

omit [DecidableEq α] in
theorem normal_consEdit (edit : Edit α) {rest : List (Edit α)} (normal : Normal rest) :
    Normal (consEdit edit rest) := by
  fun_cases consEdit edit rest with
  | case1 => exact normal
  | case2 xs ys rest =>
    obtain ⟨next, later⟩ := List.isChain_cons.mp normal.apart
    refine ⟨List.isChain_cons.mpr ⟨next, later⟩, ?_⟩
    have others := fun among => normal.changes (List.mem_cons_of_mem _ among)
    exact List.not_mem_cons_of_ne_of_not_mem nofun others
  | case3 =>
    rename_i notEmpty notBoth
    refine ⟨List.isChain_cons.mpr ⟨fun second begins isKeep => ?_, normal.apart⟩,
      List.not_mem_cons_of_ne_of_not_mem (fun same => notEmpty same.symm) normal.changes⟩
    obtain ⟨behind, rfl⟩ := List.head?_eq_some_iff.mp begins
    cases edit with
    | change removed added => cases isKeep
    | keep xs =>
      cases second with
      | keep ys => exact absurd rfl (notBoth xs ys behind rfl)
      | change removed added => rfl

theorem normal_script (old new : List α) : Normal (script old new) := by
  rw [script]
  induction rawScript (fun line => !isCommonplace new line) (old.length + 1) old new with
  | nil => exact ⟨.nil, List.not_mem_nil⟩
  | cons edit rest ih => exact normal_consEdit edit ih

/-! ## Equal lists -/

/-- How long the stretch of equal lines that count is that ends before two places of a list. -/
def stretchWithin (counts : α → Bool) (xs : List α) : Nat → Nat → Nat
  | i + 1, j + 1 =>
    if xs[i]? = xs[j]? ∧ xs[i]?.any counts then stretchWithin counts xs i j + 1 else 0
  | _, _ => 0

section Equal

variable {counts : α → Bool} {xs : List α}

theorem stretchWithin_zero_left (j : Nat) : stretchWithin counts xs 0 j = 0 := by
  cases j <;> rfl

theorem stretchWithin_zero_right (i : Nat) : stretchWithin counts xs i 0 = 0 := by
  cases i <;> rfl

theorem stretchWithin_comm (i j : Nat) :
    stretchWithin counts xs i j = stretchWithin counts xs j i := by
  induction i generalizing j with
  | zero => rw [stretchWithin_zero_right, stretchWithin_zero_left]
  | succ i ih =>
    cases j with
    | zero => rfl
    | succ j =>
      rw [stretchWithin, stretchWithin, ih]
      by_cases same : xs[i]? = xs[j]?
      · rw [same]
      · rw [if_neg fun both => same both.1, if_neg fun both => same both.1.symm]

/-- No stretch that ends before a place is longer than the one that ends there twice. -/
theorem stretchWithin_le_self (i j : Nat) :
    stretchWithin counts xs i j ≤ stretchWithin counts xs i i := by
  induction i generalizing j with
  | zero => exact Nat.le_of_eq (stretchWithin_zero_left j)
  | succ i ih =>
    cases j with
    | zero => exact Nat.zero_le _
    | succ j =>
      rw [stretchWithin, stretchWithin]
      split
      · next both =>
        rw [if_pos ⟨rfl, both.2⟩]
        exact Nat.succ_le_succ (ih j)
      · exact Nat.zero_le _

/-- The lengths of the stretches that end before a place, and before each place of the list. -/
def stretchRow (counts : α → Bool) (xs : List α) (i : Nat) : List Nat :=
  (List.range xs.length).map fun j => stretchWithin counts xs i (j + 1)

theorem getElem?_stretchRow {i j : Nat} (inside : j < xs.length) :
    (stretchRow counts xs i)[j]? = some (stretchWithin counts xs i (j + 1)) := by
  rw [stretchRow, List.getElem?_map, List.getElem?_range inside]
  rfl

theorem stretchRow_zero (counts : α → Bool) (xs : List α) :
    stretchRow counts xs 0 = xs.map fun _ => 0 := by
  simp only [stretchRow, stretchWithin_zero_left, List.map_const', List.length_range]

theorem stretchRow_succ {i : Nat} {line : α} (stands : xs[i]? = some line) :
    (if counts line then stretchLengths line (0 :: stretchRow counts xs i) xs
      else xs.map fun _ => 0) = stretchRow counts xs (i + 1) := by
  by_cases counted : counts line = true
  · rw [if_pos counted, stretchLengths_eq]
    apply List.ext_getElem?
    intro j
    cases found : xs[j]? with
    | none =>
      have beyond : xs.length ≤ j := List.getElem?_eq_none_iff.mp found
      rw [List.getElem?_eq_none, List.getElem?_eq_none]
      · simpa [stretchRow] using beyond
      · rw [List.length_zipWith]
        exact Nat.le_trans (Nat.min_le_right _ _) beyond
    | some other =>
      obtain ⟨inside, -⟩ := List.getElem?_eq_some_iff.mp found
      have before : (0 :: stretchRow counts xs i)[j]? = some (stretchWithin counts xs i j) := by
        cases j with
        | zero => rw [stretchWithin_zero_right]; rfl
        | succ j => exact getElem?_stretchRow (Nat.lt_of_succ_lt inside)
      rw [List.getElem?_zipWith, before, found, getElem?_stretchRow inside, stretchWithin, stands,
        found]
      simp [counted, eq_comm]
  · rw [if_neg counted]
    simp only [stretchRow, stretchWithin, stands, Option.any_some, counted, Bool.false_eq_true,
      and_false, if_false, List.map_const', List.length_range]

/-- What holds of the best stretch in a list and itself once some lines have been gone through:
it stands at the same place twice, and no stretch that ends in them is longer. -/
structure Leads (counts : α → Bool) (xs : List α) (done : Nat) (best : Stretch) : Prop where
  diagonal : best.oldStart = best.newStart
  longest : ∀ i ≤ done, ∀ j, stretchWithin counts xs i j ≤ best.size

/-- Only the place that the line itself has can improve the best stretch: in an earlier place ends
a stretch that was seen the other way round, and in a later one none that is longer. -/
theorem place_of_improves {i place : Nat} {best : Stretch} (leads : Leads counts xs i best)
    (row : ∀ j ≤ place, stretchWithin counts xs (i + 1) j ≤ best.size)
    (longer : best.size < stretchWithin counts xs (i + 1) (place + 1)) : place = i := by
  rcases Nat.lt_trichotomy place i with earlier | here | later
  · rw [stretchWithin_comm] at longer
    exact absurd (leads.longest (place + 1) earlier (i + 1)) (Nat.not_le_of_lt longer)
  · exact here
  · have within := Nat.le_trans (stretchWithin_le_self (i + 1) (place + 1)) (row (i + 1) later)
    exact absurd within (Nat.not_le_of_lt longer)

theorem leads_improve {i : Nat} {best : Stretch} (inside : i < xs.length)
    (leads : Leads counts xs i best) :
    Leads counts xs (i + 1) (improve i 0 (stretchRow counts xs (i + 1)) best) := by
  have size_eq {k size : Nat} (stands : (stretchRow counts xs (i + 1))[k]? = some size) :
      size = stretchWithin counts xs (i + 1) (k + 1) := by
    obtain ⟨bound, -⟩ := List.getElem?_eq_some_iff.mp stands
    rw [stretchRow, List.length_map, List.length_range] at bound
    exact Option.some.inj (stands.symm.trans (getElem?_stretchRow bound))
  -- Along the line two facts are kept: the best stretch leads, and it is not beaten by any stretch
  -- of this line that was passed. The second one alone says what `i + 1` adds to the first.
  obtain ⟨ended, row⟩ := improve_induction
    (fun place best => Leads counts xs i best ∧
      ∀ j ≤ place, stretchWithin counts xs (i + 1) j ≤ best.size) i (stretchRow counts xs (i + 1))
    ⟨leads, fun j none => by
      rw [Nat.le_zero.mp none, stretchWithin_zero_right]
      exact Nat.zero_le _⟩
    (by
      rintro k size best stands notLonger ⟨leads, row⟩
      refine ⟨leads, fun j bounded => ?_⟩
      rcases Nat.le_succ_iff.mp bounded with before | rfl
      · exact row j before
      · rw [Nat.zero_add, ← size_eq stands]
        exact Nat.le_of_not_lt notLonger)
    (by
      rintro k size best stands longer ⟨leads, row⟩
      rw [Nat.zero_add] at row ⊢
      rw [size_eq stands] at longer ⊢
      obtain rfl := place_of_improves leads row longer
      refine ⟨⟨rfl, fun i before j => ?_⟩, ?_⟩
      · exact Nat.le_trans (leads.longest i before j) (Nat.le_of_lt longer)
      · exact fun j _ => stretchWithin_le_self (k + 1) j)
  refine ⟨ended.diagonal, fun i' bounded j => ?_⟩
  rcases Nat.le_succ_iff.mp bounded with before | rfl
  · exact ended.longest i' before j
  · refine Nat.le_trans (stretchWithin_le_self (i + 1) j) (row (i + 1) ?_)
    rw [Nat.zero_add, stretchRow, List.length_map, List.length_range]
    exact inside

theorem diagonal_longestFrom (front : List α) {rest : List α} {best : Stretch}
    (whole : front ++ rest = xs)
    (leads : Leads counts xs front.length best) :
    (longestFrom counts xs front.length (stretchRow counts xs front.length) best
      rest).oldStart =
    (longestFrom counts xs front.length (stretchRow counts xs front.length) best
      rest).newStart := by
  induction rest generalizing front best with
  | nil => exact leads.diagonal
  | cons line rest ih =>
    have stands : xs[front.length]? = some line := by
      rw [← whole, List.getElem?_append_right (Nat.le_refl _), Nat.sub_self]
      rfl
    have improved := leads_improve (List.getElem?_eq_some_iff.mp stands).1 leads
    have size : (front ++ [line]).length = front.length + 1 := by
      rw [List.length_append, List.length_singleton]
    rw [longestFrom, stretchRow_succ stands]
    rw [← size] at improved ⊢
    exact ih _ (by simpa using whole) improved

theorem diagonal_longest (counts : α → Bool) (xs : List α) :
    (longest counts xs xs).oldStart = (longest counts xs xs).newStart := by
  rw [longest, ← stretchRow_zero counts]
  refine diagonal_longestFrom [] rfl ⟨rfl, fun i none j => ?_⟩
  rw [Nat.le_zero.mp none, stretchWithin_zero_left]

theorem cut_self (counts : α → Bool) (xs : List α) :
    cut counts xs xs = ⟨[], [], xs, [], []⟩ := by
  have inside := (within_longest counts xs xs).1
  have diagonal := diagonal_longest counts xs
  simp only [cut, ← diagonal, sharedStart_self, List.reverse_reverse, List.take_append_drop,
    List.length_take, List.length_drop, Nat.min_eq_left inside, Nat.sub_self, List.take_zero,
    Nat.add_sub_cancel' inside, List.drop_length]

end Equal

theorem rawScript_nil (counts : α → Bool) (fuel : Nat) :
    rawScript counts fuel [] [] = [.change [] []] := by
  cases fuel with
  | zero => rfl
  | succ fuel => rw [rawScript, cut_self]; rfl

theorem script_self (xs : List α) : script xs xs = if xs = [] then [] else [.keep xs] := by
  cases xs with
  | nil => rw [script, rawScript_nil]; rfl
  | cons x rest => rw [script, rawScript, cut_self, rawScript_nil]; rfl

end Remedy.Diff

import Remedy.Diff.Unified
import Remedy.Proofs.Diff.Patch
import Remedy.Proofs.Diff.Script

/-!
# Hunks of a script

The hunks of a script are blocks that fit between the old and the new lines: what stands between
them was kept, and a hunk begins where the lines before it end. Leaving out the hunks without
changes does no harm, for they too are lines that were kept.
-/

set_option autoImplicit false

namespace Remedy.Diff

/-! ## Hunks as blocks -/

def Edit.marked : Edit String → List (Mark × String)
  | keep lines => lines.map (Mark.kept, ·)
  | change removed added => removed.map (Mark.removed, ·) ++ added.map (Mark.added, ·)

namespace Hunk

def body (hunk : Hunk) : List (Mark × String) :=
  hunk.edits.flatMap Edit.marked

def block (hunk : Hunk) : Block :=
  ⟨.behind hunk.oldBefore hunk.oldSize, .behind hunk.newBefore hunk.newSize, hunk.body⟩

end Hunk

namespace Block

theorem oldLines_map (mark : Mark) (lines : List String) :
    oldLines (lines.map (mark, ·)) = if mark = .added then [] else lines := by
  rw [oldLines, List.filterMap_map]
  cases mark with
  | kept => exact List.filterMap_some
  | removed => exact List.filterMap_some
  | added => exact List.filterMap_eq_nil_iff.mpr fun _ _ => rfl

theorem newLines_map (mark : Mark) (lines : List String) :
    newLines (lines.map (mark, ·)) = if mark = .removed then [] else lines := by
  rw [newLines, List.filterMap_map]
  cases mark with
  | kept => exact List.filterMap_some
  | removed => exact List.filterMap_eq_nil_iff.mpr fun _ _ => rfl
  | added => exact List.filterMap_some

theorem lines_marked (edit : Edit String) :
    oldLines edit.marked = edit.old ∧ newLines edit.marked = edit.new := by
  cases edit with
  | keep lines => exact ⟨oldLines_map .kept lines, newLines_map .kept lines⟩
  | change removed added =>
    have oldEq := congrArg₂ (· ++ ·) (oldLines_map .removed removed) (oldLines_map .added added)
    have newEq := congrArg₂ (· ++ ·) (newLines_map .removed removed) (newLines_map .added added)
    exact ⟨List.filterMap_append.trans (oldEq.trans (List.append_nil removed)),
      List.filterMap_append.trans newEq⟩

theorem oldLines_flatMap (edits : List (Edit String)) :
    oldLines (edits.flatMap Edit.marked) = edits.flatMap Edit.old := by
  rw [oldLines, List.filterMap_flatMap]
  exact List.flatMap_congr fun edit _ => (lines_marked edit).1

theorem newLines_flatMap (edits : List (Edit String)) :
    newLines (edits.flatMap Edit.marked) = edits.flatMap Edit.new := by
  rw [newLines, List.filterMap_flatMap]
  exact List.flatMap_congr fun edit _ => (lines_marked edit).2

end Block

namespace Hunk

def old (hunk : Hunk) : List String :=
  hunk.edits.flatMap Edit.old

def new (hunk : Hunk) : List String :=
  hunk.edits.flatMap Edit.new

theorem length_old (hunk : Hunk) : hunk.old.length = hunk.oldSize := rfl

theorem old_eq_new_of_not_hasChange {hunk : Hunk} (unchanged : hunk.hasChange = false) :
    hunk.old = hunk.new := by
  rw [hasChange, List.any_eq_false] at unchanged
  refine List.flatMap_congr fun edit member => ?_
  cases edit with
  | keep lines => rfl
  | change removed added => exact absurd rfl (unchanged _ member)

theorem old_snoc (hunk : Hunk) (edit : Edit String) :
    ({ hunk with edits := hunk.edits ++ [edit] } : Hunk).old = hunk.old ++ edit.old := by
  simp [old]

theorem new_snoc (hunk : Hunk) (edit : Edit String) :
    ({ hunk with edits := hunk.edits ++ [edit] } : Hunk).new = hunk.new ++ edit.new := by
  simp [new]

/-- A hunk that grows by a part of the script reaches as much further as the part is long. -/
theorem oldReached_snoc {hunk : Hunk} (edit : Edit String) {done : Nat}
    (reached : hunk.oldBefore + hunk.old.length = done) :
    hunk.oldBefore + ({ hunk with edits := hunk.edits ++ [edit] } : Hunk).old.length =
      done + edit.old.length := by
  rw [old_snoc, List.length_append, ← Nat.add_assoc, reached]

theorem newReached_snoc {hunk : Hunk} (edit : Edit String) {done : Nat}
    (reached : hunk.newBefore + hunk.new.length = done) :
    hunk.newBefore + ({ hunk with edits := hunk.edits ++ [edit] } : Hunk).new.length =
      done + edit.new.length := by
  rw [new_snoc, List.length_append, ← Nat.add_assoc, reached]

theorem old_openHunk (oldBefore newBefore : Nat) (kept : List String) :
    (openHunk oldBefore newBefore kept).old = kept.drop (kept.length - context) :=
  List.flatMap_singleton ..

theorem new_openHunk (oldBefore newBefore : Nat) (kept : List String) :
    (openHunk oldBefore newBefore kept).new = kept.drop (kept.length - context) :=
  List.flatMap_singleton ..

theorem reached_openHunk (oldBefore newBefore : Nat) (kept : List String) :
    (openHunk oldBefore newBefore kept).oldBefore +
        (openHunk oldBefore newBefore kept).old.length = oldBefore + kept.length ∧
      (openHunk oldBefore newBefore kept).newBefore +
        (openHunk oldBefore newBefore kept).new.length = newBefore + kept.length := by
  rw [old_openHunk, new_openHunk, List.length_drop]
  simp only [openHunk]
  omega

end Hunk

/-! ## Hunks fit -/

def HunksFit (oldDone newDone : Nat) (hunks : List Hunk) (old new : List String) : Prop :=
  Fits oldDone newDone (hunks.map Hunk.block) old new

namespace HunksFit

variable {oldDone newDone : Nat} {hunk : Hunk} {hunks : List Hunk} {old new : List String}

theorem cons (hunk : Hunk) (oldStart : hunk.oldBefore = oldDone)
    (newStart : hunk.newBefore = newDone)
    (later : HunksFit (oldDone + hunk.old.length) (newDone + hunk.new.length) hunks old new) :
    HunksFit oldDone newDone (hunk :: hunks) (hunk.old ++ old) (hunk.new ++ new) := by
  subst oldStart newStart
  rw [Hunk.old, Hunk.new, ← Block.oldLines_flatMap, ← Block.newLines_flatMap]
  refine Fits.block hunk.block [] (Range.before_behind _ _) (Range.before_behind _ _) ?_
  simp only [Hunk.block, Range.before_behind, Range.size_behind]
  exact later

theorem cons_closeHunk (hunk : Hunk) (kept : List String)
    (later : HunksFit (hunk.oldBefore + hunk.old.length + (kept.take context).length)
      (hunk.newBefore + hunk.new.length + (kept.take context).length) hunks old new) :
    HunksFit hunk.oldBefore hunk.newBefore (closeHunk hunk kept :: hunks)
      (hunk.old ++ (kept.take context ++ old)) (hunk.new ++ (kept.take context ++ new)) := by
  have oldEq := Hunk.old_snoc hunk (.keep (kept.take context))
  have newEq := Hunk.new_snoc hunk (.keep (kept.take context))
  rw [← List.append_assoc, ← List.append_assoc]
  simp only [Edit.old, Edit.new] at oldEq newEq
  rw [← oldEq, ← newEq]
  refine cons (closeHunk hunk kept) rfl rfl ?_
  rw [closeHunk, oldEq, newEq, List.length_append, List.length_append, ← Nat.add_assoc,
    ← Nat.add_assoc]
  exact later

/-- What fits behind a hunk that has grown by a part of the script fits behind the hunk before. -/
theorem of_snoc (edit : Edit String)
    (fits : HunksFit oldDone newDone hunks
      (({ hunk with edits := hunk.edits ++ [edit] } : Hunk).old ++ old)
      (({ hunk with edits := hunk.edits ++ [edit] } : Hunk).new ++ new)) :
    HunksFit oldDone newDone hunks (hunk.old ++ (edit.old ++ old))
      (hunk.new ++ (edit.new ++ new)) := by
  rw [Hunk.old_snoc, Hunk.new_snoc, List.append_assoc, List.append_assoc] at fits
  exact fits

theorem filter (fits : HunksFit oldDone newDone hunks old new) :
    HunksFit oldDone newDone (hunks.filter Hunk.hasChange) old new := by
  induction hunks generalizing oldDone newDone old new with
  | nil => exact fits
  | cons hunk rest ih =>
    obtain _ | ⟨-, gap, oldStart, newStart, later⟩ := fits
    have kept := ih later
    simp only [Hunk.block, Range.before_behind, Range.size_behind] at oldStart newStart kept
    cases changed : hunk.hasChange with
    | true =>
      rw [List.filter_cons_of_pos changed]
      refine Fits.block hunk.block gap ?_ ?_ ?_ <;>
        simp only [Hunk.block, Range.before_behind, Range.size_behind]
      · exact oldStart
      · exact newStart
      · exact kept
    | false =>
      rw [List.filter_cons_of_neg (by rw [changed]; decide)]
      have same := Hunk.old_eq_new_of_not_hasChange changed
      have sizes : hunk.newSize = hunk.oldSize := congrArg List.length same.symm
      have oldEq : Block.oldLines hunk.block.body = hunk.old := Block.oldLines_flatMap _
      have newEq : Block.newLines hunk.block.body = hunk.old :=
        (Block.newLines_flatMap _).trans same.symm
      rw [oldEq, newEq, ← List.append_assoc, ← List.append_assoc]
      apply Fits.prepend
      rw [List.length_append, Hunk.length_old, ← Nat.add_assoc, ← Nat.add_assoc, ← oldStart,
        ← newStart]
      rw [sizes] at kept
      exact kept

end HunksFit

/-- Many kept lines are the end of one hunk, a gap, and the start of the next one. -/
theorem take_append_gap_append_drop {kept : List String} (far : 2 * context < kept.length)
    (rest : List String) :
    kept.take context ++ ((kept.take (kept.length - context)).drop context ++
      (kept.drop (kept.length - context) ++ rest)) = kept ++ rest := by
  have first : kept.take context = (kept.take (kept.length - context)).take context := by
    rw [List.take_take, Nat.min_eq_left (by omega)]
  rw [← List.append_assoc, first, List.take_append_drop, ← List.append_assoc,
    List.take_append_drop]

theorem HunksFit.cons_apart {hunk : Hunk} {kept : List String} {hunks : List Hunk}
    {oldBefore newBefore : Nat} {old new : List String} (far : 2 * context < kept.length)
    (oldReached : hunk.oldBefore + hunk.old.length = oldBefore)
    (newReached : hunk.newBefore + hunk.new.length = newBefore)
    (later : HunksFit (oldBefore + (kept.length - context)) (newBefore + (kept.length - context))
      hunks (kept.drop (kept.length - context) ++ old) (kept.drop (kept.length - context) ++ new)) :
    HunksFit hunk.oldBefore hunk.newBefore (closeHunk hunk kept :: hunks)
      (hunk.old ++ (kept ++ old)) (hunk.new ++ (kept ++ new)) := by
  have ends : (kept.take context).length = context := by
    rw [List.length_take, Nat.min_eq_left (by omega)]
  have gapSize : context + ((kept.take (kept.length - context)).drop context).length =
      kept.length - context := by
    rw [List.length_drop, List.length_take, Nat.min_eq_left (Nat.sub_le _ _)]
    omega
  rw [← take_append_gap_append_drop far old, ← take_append_gap_append_drop far new]
  refine cons_closeHunk hunk kept (Fits.prepend _ ?_)
  rw [oldReached, newReached, ends, Nat.add_assoc, Nat.add_assoc, gapSize]
  exact later

/-- The rest of a script, put into hunks, fits behind what the begun hunk covers. -/
theorem hunksFrom_fits (hunk : Hunk) (edits : List (Edit String)) {oldBefore newBefore : Nat}
    (oldReached : hunk.oldBefore + hunk.old.length = oldBefore)
    (newReached : hunk.newBefore + hunk.new.length = newBefore) :
    HunksFit hunk.oldBefore hunk.newBefore (hunksFrom oldBefore newBefore hunk edits)
      (hunk.old ++ edits.flatMap Edit.old) (hunk.new ++ edits.flatMap Edit.new) := by
  fun_induction hunksFrom oldBefore newBefore hunk edits with
  | case1 oldBefore newBefore hunk => exact .cons hunk rfl rfl (.done _ _ _)
  | case2 oldBefore newBefore hunk kept =>
    have closed : HunksFit hunk.oldBefore hunk.newBefore [closeHunk hunk kept]
        (hunk.old ++ (kept.take context ++ kept.drop context))
        (hunk.new ++ (kept.take context ++ kept.drop context)) :=
      .cons_closeHunk hunk kept (.done _ _ _)
    rw [List.take_append_drop] at closed
    rw [List.flatMap_singleton, List.flatMap_singleton]
    exact closed
  | case3 oldBefore newBefore hunk kept rest notLast oldBefore' newBefore' far ih =>
    -- The stretch is cut in three: the end of this hunk, a gap, and the start of the next one.
    have reached := Hunk.reached_openHunk oldBefore newBefore kept
    rw [Hunk.old_openHunk, Hunk.new_openHunk] at ih reached
    exact .cons_apart far oldReached newReached (ih reached.1 reached.2)
  | case4 oldBefore newBefore hunk kept rest notLast oldBefore' newBefore' near ih =>
    exact .of_snoc (.keep kept)
      (ih (Hunk.oldReached_snoc _ oldReached) (Hunk.newReached_snoc _ newReached))
  | case5 oldBefore newBefore hunk removed added rest ih =>
    exact .of_snoc (.change removed added)
      (ih (Hunk.oldReached_snoc _ oldReached) (Hunk.newReached_snoc _ newReached))

theorem hunks_fit (script : List (Edit String)) :
    HunksFit 0 0 (hunks script) (script.flatMap Edit.old) (script.flatMap Edit.new) := by
  refine HunksFit.filter ?_
  split
  · next kept rest =>
    have reached := Hunk.reached_openHunk 0 0 kept
    rw [Nat.zero_add] at reached
    have fits := hunksFrom_fits (openHunk 0 0 kept) rest reached.1 reached.2
    have whole (more : List String) : kept ++ more = kept.take (kept.length - context) ++
        (kept.drop (kept.length - context) ++ more) := by
      rw [← List.append_assoc, List.take_append_drop]
    rw [Hunk.old_openHunk, Hunk.new_openHunk] at fits
    rw [List.flatMap_cons, List.flatMap_cons, Edit.old, Edit.new, whole, whole]
    refine Fits.prepend _ ?_
    rw [List.length_take, Nat.min_eq_left (Nat.sub_le _ _)]
    exact fits
  · exact hunksFrom_fits ⟨0, 0, []⟩ script rfl rfl

theorem eq_of_hunks_eq_nil {script : List (Edit String)} (none : hunks script = []) :
    script.flatMap Edit.old = script.flatMap Edit.new := by
  have fits := hunks_fit script
  rw [none] at fits
  generalize script.flatMap Edit.old = old at fits ⊢
  generalize script.flatMap Edit.new = new at fits ⊢
  cases fits
  rfl

theorem hunks_script_self (lines : List String) : hunks (script lines lines) = [] := by
  rw [script_self]
  split <;> rfl

end Remedy.Diff

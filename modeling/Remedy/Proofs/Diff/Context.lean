import Remedy.Proofs.Diff.Hunks

/-!
# The context of changes

A hunk with changes begins and ends with three kept lines, and with fewer only where the old text
begins or ends. While hunks are made, what has been begun has its first lines already, and it is
closed behind a change alone, for in a normal script no kept stretch stands next to another one.
-/

set_option autoImplicit false

namespace Remedy.Diff

def isKept (line : Mark × String) : Bool :=
  line.1 = .kept

namespace Block

def leading (block : Block) : Nat :=
  (block.body.takeWhile isKept).length

def trailing (block : Block) : Nat :=
  (block.body.reverse.takeWhile isKept).length

/-- A block shows some number of kept lines before its first change and behind its last one, or
fewer if it reaches the first or the last of all lines of the old text. -/
structure ShowsContext (block : Block) (lines total : Nat) : Prop where
  leading : block.leading = lines ∨ block.leading < lines ∧ block.old.before = 0
  trailing : block.trailing = lines ∨
    block.trailing < lines ∧ block.old.before + block.old.size = total

end Block

/-! ## Kept lines at an end -/

theorem isKept_of_mem_marked {kept : List String} {line : Mark × String}
    (member : line ∈ (Edit.keep kept).marked) : isKept line = true := by
  obtain ⟨text, -, rfl⟩ := List.mem_map.mp member
  rfl

theorem not_isKept_of_mem_marked {removed added : List String} {line : Mark × String}
    (member : line ∈ (Edit.change removed added).marked) : isKept line = false := by
  rcases List.mem_append.mp member with among | among
  · obtain ⟨text, -, rfl⟩ := List.mem_map.mp among
    rfl
  · obtain ⟨text, -, rfl⟩ := List.mem_map.mp among
    rfl

theorem marked_ne_nil {removed added : List String}
    (changes : Edit.change removed added ≠ .change [] []) :
    (Edit.change removed added).marked ≠ [] := by
  intro nothing
  obtain ⟨noneRemoved, noneAdded⟩ := List.append_eq_nil_iff.mp nothing
  rw [List.map_eq_nil_iff.mp noneRemoved, List.map_eq_nil_iff.mp noneAdded] at changes
  exact changes rfl

theorem takeWhile_isKept {front behind : List (Mark × String)}
    (kept : ∀ line ∈ front, isKept line = true)
    (other : ∀ line ∈ behind.head?, isKept line = false) :
    (front ++ behind).takeWhile isKept = front := by
  rw [List.takeWhile_append_of_pos kept]
  cases behind with
  | nil => exact List.append_nil front
  | cons line rest =>
    rw [List.takeWhile_cons_of_neg (by rw [other line rfl]; decide), List.append_nil]

namespace Hunk

/-- How a hunk begins: with kept lines, three unless nothing lies before it, and if anything
follows them it is a change. -/
structure Begins (hunk : Hunk) (lead : List String) (behind : List (Mark × String)) : Prop where
  body : hunk.body = (Edit.keep lead).marked ++ behind
  size : lead.length = context ∨ lead.length < context ∧ hunk.oldBefore = 0
  change : ∀ line ∈ behind.head?, isKept line = false

def EndsInChange (hunk : Hunk) : Prop :=
  ∃ front line, hunk.body = front ++ [line] ∧ isKept line = false

theorem body_snoc (hunk : Hunk) (edit : Edit String) :
    ({ hunk with edits := hunk.edits ++ [edit] } : Hunk).body = hunk.body ++ edit.marked := by
  simp [body]

variable {hunk : Hunk} {lead : List String} {behind : List (Mark × String)}

theorem Begins.leading_eq (begins : hunk.Begins lead behind) :
    hunk.block.leading = lead.length := by
  have passed : hunk.body.takeWhile isKept = (Edit.keep lead).marked := by
    rw [begins.body]
    exact takeWhile_isKept (fun line member => isKept_of_mem_marked member) begins.change
  rw [Block.leading, block, passed]
  exact List.length_map _

theorem Begins.behind_ne_nil (begins : hunk.Begins lead behind) (ends : hunk.EndsInChange) :
    behind ≠ [] := by
  rintro rfl
  obtain ⟨front, line, body, changed⟩ := ends
  have member : line ∈ (Edit.keep lead).marked := by
    rw [← List.append_nil (Edit.marked _), ← begins.body, body]
    exact List.mem_append_right _ (List.mem_singleton_self line)
  rw [isKept_of_mem_marked member] at changed
  cases changed

theorem Begins.snoc {edit : Edit String} (begins : hunk.Begins lead behind)
    (change : behind = [] → ∀ line ∈ edit.marked.head?, isKept line = false) :
    ({ hunk with edits := hunk.edits ++ [edit] } : Hunk).Begins lead (behind ++ edit.marked) := by
  refine ⟨?_, begins.size, ?_⟩
  · rw [body_snoc, begins.body, List.append_assoc]
  · cases behind with
    | nil => exact change rfl
    | cons line rest => exact begins.change

theorem endsInChange_snoc (hunk : Hunk) {removed added : List String}
    (changes : Edit.change removed added ≠ .change [] []) :
    ({ hunk with edits := hunk.edits ++ [.change removed added] } : Hunk).EndsInChange := by
  have notEmpty := marked_ne_nil changes
  refine ⟨hunk.body ++ (Edit.change removed added).marked.dropLast,
    (Edit.change removed added).marked.getLast notEmpty, ?_,
    not_isKept_of_mem_marked (List.getLast_mem notEmpty)⟩
  rw [body_snoc, List.append_assoc, List.dropLast_concat_getLast]

theorem oldBefore_block (hunk : Hunk) : hunk.block.old.before = hunk.oldBefore :=
  Range.before_behind _ _

theorem Begins.shows_leading (begins : hunk.Begins lead behind) :
    hunk.block.leading = context ∨ hunk.block.leading < context ∧ hunk.block.old.before = 0 := by
  rw [begins.leading_eq, oldBefore_block]
  exact begins.size

/-- A hunk that ends with a change has its context if it reaches the last line. -/
theorem Begins.showsContext (begins : hunk.Begins lead behind) (ends : hunk.EndsInChange)
    {total : Nat} (reached : hunk.oldBefore + hunk.old.length = total) :
    hunk.block.ShowsContext context total := by
  refine ⟨begins.shows_leading, Or.inr ⟨?_, ?_⟩⟩
  · obtain ⟨front, line, body, changed⟩ := ends
    have none : hunk.block.trailing = 0 := by
      rw [Block.trailing, block, body, List.reverse_append]
      simp [changed]
    rw [none]
    decide
  · rw [oldBefore_block]
    exact reached

theorem Begins.showsContext_closeHunk (begins : hunk.Begins lead behind)
    (ends : hunk.EndsInChange) {kept : List String} {total : Nat}
    (reached : kept.length < context → hunk.oldBefore + (hunk.old.length + kept.length) = total) :
    (closeHunk hunk kept).block.ShowsContext context total := by
  have closed : (closeHunk hunk kept).Begins lead
      (behind ++ (Edit.keep (kept.take context)).marked) :=
    begins.snoc fun none => absurd none (begins.behind_ne_nil ends)
  have trailing : (closeHunk hunk kept).block.trailing = (kept.take context).length := by
    have passed : (closeHunk hunk kept).body.reverse.takeWhile isKept =
        (Edit.keep (kept.take context)).marked.reverse := by
      obtain ⟨front, line, body, changed⟩ := ends
      rw [closeHunk, body_snoc, body, List.reverse_append, List.reverse_concat]
      refine takeWhile_isKept (fun line member =>
        isKept_of_mem_marked (List.mem_reverse.mp member)) fun first begins => ?_
      cases begins
      exact changed
    rw [Block.trailing, block, passed, List.length_reverse]
    exact List.length_map _
  refine ⟨closed.shows_leading, ?_⟩
  rw [trailing, List.length_take, oldBefore_block]
  by_cases short : kept.length < context
  · refine Or.inr ⟨by omega, ?_⟩
    have size : (closeHunk hunk kept).block.old.size = hunk.old.length + kept.length := by
      have covered := congrArg List.length (old_snoc hunk (.keep (kept.take context)))
      rw [List.take_of_length_le (Nat.le_of_lt short), List.length_append] at covered
      rw [closeHunk, List.take_of_length_le (Nat.le_of_lt short)]
      exact covered
    rw [size]
    exact reached short
  · exact Or.inl (by omega)

/-- A begun hunk that the rest of a script may follow: it is closed behind a change only. -/
def Ready (hunk : Hunk) : List (Edit String) → Prop
  | [] => hunk.EndsInChange ∨ hunk.hasChange = false
  | .keep _ :: _ => hunk.EndsInChange
  | .change _ _ :: _ => True

theorem EndsInChange.ready (ends : hunk.EndsInChange) (edits : List (Edit String)) :
    hunk.Ready edits := by
  rcases edits with _ | ⟨_ | _, _⟩
  · exact Or.inl ends
  · exact ends
  · trivial

end Hunk

/-! ## Hunks of a script -/

theorem begins_openHunk (oldBefore newBefore : Nat) {kept : List String}
    (more : context ≤ kept.length ∨ oldBefore = 0) :
    (openHunk oldBefore newBefore kept).Begins (kept.drop (kept.length - context)) [] := by
  refine ⟨by simp [openHunk, Hunk.body], ?_, fun _ none => nomatch none⟩
  rw [List.length_drop]
  simp only [openHunk]
  omega

theorem Normal.tail {edit : Edit String} {rest : List (Edit String)}
    (normal : Normal (edit :: rest)) : Normal rest :=
  ⟨normal.apart.tail, fun among => normal.changes (List.mem_cons_of_mem _ among)⟩

theorem Normal.ready_of_keep {kept : List String} {rest : List (Edit String)}
    (normal : Normal (.keep kept :: rest)) {hunk : Hunk}
    (more : rest = [] → hunk.hasChange = false) :
    hunk.Ready rest := by
  cases rest with
  | nil => exact Or.inr (more rfl)
  | cons edit rest =>
    have next := (List.isChain_cons_cons.mp normal.apart).1 rfl
    cases edit with
    | keep kept => cases next
    | change removed added => trivial

/-- How far the first part of a script reaches, its other parts go on to the same end. -/
theorem covered_tail {done total : Nat} {edit : Edit String} {rest : List (Edit String)}
    (covered : done + ((edit :: rest).flatMap Edit.old).length = total) :
    done + edit.old.length + (rest.flatMap Edit.old).length = total := by
  rw [← covered, List.flatMap_cons, List.length_append, ← Nat.add_assoc]

theorem hunksFrom_showContext {oldBefore newBefore : Nat} {hunk : Hunk}
    {edits : List (Edit String)} {total : Nat} (normal : Normal edits)
    (begins : ∃ lead behind, hunk.Begins lead behind) (ready : hunk.Ready edits)
    (reached : hunk.oldBefore + hunk.old.length = oldBefore)
    (covered : oldBefore + (edits.flatMap Edit.old).length = total) :
    ∀ made ∈ hunksFrom oldBefore newBefore hunk edits, made.hasChange = true →
      made.block.ShowsContext context total := by
  fun_induction hunksFrom oldBefore newBefore hunk edits with
  | case1 oldBefore newBefore hunk =>
    obtain ⟨lead, behind, begins⟩ := begins
    intro made among changed
    rw [List.mem_singleton.mp among] at changed ⊢
    rcases ready with ends | unchanged
    · exact begins.showsContext ends (reached.trans covered)
    · rw [changed] at unchanged
      cases unchanged
  | case2 oldBefore newBefore hunk kept =>
    obtain ⟨lead, behind, begins⟩ := begins
    intro made among _
    rw [List.mem_singleton.mp among]
    refine begins.showsContext_closeHunk ready fun _ => ?_
    rw [← Nat.add_assoc, reached, ← covered, List.flatMap_singleton]
    rfl
  | case3 oldBefore newBefore hunk kept rest notLast oldBefore' newBefore' far ih =>
    obtain ⟨lead, behind, begins⟩ := begins
    intro made among changed
    rcases List.mem_cons.mp among with rfl | later
    · exact begins.showsContext_closeHunk ready fun short => by omega
    · refine ih normal.tail ⟨_, _, begins_openHunk _ _ (Or.inl (by omega))⟩
        (normal.ready_of_keep fun none => absurd none notLast)
        (Hunk.reached_openHunk oldBefore newBefore kept).1 (covered_tail covered) made later changed
  | case4 oldBefore newBefore hunk kept rest notLast oldBefore' newBefore' near ih =>
    obtain ⟨lead, behind, begins⟩ := begins
    refine ih normal.tail
      ⟨_, _, begins.snoc fun none => absurd none (begins.behind_ne_nil ready)⟩
      (normal.ready_of_keep fun none => absurd none notLast) (Hunk.oldReached_snoc _ reached)
      (covered_tail covered)
  | case5 oldBefore newBefore hunk removed added rest ih =>
    obtain ⟨lead, behind, begins⟩ := begins
    have changes : Edit.change removed added ≠ .change [] [] := by
      intro empty
      exact normal.changes (empty ▸ List.mem_cons_self ..)
    refine ih normal.tail ⟨_, _, begins.snoc fun _ line first =>
      not_isKept_of_mem_marked (List.mem_of_mem_head? first)⟩
      ((hunk.endsInChange_snoc changes).ready rest) (Hunk.oldReached_snoc _ reached)
      (covered_tail covered)

theorem hunks_showContext {script : List (Edit String)} (normal : Normal script) :
    ∀ hunk ∈ hunks script, hunk.block.ShowsContext context (script.flatMap Edit.old).length := by
  intro hunk member
  obtain ⟨among, changed⟩ := List.mem_filter.mp member
  split at among
  · next kept rest =>
    have reached := (Hunk.reached_openHunk 0 0 kept).1
    rw [Nat.zero_add] at reached
    refine hunksFrom_showContext normal.tail ⟨_, _, begins_openHunk 0 0 (Or.inr rfl)⟩
      (normal.ready_of_keep fun _ => rfl) reached ?_ hunk among changed
    rw [List.flatMap_cons, List.length_append]
    rfl
  · next notKept =>
    have begins : (⟨0, 0, []⟩ : Hunk).Begins [] [] :=
      ⟨rfl, Or.inr ⟨by decide, rfl⟩, fun _ none => nomatch none⟩
    have ready : (⟨0, 0, []⟩ : Hunk).Ready script := by
      cases script with
      | nil => exact Or.inr rfl
      | cons edit rest =>
        cases edit with
        | keep kept => exact absurd rfl (notKept kept rest)
        | change removed added => trivial
    exact hunksFrom_showContext normal ⟨_, _, begins⟩ ready rfl (Nat.zero_add _) hunk among changed

end Remedy.Diff

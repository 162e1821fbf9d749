import Remedy.Proofs.Diff.Script

/-!
# Changes are kept apart

A script found around common stretches has a stretch between any two changes, and no stretch of it
is empty. Leaving out the changes that change nothing brings no two others together, for it is two
stretches that meet then. So what stands before the last change of a script are kept lines.
-/

set_option autoImplicit false

namespace Remedy.Diff

variable {α : Type}

/-- A script in which stretches and changes take turns and no stretch is empty. -/
structure TakesTurns (script : List (Edit α)) : Prop where
  turns : script.IsChain fun first second => first.isKeep ≠ second.isKeep
  filled : .keep [] ∉ script

structure Framed (script : List (Edit α)) : Prop where
  first : ∀ edit ∈ script.head?, edit.isKeep = false
  last : ∀ edit ∈ script.getLast?, edit.isKeep = false

theorem framed_change (removed added : List α) : Framed [Edit.change removed added] :=
  ⟨fun _ first => by cases first; rfl, fun _ last => by cases last; rfl⟩

theorem TakesTurns.around {before behind : List (Edit α)} {kept : List α} (filled : kept ≠ [])
    (first : TakesTurns before) (firstFramed : Framed before) (second : TakesTurns behind)
    (secondFramed : Framed behind) : TakesTurns (before ++ .keep kept :: behind) := by
  refine ⟨List.isChain_append.mpr ⟨first.turns, List.isChain_cons.mpr ⟨?_, second.turns⟩, ?_⟩, ?_⟩
  · intro next begins
    rw [secondFramed.first next begins]
    exact Bool.noConfusion
  · intro last ends next begins
    cases begins
    rw [firstFramed.last last ends]
    exact Bool.noConfusion
  · intro member
    rcases List.mem_append.mp member with inside | inside
    · exact first.filled inside
    · rcases List.mem_cons.mp inside with same | inside
      · exact filled (Edit.keep.inj same).symm
      · exact second.filled inside

theorem Framed.around {before behind : List (Edit α)} (filled : before ≠ []) (more : behind ≠ [])
    (first : Framed before) (second : Framed behind) (kept : List α) :
    Framed (before ++ .keep kept :: behind) := by
  obtain ⟨edit, others, rfl⟩ := List.exists_cons_of_ne_nil filled
  obtain ⟨next, later, rfl⟩ := List.exists_cons_of_ne_nil more
  refine ⟨fun begun begins => first.first begun begins, fun ended ends => second.last ended ?_⟩
  rw [List.getLast?_append_cons, List.getLast?_cons_cons] at ends
  exact ends

section Raw

variable [DecidableEq α]

theorem rawScript_ne_nil (counts : α → Bool) (fuel : Nat) (old new : List α) :
    rawScript counts fuel old new ≠ [] := by
  cases fuel with
  | zero => exact List.cons_ne_nil _ _
  | succ fuel =>
    rw [rawScript]
    split
    · exact List.cons_ne_nil _ _
    · exact List.append_ne_nil_of_right_ne_nil _ (List.cons_ne_nil _ _)

theorem rawScript_takesTurns (counts : α → Bool) (fuel : Nat) (old new : List α) :
    TakesTurns (rawScript counts fuel old new) ∧ Framed (rawScript counts fuel old new) := by
  have whole (removed added : List α) : TakesTurns [Edit.change removed added] :=
    ⟨.singleton _, fun member => by cases List.mem_singleton.mp member⟩
  induction fuel generalizing old new with
  | zero => exact ⟨whole old new, framed_change old new⟩
  | succ fuel ih =>
    rw [rawScript]
    split
    · exact ⟨whole old new, framed_change old new⟩
    · next shares =>
      obtain ⟨first, firstFramed⟩ :=
        ih (cut counts old new).oldBefore (cut counts old new).newBefore
      obtain ⟨second, secondFramed⟩ :=
        ih (cut counts old new).oldAfter (cut counts old new).newAfter
      have filled : (cut counts old new).shared ≠ [] := fun none => shares (by rw [none]; rfl)
      exact ⟨first.around filled firstFramed second secondFramed,
        firstFramed.around (rawScript_ne_nil _ _ _ _) (rawScript_ne_nil _ _ _ _) secondFramed _⟩

end Raw

/-- A script in which no change stands next to another one and no stretch is empty. -/
structure Parted (script : List (Edit α)) : Prop where
  apart : script.IsChain fun first second => first.isKeep = false → second.isKeep = true
  filled : .keep [] ∉ script

theorem Parted.cons_change {removed added : List α} {rest : List (Edit α)} (parted : Parted rest)
    (next : ∀ edit ∈ rest.head?, edit.isKeep = true) :
    Parted (.change removed added :: rest) :=
  ⟨List.isChain_cons.mpr ⟨fun edit begins _ => next edit begins, parted.apart⟩,
    List.not_mem_cons_of_ne_of_not_mem nofun parted.filled⟩

theorem Parted.cons_keep {kept : List α} (some : kept ≠ []) {rest : List (Edit α)}
    (parted : Parted rest) : Parted (.keep kept :: rest) :=
  ⟨List.isChain_cons.mpr ⟨fun _ _ none => (Bool.noConfusion none), parted.apart⟩,
    List.not_mem_cons_of_ne_of_not_mem (fun same => some (Edit.keep.inj same).symm) parted.filled⟩

/-- Where parts take turns, those that are left once empty changes are gone are kept apart, and
they begin with a stretch if the parts did. -/
theorem parted_foldr_consEdit {parts : List (Edit α)} (turns : TakesTurns parts) :
    Parted (parts.foldr consEdit []) ∧
      ((∀ edit ∈ parts.head?, edit.isKeep = true) →
        ∀ edit ∈ (parts.foldr consEdit []).head?, edit.isKeep = true) := by
  induction parts with
  | nil => exact ⟨⟨.nil, List.not_mem_nil⟩, fun _ _ none => nomatch none⟩
  | cons edit rest ih =>
    obtain ⟨next, later⟩ := List.isChain_cons.mp turns.turns
    have notEmpty : edit ≠ .keep [] := (List.ne_of_not_mem_cons turns.filled).symm
    obtain ⟨parted, begins⟩ := ih ⟨later, List.not_mem_of_not_mem_cons turns.filled⟩
    rw [List.foldr_cons]
    generalize rest.foldr consEdit [] = merged at parted begins
    fun_cases consEdit edit merged with
    | case1 =>
      exact ⟨parted, fun keeps => Bool.noConfusion (keeps _ rfl)⟩
    | case2 xs ys more =>
      refine ⟨?_, fun _ other first => by cases first; rfl⟩
      have some : xs ++ ys ≠ [] := fun none =>
        notEmpty (by rw [(List.append_eq_nil_iff.mp none).1])
      obtain ⟨-, tail⟩ := List.isChain_cons.mp parted.apart
      exact Parted.cons_keep some
        ⟨tail, fun member => parted.filled (List.mem_cons_of_mem _ member)⟩
    | case3 =>
      cases edit with
      | keep xs =>
        refine ⟨parted.cons_keep fun none => notEmpty (by rw [none]), fun _ other first => ?_⟩
        cases first
        rfl
      | change removed added =>
        refine ⟨parted.cons_change (begins fun other first => ?_), fun keeps =>
          Bool.noConfusion (keeps _ rfl)⟩
        exact (Bool.eq_false_or_eq_true other.isKeep).resolve_right (next other first).symm

theorem parted_script [DecidableEq α] (old new : List α) : Parted (script old new) :=
  (parted_foldr_consEdit (rawScript_takesTurns _ _ old new).1).1

/-- Before the last part of a script, if that is a change, nothing stands or a kept line does. -/
theorem Parted.before_change {front : List (Edit α)} {removed added : List α}
    (parted : Parted (front ++ [.change removed added])) :
    front = [] ∨ ∃ earlier kept line, front = earlier ++ [.keep (kept ++ [line])] := by
  rcases List.eq_nil_or_concat' front with none | ⟨earlier, edit, rfl⟩
  · exact Or.inl none
  · refine Or.inr ?_
    obtain ⟨-, -, meets⟩ := List.isChain_append.mp parted.apart
    cases edit with
    | change removed' added' =>
      have keeps := meets _ (List.getLast?_concat) _ rfl rfl
      cases keeps
    | keep kept =>
      rcases List.eq_nil_or_concat' kept with rfl | ⟨lines, line, rfl⟩
      · exact absurd (by simp) parted.filled
      · exact ⟨earlier, lines, line, rfl⟩

end Remedy.Diff

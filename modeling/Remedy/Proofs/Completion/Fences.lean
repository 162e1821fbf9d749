import Remedy.Completion
import Remedy.Proofs.Text.Trim

/-!
# Fences

A fence is three backticks in a row. Cleaning a completion leaves no fence, whatever stood in it,
and it takes nothing but white space from a text that has none. A text between an opening fence
with its tag and a closing fence comes out as it went in, also when it ends in backticks.
-/

set_option autoImplicit false

namespace Remedy.Completion

open Text

def fence : List Char :=
  ['\x60', '\x60', '\x60']

/-- A text without three backticks in a row. -/
def Fenceless (text : List Char) : Prop :=
  ¬ fence <:+: text

instance (text : List Char) : Decidable (Fenceless text) :=
  inferInstanceAs (Decidable (¬ fence <:+: text))

theorem fenceless_nil : Fenceless [] := by
  simp [Fenceless, fence]

theorem fenceless_cons_iff {c : Char} {rest : List Char} :
    Fenceless (c :: rest) ↔ ¬ fence <+: c :: rest ∧ Fenceless rest := by
  rw [Fenceless, List.infix_cons_iff, not_or, Fenceless]

theorem Fenceless.of_part {part text : List Char} (fenceless : Fenceless text)
    (inside : part <:+: text) : Fenceless part :=
  fun found => fenceless (found.trans inside)

theorem fenceless_of_not_mem {text : List Char} (absent : '\x60' ∉ text) : Fenceless text :=
  fun found => absent (found.subset (by simp [fence]))

theorem Fenceless.concat {text : List Char} (fenceless : Fenceless text) {c : Char}
    (other : c ≠ '\x60') : Fenceless (text ++ [c]) := by
  intro found
  rcases List.infix_concat_iff.mp found with ends | inside
  · obtain ⟨front, whole⟩ := ends
    have last := congrArg List.getLast? whole
    simp [fence] at last
    exact other last.symm
  · exact fenceless inside

/-! ## One step of a removal -/

theorem removeTagged_fence (fuel : Nat) (rest : List Char) :
    removeTagged (fuel + 1) (fence ++ rest) = removeTagged fuel (afterTag rest) := rfl

theorem removeTagged_cons {c : Char} {rest : List Char} (noFence : ¬ fence <+: c :: rest)
    (fuel : Nat) : removeTagged (fuel + 1) (c :: rest) = c :: removeTagged fuel rest := by
  rw [removeTagged]
  intro more head tail
  exact noFence ⟨more, by rw [head, tail]; rfl⟩

theorem removeBare_cons {c : Char} {rest : List Char} (noFence : ¬ fence <+: c :: rest) :
    removeBare (c :: rest) = c :: removeBare rest := by
  rw [removeBare]
  intro more head tail
  exact noFence ⟨more, by rw [head, tail]; rfl⟩

/-! ## Texts without fences -/

theorem removeTagged_of_fenceless {text : List Char} (fenceless : Fenceless text) (fuel : Nat) :
    removeTagged fuel text = text := by
  induction text generalizing fuel with
  | nil => cases fuel <;> rfl
  | cons c rest ih =>
    obtain ⟨noFence, later⟩ := fenceless_cons_iff.mp fenceless
    cases fuel with
    | zero => rfl
    | succ fuel => rw [removeTagged_cons noFence, ih later]

theorem removeBare_of_fenceless {text : List Char} (fenceless : Fenceless text) :
    removeBare text = text := by
  induction text with
  | nil => rfl
  | cons c rest ih =>
    obtain ⟨noFence, later⟩ := fenceless_cons_iff.mp fenceless
    rw [removeBare_cons noFence, ih later]

theorem cleanChars_of_fenceless {text : List Char} (fenceless : Fenceless text) :
    cleanChars text = stripChars text := by
  rw [cleanChars, removeTagged_of_fenceless fenceless, removeBare_of_fenceless fenceless]

/-! ## What is left -/

theorem head_removeBare {text : List Char} (other : text.head? ≠ some '\x60') :
    (removeBare text).head? = text.head? := by
  cases text with
  | nil => rfl
  | cons c rest =>
    rw [removeBare_cons]
    · rfl
    · rintro ⟨more, whole⟩
      cases whole
      exact other rfl

/-- A character that is kept stands before what is left of the rest, where it completes no fence:
of a run of backticks that was longer than two nothing is left but what is kept before it. -/
theorem not_fence_prefix_cons_removeBare {c : Char} {rest : List Char}
    (noFence : ¬ fence <+: c :: rest) : ¬ fence <+: c :: removeBare rest := by
  rintro ⟨more, whole⟩
  obtain ⟨rfl, left⟩ : '\x60' = c ∧ '\x60' :: '\x60' :: more = removeBare rest :=
    List.cons.inj whole
  have head : rest.head? = some '\x60' := by
    by_contra other
    have kept := head_removeBare other
    rw [← left] at kept
    exact other kept.symm
  obtain ⟨later, rfl⟩ := List.head?_eq_some_iff.mp head
  have otherNext : later.head? ≠ some '\x60' := by
    intro next
    obtain ⟨last, rfl⟩ := List.head?_eq_some_iff.mp next
    exact noFence ⟨last, rfl⟩
  have keeps : removeBare ('\x60' :: later) = '\x60' :: removeBare later := by
    apply removeBare_cons
    rintro ⟨last, same⟩
    cases same
    exact otherNext rfl
  rw [keeps] at left
  have next := head_removeBare otherNext
  rw [← (List.cons.inj left).2] at next
  exact otherNext next.symm

/-- No fence is left, also none that the removal of others would put together. -/
theorem fenceless_removeBare (text : List Char) : Fenceless (removeBare text) := by
  fun_induction removeBare text with
  | case1 rest ih => exact ih
  | case2 c rest noFence ih =>
    refine fenceless_cons_iff.mpr ⟨not_fence_prefix_cons_removeBare ?_, ih⟩
    rintro ⟨more, whole⟩
    cases whole
    exact noFence _ rfl rfl
  | case3 => exact fenceless_nil

theorem fenceless_cleanChars (text : List Char) : Fenceless (cleanChars text) :=
  (fenceless_removeBare _).of_part (stripChars_infix_self _)

theorem trimmed_cleanChars (text : List Char) : Trimmed (cleanChars text) :=
  trimmed_stripChars _

/-! ## Texts between fences -/

theorem isTagChar_backtick : isTagChar '\x60' = false := by
  decide

theorem isTagChar_lineFeed : isTagChar '\n' = false := by
  decide

theorem isTagChar_of_isLineBlank {c : Char} (blank : isLineBlank c = true) :
    isTagChar c = false := by
  have either : c = ' ' ∨ c = '\t' := by simpa [isLineBlank] using blank
  rcases either with rfl | rfl <;> decide

/-- A tag and the blanks behind it go up to the first character that can be neither, and a line feed
there goes with them. -/
theorem afterTag_append {tag blanks rest : List Char} (tagged : ∀ c ∈ tag, isTagChar c = true)
    (blank : ∀ c ∈ blanks, isLineBlank c = true)
    (stops : ∀ c, rest.head? = some c → isTagChar c = false ∧ isLineBlank c = false) :
    afterTag (tag ++ (blanks ++ rest)) = dropNewline rest := by
  have untagged : (blanks ++ rest).dropWhile isTagChar = blanks ++ rest := by
    refine dropWhile_of_head fun c head => ?_
    cases blanks with
    | nil => exact (stops c head).1
    | cons d blanks =>
      cases head
      exact isTagChar_of_isLineBlank (blank c (List.mem_cons_self ..))
  have unblanked : (blanks ++ rest).dropWhile isLineBlank = rest := by
    rw [List.dropWhile_append_of_pos blank, dropWhile_of_head fun c head => (stops c head).2]
  rw [afterTag, List.dropWhile_append_of_pos tagged, untagged, unblanked]

theorem afterTag_line {tag blanks : List Char} (tagged : ∀ c ∈ tag, isTagChar c = true)
    (blank : ∀ c ∈ blanks, isLineBlank c = true) (rest : List Char) :
    afterTag (tag ++ (blanks ++ '\n' :: rest)) = rest := by
  refine afterTag_append tagged blank fun c head => ?_
  cases head
  exact ⟨isTagChar_lineFeed, rfl⟩

theorem afterTag_backtick (rest : List Char) : afterTag ('\x60' :: rest) = '\x60' :: rest := by
  change afterTag ([] ++ ([] ++ '\x60' :: rest)) = '\x60' :: rest
  refine afterTag_append (List.forall_mem_nil _) (List.forall_mem_nil _) fun c head => ?_
  cases head
  exact ⟨isTagChar_backtick, rfl⟩

theorem removeTagged_fence_backtick {rest : List Char} (fenceless : Fenceless ('\x60' :: rest))
    (fuel : Nat) : removeTagged (fuel + 1) (fence ++ '\x60' :: rest) = '\x60' :: rest := by
  rw [removeTagged_fence, afterTag_backtick, removeTagged_of_fenceless fenceless]

/-- The closing fence is taken away from behind a text without fences. Where the text ends in
backticks the match begins with them, and as many are left behind it. -/
theorem removeTagged_append_fence {text : List Char} (fenceless : Fenceless text) {fuel : Nat}
    (enough : text.length < fuel) : removeTagged fuel (text ++ fence) = text := by
  induction text generalizing fuel with
  | nil =>
    obtain ⟨fuel, rfl⟩ := Nat.exists_eq_succ_of_ne_zero (Nat.ne_of_gt enough)
    exact removeTagged_of_fenceless fenceless_nil fuel
  | cons c rest ih =>
    obtain ⟨fuel, rfl⟩ := Nat.exists_eq_succ_of_ne_zero (Nat.ne_of_gt (Nat.zero_lt_of_lt enough))
    obtain ⟨noFence, later⟩ := fenceless_cons_iff.mp fenceless
    by_cases opens : fence <+: c :: (rest ++ fence)
    · obtain ⟨more, whole⟩ := opens
      obtain ⟨rfl, left⟩ : '\x60' = c ∧ '\x60' :: '\x60' :: more = rest ++ fence :=
        List.cons.inj whole
      rcases rest with _ | ⟨d, _ | ⟨e, rest⟩⟩
      · exact removeTagged_fence_backtick fenceless fuel
      · obtain ⟨rfl, -⟩ := List.cons.inj left
        exact removeTagged_fence_backtick fenceless fuel
      · obtain ⟨rfl, next⟩ := List.cons.inj left
        obtain ⟨rfl, -⟩ := List.cons.inj next
        exact absurd ⟨rest, rfl⟩ noFence
    · rw [List.cons_append, removeTagged_cons opens, ih later (Nat.lt_of_succ_lt_succ enough)]

/-- A text without fences that stands in a block of code is what cleaning trims. -/
theorem cleanChars_block {tag text : List Char} (tagged : ∀ c ∈ tag, isTagChar c = true)
    (fenceless : Fenceless text) :
    cleanChars (fence ++ (tag ++ '\n' :: (text ++ fence))) = stripChars text := by
  have inside : removeTagged (fence ++ (tag ++ '\n' :: (text ++ fence))).length
      (fence ++ (tag ++ '\n' :: (text ++ fence))) = text := by
    have length : (fence ++ (tag ++ '\n' :: (text ++ fence))).length =
        tag.length + text.length + 6 + 1 := by
      simp only [fence, List.length_append, List.length_cons, List.length_nil]
      omega
    have opening : afterTag (tag ++ '\n' :: (text ++ fence)) = text ++ fence :=
      afterTag_line tagged (List.forall_mem_nil _) (text ++ fence)
    rw [length, removeTagged_fence, opening]
    exact removeTagged_append_fence fenceless (by omega)
  rw [cleanChars, inside, removeBare_of_fenceless fenceless]

end Remedy.Completion

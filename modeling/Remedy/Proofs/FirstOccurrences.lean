import Mathlib.Data.List.Induction
import Mathlib.Data.List.Nodup

/-!
# First occurrences

Taking out repetitions keeps of each member its first occurrence. A list that grows at its end keeps
what it has, and gains the new member if it did not have it.
-/

set_option autoImplicit false

namespace Remedy

variable {α : Type} [BEq α] [LawfulBEq α]

theorem eraseDups_concat (members : List α) (last : α) [Decidable (last ∈ members)] :
    (members ++ [last]).eraseDups =
      if last ∈ members then members.eraseDups else members.eraseDups ++ [last] := by
  rw [List.eraseDups_append]
  split
  · next known => simp [List.removeAll, known]
  · next fresh => simp [List.removeAll, fresh, List.eraseDups_cons]

theorem nodup_eraseDups (members : List α) : members.eraseDups.Nodup := by
  induction members using List.reverseRecOn with
  | nil => exact List.nodup_nil
  | append_singleton front last ih =>
    classical
    rw [eraseDups_concat]
    split
    · exact ih
    · next fresh =>
      refine List.nodup_append.mpr ⟨ih, List.nodup_singleton last, ?_⟩
      rintro member among _ isLast rfl
      rw [List.mem_singleton.mp isLast] at among
      exact fresh (List.mem_eraseDups.mp among)

end Remedy

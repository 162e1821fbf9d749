import Mathlib.Data.List.Infix
import Remedy.Proofs.Pattern.Language

/-!
# Patterns up to case

Case is taken away from a character by one function, which knows the letters beyond ASCII that are
ASCII letters up to case. A pattern whose characters are compared up to case then stands for a list
of texts: it occurs in a line exactly if one of them is part of the line without its case.
-/

set_option autoImplicit false

namespace Remedy

namespace Text

/-- A character without its case: the long s, the sign for kelvin and the capital i with a dot and
the small one without are those that an ASCII letter stands for beyond ASCII. -/
def foldCase (c : Char) : Char :=
  if c = '\u017f' then 's'
  else if c = '\u212a' then 'k'
  else if c = '\u0130' ∨ c = '\u0131' then 'i'
  else c.toLower

theorem eq_of_toLower_eq {c d : Char} (notSmall : d.isLower = false) (same : c.toLower = d) :
    c = d := by
  unfold Char.toLower at same
  split at same
  · next capital =>
    subst same
    change (decide ('a'.val ≤ c.val + _) && decide (c.val + _ ≤ 'z'.val)) = false at notSmall
    simp only [Bool.and_eq_false_iff, decide_eq_false_iff_not, ge_iff_le,
      UInt32.le_iff_toNat_le, UInt32.toNat_add] at notSmall capital
    have a : 'A'.val.toNat = 65 := rfl
    have z : 'Z'.val.toNat = 90 := rfl
    have a' : 'a'.val.toNat = 97 := rfl
    have z' : 'z'.val.toNat = 122 := rfl
    have shift : ('a'.val - 'A'.val).toNat = 32 := rfl
    omega
  · exact same

theorem foldCase_eq_iff {c d : Char} (notSmall : d.isLower = false) (settled : foldCase d = d) :
    foldCase c = d ↔ c = d := by
  constructor
  · intro same
    unfold foldCase at same
    split_ifs at same
    · subst same
      cases notSmall
    · subst same
      cases notSmall
    · subst same
      cases notSmall
    · exact eq_of_toLower_eq notSmall same
  · rintro rfl
    exact settled

end Text

open Text

namespace CharClass

theorem mem_variants_iff {letter c : Char} :
    c ∈ variants letter ↔ letter = 's' ∧ c = '\u017f' ∨ letter = 'k' ∧ c = '\u212a' ∨
      letter = 'i' ∧ (c = '\u0131' ∨ c = '\u0130') := by
  unfold variants
  split_ifs with s k i
  · simp [s]
  · simp [k]
  · simp [i]
  · simp [s, k, i]

/-- A letter is matched up to case by the characters that are this letter without their case. -/
theorem contains_anyCase_iff {letter c : Char} (settled : foldCase letter = letter) :
    (anyCase letter).contains c = true ↔ foldCase c = letter := by
  have apart {d : Char} (moves : foldCase d ≠ d) : letter ≠ d := by
    rintro rfl
    exact moves settled
  simp only [contains, Bool.or_eq_true, beq_iff_eq, List.contains_iff_mem, mem_variants_iff]
  unfold foldCase
  split_ifs with longS kelvin dotted
  · subst longS
    have other : letter ≠ '\u017f' := apart (by decide)
    simp [other, eq_comm]
  · subst kelvin
    have other : letter ≠ '\u212a' := apart (by decide)
    simp [other, eq_comm]
  · rcases dotted with rfl | rfl
    · have other : letter ≠ '\u0130' := apart (by decide)
      simp [other, eq_comm]
    · have other : letter ≠ '\u0131' := apart (by decide)
      simp [other, eq_comm]
  · have plain : ¬ (c = '\u0131' ∨ c = '\u0130') := fun either => dotted either.symm
    simp [longS, kelvin, plain]

theorem forall₂_anyCase_iff {part letters : List Char}
    (settled : letters.map foldCase = letters) :
    List.Forall₂ (fun c k => contains k c = true) part (letters.map anyCase) ↔
      part.map foldCase = letters := by
  induction letters generalizing part with
  | nil => simp
  | cons letter letters ih =>
    obtain ⟨first, later⟩ := List.cons.inj settled
    cases part with
    | nil => simp
    | cons c part =>
      rw [List.map_cons, List.forall₂_cons, contains_anyCase_iff first, ih later, List.map_cons,
        List.cons.injEq]

end CharClass

namespace Pattern

/-- A pattern that matches, up to case, the given texts and no others, wherever they stand. -/
def FoldsTo (p : Pattern) (texts : List (List Char)) : Prop :=
  ∀ before part after, Matches p before part after ↔ part.map foldCase ∈ texts

variable {p q : Pattern} {texts more : List (List Char)}

theorem foldsTo_textAnyCase {s : String} (settled : s.toList.map foldCase = s.toList) :
    FoldsTo (textAnyCase s) [s.toList] := by
  intro before part after
  have ones : textAnyCase s = sequence ((s.toList.map CharClass.anyCase).map one) := by
    rw [textAnyCase, List.map_map]
    rfl
  rw [ones, matches_sequence_ones_iff, CharClass.forall₂_anyCase_iff settled, List.mem_singleton]

theorem foldsTo_oneOf {members : List Char} (notSmall : members.any Char.isLower = false)
    (settled : members.map foldCase = members) :
    FoldsTo (one (.oneOf members)) (members.map fun c => [c]) := by
  intro before part after
  have noLetter : ∀ c ∈ members, c.isLower = false := by
    simpa using notSmall
  have kept : ∀ c ∈ members, foldCase c = c :=
    List.map_inj_left.mp (settled.trans (List.map_id members).symm)
  rw [matches_one_iff, List.mem_map]
  constructor
  · rintro ⟨c, member, rfl⟩
    have among : c ∈ members := List.contains_iff_mem.mp member
    exact ⟨c, among, by rw [List.map_singleton, kept c among]⟩
  · rintro ⟨d, among, same⟩
    obtain ⟨c, rfl, folds⟩ := List.map_eq_singleton_iff.mp same.symm
    obtain rfl := (foldCase_eq_iff (noLetter d among) (kept d among)).mp folds
    exact ⟨c, List.contains_iff_mem.mpr among, rfl⟩

theorem FoldsTo.optional (folds : FoldsTo p texts) : FoldsTo (.optional p) ([] :: texts) := by
  intro before part after
  rw [matches_optional_iff, folds before part after, List.mem_cons, List.map_eq_nil_iff]

theorem foldsTo_sequence_nil : FoldsTo (sequence []) [[]] := by
  intro before part after
  rw [matches_sequence_nil_iff, List.mem_singleton, List.map_eq_nil_iff]

theorem FoldsTo.sequence_cons {rest : List Pattern} (folds : FoldsTo p texts)
    (foldsRest : FoldsTo (sequence rest) more) :
    FoldsTo (sequence (p :: rest)) (texts.flatMap fun text => more.map (text ++ ·)) := by
  intro before part after
  simp only [matches_sequence_cons_iff, folds _ _ _, foldsRest _ _ _, List.mem_flatMap,
    List.mem_map]
  constructor
  · rintro ⟨text, rest, rfl, first, second⟩
    exact ⟨_, first, _, second, (List.map_append ..).symm⟩
  · rintro ⟨first, among, second, among', joined⟩
    obtain ⟨text, rest, rfl, rfl, rfl⟩ := List.map_eq_append_iff.mp joined.symm
    exact ⟨text, rest, rfl, among, among'⟩

theorem FoldsTo.occurs_iff (folds : FoldsTo p texts) {line : String} :
    p.Occurs line ↔ ∃ text ∈ texts, text <:+: line.toList.map foldCase := by
  rw [occurs_iff_isInfix folds]
  constructor
  · rintro ⟨part, inside, among⟩
    exact ⟨_, among, inside.map foldCase⟩
  · rintro ⟨text, among, within⟩
    obtain ⟨part, inside, rfl⟩ := List.infix_map_iff.mp within
    exact ⟨part, inside, among⟩

end Pattern

end Remedy

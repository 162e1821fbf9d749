import Mathlib.Data.List.Forall2
import Remedy.Proofs.Pattern.Matching

/-!
# What patterns match

Each form of pattern says which texts it matches in terms of its parts. A pattern without word edges
matches the same texts wherever they stand, so that it occurs in a line exactly if one of these
texts is part of the line.
-/

set_option autoImplicit false

namespace Remedy.Pattern

variable {p q : Pattern} {k : CharClass} {before : Option Char} {part after : List Char}

/-! ## The forms of patterns -/

theorem matches_empty_iff : Matches .empty before part after ↔ part = [] := by
  constructor
  · rintro ⟨⟩
    rfl
  · rintro rfl
    exact .empty

theorem matches_wordEdge_iff :
    Matches .wordEdge before part after ↔ part = [] ∧ isEdge before after.head? = true := by
  constructor
  · rintro ⟨⟩
    exact ⟨rfl, by assumption⟩
  · rintro ⟨rfl, edge⟩
    exact .wordEdge edge

theorem matches_one_iff :
    Matches (.one k) before part after ↔ ∃ c, k.contains c = true ∧ part = [c] := by
  constructor
  · rintro ⟨⟩
    exact ⟨_, by assumption, rfl⟩
  · rintro ⟨c, member, rfl⟩
    exact .one member

theorem matches_run_iff :
    Matches (.run k) before part after ↔ ∀ c ∈ part, k.contains c = true := by
  constructor
  · rintro ⟨⟩
    assumption
  · exact .run

theorem matches_optional_iff :
    Matches (.optional p) before part after ↔ part = [] ∨ Matches p before part after := by
  constructor
  · rintro (_ | _)
    · exact Or.inl rfl
    · exact Or.inr (by assumption)
  · rintro (rfl | inner)
    · exact .absent
    · exact .present inner

theorem matches_choice_iff :
    Matches (.choice p q) before part after ↔
      Matches p before part after ∨ Matches q before part after := by
  constructor
  · rintro (_ | _)
    · exact Or.inl (by assumption)
    · exact Or.inr (by assumption)
  · rintro (inner | inner)
    · exact .left inner
    · exact .right inner

theorem matches_seq_iff :
    Matches (.seq p q) before part after ↔
      ∃ text more, part = text ++ more ∧ Matches p before text (more ++ after) ∧
        Matches q (lastOr before text) more after := by
  constructor
  · rintro ⟨⟩
    exact ⟨_, _, rfl, by assumption, by assumption⟩
  · rintro ⟨text, more, rfl, first, second⟩
    exact .seq first second

theorem matches_sequence_nil_iff : Matches (sequence []) before part after ↔ part = [] :=
  matches_empty_iff

theorem matches_sequence_cons_iff {rest : List Pattern} :
    Matches (sequence (p :: rest)) before part after ↔
      ∃ text more, part = text ++ more ∧ Matches p before text (more ++ after) ∧
        Matches (sequence rest) (lastOr before text) more after := by
  cases rest with
  | nil =>
    simp only [matches_sequence_nil_iff]
    constructor
    · intro inner
      exact ⟨part, [], (List.append_nil part).symm, inner, rfl⟩
    · rintro ⟨text, more, rfl, inner, rfl⟩
      rw [List.append_nil]
      exact inner
  | cons q rest => exact matches_seq_iff

theorem matches_anyOf_iff {patterns : List Pattern} (notEmpty : patterns ≠ []) :
    Matches (anyOf patterns) before part after ↔
      ∃ p ∈ patterns, Matches p before part after := by
  induction patterns with
  | nil => exact absurd rfl notEmpty
  | cons p rest ih =>
    cases rest with
    | nil => simp [anyOf]
    | cons q rest =>
      rw [List.exists_mem_cons_iff, ← ih (List.cons_ne_nil q rest)]
      exact matches_choice_iff

/-! ## Texts -/

theorem matches_sequence_ones_iff {classes : List CharClass} :
    Matches (sequence (classes.map one)) before part after ↔
      List.Forall₂ (fun c k => k.contains c = true) part classes := by
  induction classes generalizing before part with
  | nil => rw [List.map_nil, matches_sequence_nil_iff, List.forall₂_nil_right_iff]
  | cons k classes ih =>
    simp only [List.map_cons, matches_sequence_cons_iff, matches_one_iff, ih,
      List.forall₂_cons_right_iff]
    constructor
    · rintro ⟨-, more, rfl, ⟨c, member, rfl⟩, rest⟩
      exact ⟨c, more, member, rest, rfl⟩
    · rintro ⟨c, more, member, rest, rfl⟩
      exact ⟨[c], more, rfl, ⟨c, member, rfl⟩, rest⟩

theorem matches_text_iff {s : String} : Matches (text s) before part after ↔ part = s.toList := by
  have ones : text s = sequence ((s.toList.map CharClass.is).map one) := by
    rw [text, List.map_map]
    rfl
  rw [ones, matches_sequence_ones_iff, List.forall₂_map_right_iff]
  simp [CharClass.contains, List.forall₂_eq_eq_eq]

/-! ## Occurrences -/

theorem lastOr_none (text : List Char) : lastOr none text = text.getLast? :=
  Option.or_none

theorem occurs_iff {line : String} :
    p.Occurs line ↔ ∃ front part rest, line.toList = front ++ (part ++ rest) ∧
      Matches p front.getLast? part rest := by
  constructor
  · rintro ⟨-, part, front, rest, split, -, inner⟩
    exact ⟨front, part, rest, split, lastOr_none front ▸ inner⟩
  · rintro ⟨front, part, rest, split, inner⟩
    exact ⟨front.length, part, front, rest, split, rfl, (lastOr_none front).symm ▸ inner⟩

/-- A pattern that matches the same texts wherever they stand occurs where one of them stands. -/
theorem occurs_iff_isInfix {Reads : List Char → Prop}
    (reads : ∀ before part after, Matches p before part after ↔ Reads part) {line : String} :
    p.Occurs line ↔ ∃ part, part <:+: line.toList ∧ Reads part := by
  rw [occurs_iff]
  constructor
  · rintro ⟨front, part, rest, split, inner⟩
    exact ⟨part, ⟨front, rest, by rw [split, List.append_assoc]⟩, (reads _ _ _).mp inner⟩
  · rintro ⟨part, ⟨front, rest, split⟩, inner⟩
    exact ⟨front, part, rest, by rw [← split, List.append_assoc], (reads _ _ _).mpr inner⟩

end Remedy.Pattern

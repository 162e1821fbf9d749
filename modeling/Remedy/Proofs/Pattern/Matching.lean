import Remedy.Pattern.Search

/-!
# Search and matches

Searching hands the rest of a text from one part of a pattern to the next and takes choices back
that lead nowhere. What it finds is a match, and where there is a match it finds one: an attempt
succeeds just if some match of the pattern leads on to a success of what comes next. The search of
a line thus finds a match exactly if the line has one, and no match begins further to the left.
-/

set_option autoImplicit false

namespace Remedy.Pattern

variable {α : Type}

theorem lastOr_append (before : Option Char) (text more : List Char) :
    lastOr before (text ++ more) = lastOr (lastOr before text) more := by
  rw [lastOr, lastOr, lastOr, List.getLast?_append, Option.or_assoc]

theorem lastOr_cons (before : Option Char) (c : Char) (text : List Char) :
    lastOr before (c :: text) = lastOr (some c) text :=
  lastOr_append before [c] text

/-! ## An attempt and the matches at one place -/

section Runs

variable {k : CharClass} {next : Option Char → List Char → Option α}

theorem matches_of_attemptRun {before : Option Char} {text : List Char} {result : α}
    (found : attemptRun k next before text = some result) :
    ∃ part rest, text = part ++ rest ∧ Matches (.run k) before part rest ∧
      next (lastOr before part) rest = some result := by
  have stop (rest : List Char) : Matches (.run k) before [] rest := .run (by simp)
  induction text generalizing before with
  | nil => exact ⟨[], [], rfl, stop [], found⟩
  | cons c rest ih =>
    rw [attemptRun] at found
    split at found
    · next member =>
      split at found
      · next result' longer =>
        cases found
        obtain ⟨part, after, rfl, inner, ended⟩ := ih longer fun _ => .run (by simp)
        cases inner with
        | run members =>
          refine ⟨c :: part, after, rfl, .run ?_, ?_⟩
          · exact List.forall_mem_cons.mpr ⟨member, members⟩
          · rw [lastOr_cons, ended]
      · exact ⟨[], c :: rest, rfl, stop _, found⟩
    · exact ⟨[], c :: rest, rfl, stop _, found⟩

theorem attemptRun_isSome {before : Option Char} {part rest : List Char}
    (members : ∀ c ∈ part, k.contains c = true)
    (leads : (next (lastOr before part) rest).isSome = true) :
    (attemptRun k next before (part ++ rest)).isSome = true := by
  induction part generalizing before with
  | nil =>
    have here : (next before rest).isSome = true := leads
    cases rest with
    | nil => exact here
    | cons c rest =>
      simp only [List.nil_append, attemptRun]
      split
      · split
        · rfl
        · exact here
      · exact here
  | cons c part ih =>
    obtain ⟨member, later⟩ := List.forall_mem_cons.mp members
    have longer := ih later (lastOr_cons before c part ▸ leads)
    obtain ⟨result, found⟩ := Option.isSome_iff_exists.mp longer
    simp only [List.cons_append, attemptRun, member, if_true, found, Option.isSome_some]

end Runs

theorem matches_of_attempt {p : Pattern} {next : Option Char → List Char → Option α}
    {before : Option Char} {text : List Char} {result : α}
    (found : attempt p next before text = some result) :
    ∃ part rest, text = part ++ rest ∧ Matches p before part rest ∧
      next (lastOr before part) rest = some result := by
  induction p generalizing next before text with
  | empty => exact ⟨[], text, rfl, .empty, found⟩
  | wordEdge =>
    rw [attempt] at found
    split at found
    · next edge => exact ⟨[], text, rfl, .wordEdge edge, found⟩
    · cases found
  | one k =>
    cases text with
    | nil => cases found
    | cons c rest =>
      rw [attempt] at found
      split at found
      · next member => exact ⟨[c], rest, rfl, .one member, found⟩
      · cases found
  | run k => exact matches_of_attemptRun found
  | optional p ih =>
    rw [attempt] at found
    split at found
    · next present =>
      cases found
      obtain ⟨part, rest, split, inner, ended⟩ := ih present
      exact ⟨part, rest, split, .present inner, ended⟩
    · exact ⟨[], text, rfl, .absent, found⟩
  | choice p q ihp ihq =>
    rw [attempt] at found
    split at found
    · next left =>
      cases found
      obtain ⟨part, rest, split, inner, ended⟩ := ihp left
      exact ⟨part, rest, split, .left inner, ended⟩
    · obtain ⟨part, rest, split, inner, ended⟩ := ihq found
      exact ⟨part, rest, split, .right inner, ended⟩
  | seq p q ihp ihq =>
    rw [attempt] at found
    obtain ⟨part, rest, rfl, first, onward⟩ := ihp found
    obtain ⟨more, after, rfl, second, ended⟩ := ihq onward
    refine ⟨part ++ more, after, (List.append_assoc ..).symm, .seq first second, ?_⟩
    rw [lastOr_append, ended]

/-- No match is passed over: if one leads to a success, the attempt succeeds. -/
theorem attempt_isSome {p : Pattern} {before : Option Char} {part rest : List Char}
    (inner : Matches p before part rest) {next : Option Char → List Char → Option α}
    (leads : (next (lastOr before part) rest).isSome = true) :
    (attempt p next before (part ++ rest)).isSome = true := by
  induction inner generalizing next with
  | empty => exact leads
  | wordEdge edge =>
    rw [attempt, List.nil_append, if_pos edge]
    exact leads
  | one member =>
    rw [List.singleton_append, attempt, if_pos member]
    exact leads
  | run members => exact attemptRun_isSome members leads
  | absent =>
    rw [attempt]
    split
    · rfl
    · exact leads
  | present _ ih =>
    obtain ⟨result, found⟩ := Option.isSome_iff_exists.mp (ih leads)
    rw [attempt, found]
    rfl
  | left _ ih =>
    obtain ⟨result, found⟩ := Option.isSome_iff_exists.mp (ih leads)
    rw [attempt, found]
    rfl
  | right _ ih =>
    rw [attempt]
    split
    · rfl
    · exact ih leads
  | seq _ _ ihp ihq =>
    rw [attempt, List.append_assoc]
    rw [lastOr_append] at leads
    exact ihp (ihq leads)

theorem matches_of_matchAt? {p : Pattern} {before : Option Char} {text part : List Char}
    (found : matchAt? p before text = some part) :
    ∃ rest, text = part ++ rest ∧ Matches p before part rest := by
  rw [matchAt?, Option.map_eq_some_iff] at found
  obtain ⟨rest, onward, rfl⟩ := found
  obtain ⟨part, after, rfl, inner, ended⟩ := matches_of_attempt onward
  cases ended
  have length : (part ++ rest).length - rest.length = part.length := by
    rw [List.length_append, Nat.add_sub_cancel]
  rw [length, List.take_left]
  exact ⟨rest, rfl, inner⟩

theorem matchAt?_isSome {p : Pattern} {before : Option Char} {part rest : List Char}
    (inner : Matches p before part rest) : (matchAt? p before (part ++ rest)).isSome = true := by
  rw [matchAt?, Option.isSome_map]
  exact attempt_isSome inner rfl

/-! ## A search and the matches in a text -/

/-- A pattern matches a part of a text that follows `before`; the part begins at an index. -/
def OccursAt (p : Pattern) (before : Option Char) (text : List Char) (start : Nat)
    (part : List Char) : Prop :=
  ∃ front rest, text = front ++ (part ++ rest) ∧ front.length = start ∧
    Matches p (lastOr before front) part rest

namespace OccursAt

variable {p : Pattern} {before : Option Char} {text part : List Char} {start : Nat}

theorem isInfix (occurs : p.OccursAt before text start part) : part <:+: text := by
  obtain ⟨front, rest, rfl, -, -⟩ := occurs
  exact ⟨front, rest, List.append_assoc ..⟩

theorem zero_iff : p.OccursAt before text 0 part ↔
    ∃ rest, text = part ++ rest ∧ Matches p before part rest := by
  constructor
  · rintro ⟨front, rest, rfl, length, inner⟩
    obtain rfl := List.length_eq_zero_iff.mp length
    exact ⟨rest, rfl, inner⟩
  · rintro ⟨rest, rfl, inner⟩
    exact ⟨[], rest, rfl, rfl, inner⟩

theorem succ_iff {c : Char} {rest : List Char} :
    p.OccursAt before (c :: rest) (start + 1) part ↔ p.OccursAt (some c) rest start part := by
  constructor
  · rintro ⟨front, after, split, length, inner⟩
    obtain ⟨d, front, rfl⟩ := List.exists_cons_of_length_eq_add_one length
    obtain ⟨rfl, rfl⟩ := List.cons.inj split
    exact ⟨front, after, rfl, Nat.succ_inj.mp length, lastOr_cons before c front ▸ inner⟩
  · rintro ⟨front, after, rfl, rfl, inner⟩
    exact ⟨c :: front, after, rfl, rfl, (lastOr_cons before c front).symm ▸ inner⟩

theorem not_succ_nil : ¬ p.OccursAt before [] (start + 1) part := by
  rintro ⟨front, rest, split, length, -⟩
  obtain ⟨rfl, -⟩ := List.append_eq_nil_iff.mp split.symm
  cases length

end OccursAt

theorem not_occursAt_zero {p : Pattern} {before : Option Char} {text : List Char}
    (missed : matchAt? p before text = none) (part : List Char) :
    ¬ p.OccursAt before text 0 part := by
  rw [OccursAt.zero_iff]
  rintro ⟨rest, rfl, inner⟩
  have found := matchAt?_isSome inner
  rw [missed] at found
  cases found

/-- A search finds nothing where nothing occurs, and otherwise an occurrence that begins first. -/
theorem searchFrom_cases (p : Pattern) (before : Option Char) (text : List Char) :
    (searchFrom p before text = none ∧ ∀ start part, ¬ p.OccursAt before text start part) ∨
      ∃ start part, searchFrom p before text = some part ∧ p.OccursAt before text start part ∧
        ∀ earlier other, p.OccursAt before text earlier other → start ≤ earlier := by
  induction text generalizing before with
  | nil =>
    rw [searchFrom]
    cases here : matchAt? p before [] with
    | none =>
      refine Or.inl ⟨rfl, fun start part => ?_⟩
      cases start with
      | zero => exact not_occursAt_zero here part
      | succ start => exact OccursAt.not_succ_nil
    | some part =>
      exact Or.inr ⟨0, part, rfl, OccursAt.zero_iff.mpr (matches_of_matchAt? here),
        fun _ _ _ => Nat.zero_le _⟩
  | cons c rest ih =>
    rw [searchFrom]
    cases here : matchAt? p before (c :: rest) with
    | some part =>
      exact Or.inr ⟨0, part, rfl, OccursAt.zero_iff.mpr (matches_of_matchAt? here),
        fun _ _ _ => Nat.zero_le _⟩
    | none =>
      rcases ih (some c) with ⟨nothing, absent⟩ | ⟨start, part, found, occurs, first⟩
      · refine Or.inl ⟨nothing, fun start part => ?_⟩
        cases start with
        | zero => exact not_occursAt_zero here part
        | succ start => exact fun occurs => absent start part (OccursAt.succ_iff.mp occurs)
      · refine Or.inr ⟨start + 1, part, found, OccursAt.succ_iff.mpr occurs,
          fun earlier other inside => ?_⟩
        cases earlier with
        | zero => exact absurd inside (not_occursAt_zero here other)
        | succ earlier => exact Nat.succ_le_succ (first _ _ (OccursAt.succ_iff.mp inside))

def Occurs (p : Pattern) (line : String) : Prop :=
  ∃ start part, p.OccursAt none line.toList start part

theorem search?_eq_none_iff {p : Pattern} {line : String} :
    p.search? line = none ↔ ¬ p.Occurs line := by
  rw [search?, Option.map_eq_none_iff]
  rcases searchFrom_cases p none line.toList with
    ⟨nothing, absent⟩ | ⟨start, part, found, occurs, -⟩
  · exact iff_of_true nothing fun ⟨start, part, occurs⟩ => absent start part occurs
  · refine iff_of_false ?_ (not_not_intro ⟨start, part, occurs⟩)
    rw [found]
    exact Option.some_ne_none part

theorem occursAt_of_search? {p : Pattern} {line found : String}
    (searched : p.search? line = some found) :
    ∃ start, p.OccursAt none line.toList start found.toList ∧
      ∀ earlier other, p.OccursAt none line.toList earlier other → start ≤ earlier := by
  rw [search?, Option.map_eq_some_iff] at searched
  obtain ⟨part, searched, rfl⟩ := searched
  rcases searchFrom_cases p none line.toList with
    ⟨nothing, -⟩ | ⟨start, part', found, occurs, first⟩
  · rw [nothing] at searched
    cases searched
  · rw [found] at searched
    cases searched
    rw [String.toList_ofList]
    exact ⟨start, occurs, first⟩

/-! ## Matches that are not empty -/

/-- Whether every match of a pattern has a character, as its shape shows. -/
def consumes : Pattern → Bool
  | empty => false
  | wordEdge => false
  | one _ => true
  | run _ => false
  | optional _ => false
  | choice p q => p.consumes && q.consumes
  | seq p q => p.consumes || q.consumes

theorem ne_nil_of_consumes {p : Pattern} (consumes : p.consumes = true) {before : Option Char}
    {part rest : List Char} (inner : Matches p before part rest) : part ≠ [] := by
  induction inner with
  | empty => cases consumes
  | wordEdge => cases consumes
  | one => exact List.cons_ne_nil _ _
  | run => cases consumes
  | absent => cases consumes
  | present => cases consumes
  | left _ ih => exact ih (Bool.and_eq_true_iff.mp consumes).1
  | right _ ih => exact ih (Bool.and_eq_true_iff.mp consumes).2
  | seq _ _ ihp ihq =>
    intro nothing
    obtain ⟨rfl, rfl⟩ := List.append_eq_nil_iff.mp nothing
    rcases Bool.or_eq_true_iff.mp consumes with inFirst | inSecond
    · exact ihp inFirst rfl
    · exact ihq inSecond rfl

theorem OccursAt.ne_nil {p : Pattern} {before : Option Char} {text part : List Char} {start : Nat}
    (occurs : p.OccursAt before text start part) (consumes : p.consumes = true) : part ≠ [] := by
  obtain ⟨front, rest, -, -, inner⟩ := occurs
  exact ne_nil_of_consumes consumes inner

end Remedy.Pattern

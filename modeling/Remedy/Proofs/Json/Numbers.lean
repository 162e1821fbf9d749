import Remedy.Proofs.Json.Strings

/-!
# Numbers in JSON texts

A value begins with no white space and is followed by a comma, a closing bracket or a line feed, or
by nothing. A whole number is therefore read up to its last digit: nothing that stands behind it
could belong to it. The reader refuses a number of too many digits, however it goes on.
-/

set_option autoImplicit false

namespace Remedy.Json

open Number Text

/-! ## What stands between values -/

/-- What may stand behind a value: nothing, a comma, a closing bracket or a line feed. -/
def Follows (rest : List Point) : Prop :=
  ∀ p ∈ rest.head?, ∃ c, p = .char c ∧ (c = ',' ∨ c = ']' ∨ c = '\x7d' ∨ c = '\n')

theorem follows_cons {c : Char} (mark : c = ',' ∨ c = ']' ∨ c = '\x7d' ∨ c = '\n')
    (rest : List Point) : Follows (.char c :: rest) := by
  intro p head
  cases head
  exact ⟨c, rfl, mark⟩

theorem skipGap_append {gaps : List Char} (all : ∀ c ∈ gaps, isGap c = true) {c : Char}
    (stops : isGap c = false) (rest : List Point) :
    skipGap (gaps.map .char ++ .char c :: rest) = .char c :: rest := by
  have gap : ∀ p ∈ gaps.map Point.char, p.satisfies isGap = true :=
    List.forall_mem_map.mpr all
  rw [skipGap, List.dropWhile_append_of_pos gap,
    List.dropWhile_cons_of_neg (by simp [Point.satisfies, stops])]

section Layout

variable (layout : Layout) (depth : Nat)

theorem isGap_openBreak : ∀ c ∈ openBreak layout depth, isGap c = true := by
  cases layout with
  | oneLine => exact List.forall_mem_nil _
  | indented width =>
    refine List.forall_mem_cons.mpr ⟨rfl, fun c member => ?_⟩
    rw [List.eq_of_mem_replicate member]
    rfl

theorem follows_closeBreak {bracket : Char} (closes : bracket = ']' ∨ bracket = '\x7d')
    (rest : List Point) :
    Follows ((closeBreak layout depth).map .char ++ .char bracket :: rest) := by
  cases layout with
  | oneLine => exact follows_cons (Or.inr (closes.imp_right Or.inl)) rest
  | indented width => exact follows_cons (Or.inr (Or.inr (Or.inr rfl))) _

theorem itemBreak_eq :
    ∃ gaps, itemBreak layout depth = ',' :: gaps ∧ ∀ c ∈ gaps, isGap c = true := by
  cases layout with
  | oneLine => exact ⟨[' '], rfl, List.forall_mem_singleton.mpr rfl⟩
  | indented width => exact ⟨_, rfl, isGap_openBreak (.indented width) depth⟩

end Layout

def Starts (text : List Char) : Prop :=
  ∃ c rest, text = c :: rest ∧ isGap c = false ∧ c ≠ ']' ∧ c ≠ '\uFEFF'

theorem Starts.skipGap_append {text : List Char} (starts : Starts text) {gaps : List Char}
    (all : ∀ c ∈ gaps, isGap c = true) (rest : List Point) :
    skipGap (gaps.map .char ++ (text.map .char ++ rest)) = text.map .char ++ rest := by
  obtain ⟨c, more, rfl, stops, -⟩ := starts
  exact Json.skipGap_append all stops _

theorem Starts.length_pos {text : List Char} (starts : Starts text) : 0 < text.length := by
  obtain ⟨c, rest, rfl, -⟩ := starts
  exact Nat.succ_pos _

theorem starts_quote (name : String) : Starts (quote name) :=
  ⟨'"', _, rfl, rfl, by decide, by decide⟩

/-! ## Numbers -/

/-- A whole number that has no more digits than the reader takes. -/
def IsShort (n : Nat) : Prop :=
  (Nat.toDigits 10 n).length ≤ maxDigits

instance (n : Nat) : Decidable (IsShort n) :=
  Nat.decLe _ _

theorem IsShort.mono {m n : Nat} (short : IsShort n) (le : m ≤ n) : IsShort m := by
  have some : 0 < (Nat.toDigits 10 n).length := Nat.length_toDigits_pos
  have below : (Nat.toDigits 10 m).length ≤ (Nat.toDigits 10 n).length :=
    (Nat.length_toDigits_le_iff (by decide) some).mpr (Nat.lt_of_le_of_lt le
      ((Nat.length_toDigits_le_iff (by decide) some).mp (Nat.le_refl _)))
  exact Nat.le_trans below short

theorem isAsciiDigit_of_mem_toDigits {n : Nat} {c : Char} (member : c ∈ Nat.toDigits 10 n) :
    isAsciiDigit c = true := by
  have digit := Nat.isDigit_of_mem_toDigits (by decide) (by decide) member
  rw [Char.isDigit, Bool.and_eq_true, decide_eq_true_eq, decide_eq_true_eq] at digit
  rw [isAsciiDigit, Bool.and_eq_true, decide_eq_true_eq, decide_eq_true_eq]
  exact digit

theorem exists_toDigits (n : Nat) :
    ∃ digit digits, Nat.toDigits 10 n = digit :: digits ∧ isAsciiDigit digit = true := by
  obtain ⟨digit, digits, shape⟩ :=
    List.exists_cons_of_ne_nil (Nat.toDigits_ne_nil : Nat.toDigits 10 n ≠ [])
  exact ⟨digit, digits, shape, isAsciiDigit_of_mem_toDigits (shape ▸ List.mem_cons_self ..)⟩

theorem starts_digit {digit : Char} (isDigit : isAsciiDigit digit = true)
    (rest : List Char) : Starts (digit :: rest) := by
  refine ⟨digit, rest, rfl, Bool.eq_false_iff.mpr fun gap => ?_, ?_, ?_⟩
  · simp only [isGap, Bool.or_eq_true, beq_iff_eq] at gap
    rcases gap with ((rfl | rfl) | rfl) | rfl <;> cases isDigit
  · rintro rfl
    cases isDigit
  · rintro rfl
    cases isDigit

theorem head?_toDigits_ne_zero {n : Nat} (positive : 0 < n) :
    (Nat.toDigits 10 n).head? ≠ some '0' := by
  induction n using Nat.strongRecOn with
  | ind n ih =>
    by_cases single : n < 10
    · rw [Nat.toDigits_of_lt_base single]
      have all : ∀ digit < 10, 0 < digit → [Nat.digitChar digit].head? ≠ some '0' := by
        decide
      exact all n single positive
    · rw [Nat.toDigits_of_base_le (by decide) (Nat.le_of_not_lt single),
        List.head?_append_of_ne_nil _ Nat.toDigits_ne_nil]
      exact ih (n / 10) (by omega) (by omega)

theorem digitsValue_toDigits (n : Nat) : digitsValue (Nat.toDigits 10 n) = n := by
  have same : digitsValue (Nat.toDigits 10 n) = Nat.ofDigitChars 10 (Nat.toDigits 10 n) 0 := by
    rw [digitsValue, Nat.ofDigitChars_eq_foldl]
    congr 1
    funext value c
    rw [Nat.mul_comm]
  rw [same, Nat.ofDigitChars_ten_toDigits]

section Behind

variable {rest : List Point} (follows : Follows rest)

include follows

theorem Follows.notDigit : ∀ p ∈ rest.head?, p.satisfies isAsciiDigit = false := by
  intro p head
  obtain ⟨c, rfl, rfl | rfl | rfl | rfl⟩ := follows p head <;> rfl

theorem takeDigits_toDigits (n : Nat) :
    takeDigits ((Nat.toDigits 10 n).map .char ++ rest) = (Nat.toDigits 10 n, rest) := by
  have first : rest.takeWhile (·.satisfies isAsciiDigit) = [] ∧
      rest.dropWhile (·.satisfies isAsciiDigit) = rest := by
    cases rest with
    | nil => exact ⟨rfl, rfl⟩
    | cons p rest =>
      have stops : ¬ p.satisfies isAsciiDigit = true := by
        rw [follows.notDigit p rfl]
        decide
      exact ⟨List.takeWhile_cons_of_neg stops, List.dropWhile_cons_of_neg stops⟩
  have all : ∀ p ∈ (Nat.toDigits 10 n).map Point.char, p.satisfies isAsciiDigit = true :=
    List.forall_mem_map.mpr fun _ => isAsciiDigit_of_mem_toDigits
  rw [takeDigits, List.takeWhile_append_of_pos all, List.dropWhile_append_of_pos all, first.1,
    first.2, List.append_nil, filterMap_char?_map_char]

theorem takeWhole_toDigits (n : Nat) :
    takeWhole ((Nat.toDigits 10 n).map .char ++ rest) = (Nat.toDigits 10 n, rest) := by
  unfold takeWhole
  split
  · next zero =>
    rcases Nat.eq_zero_or_pos n with rfl | positive
    · rw [Nat.toDigits_zero] at zero ⊢
      cases zero
      rfl
    · have first := head?_toDigits_ne_zero positive
      obtain ⟨digit, digits, shape, -⟩ := exists_toDigits n
      rw [shape] at first zero
      exact absurd (congrArg some (Point.char.inj (List.cons.inj zero).1)) first
  · exact takeDigits_toDigits follows n

theorem takeFraction_of_follows : takeFraction rest = ([], rest) := by
  unfold takeFraction
  split
  · next more =>
    obtain ⟨c, same, mark⟩ := follows (.char '.') rfl
    cases same
    exact absurd mark (by decide)
  · rfl

theorem takeExponent_of_follows : takeExponent rest = (none, rest) := by
  unfold takeExponent
  split
  · next mark more =>
    have other : ¬ (mark = 'e' ∨ mark = 'E') := by
      obtain ⟨c, same, follow⟩ := follows (.char mark) rfl
      cases same
      rcases follow with rfl | rfl | rfl | rfl <;> decide
    rw [if_neg (by simpa using other)]
  · rfl

/-- A whole number is read up to what follows, if it does not have too many digits. -/
theorem readNumber_toDigits (start : List Point) (negative : Bool) (n : Nat) :
    readNumber start negative ((Nat.toDigits 10 n).map .char ++ rest) =
      if IsShort n then .ok (int (Binary64.signed negative n), rest)
      else .error (.tooLong (Nat.toDigits 10 n).length) := by
  have some : (Nat.toDigits 10 n).isEmpty = false :=
    List.isEmpty_eq_false_iff.mpr Nat.toDigits_ne_nil
  simp only [readNumber, takeWhole_toDigits follows, takeFraction_of_follows follows,
    takeExponent_of_follows follows, some, digitsValue_toDigits, List.isEmpty_nil,
    Option.isNone_none, Bool.and_self, if_true, Bool.false_eq_true, if_false, IsShort, ← Nat.not_lt,
    ite_not]

end Behind

theorem toList_toString (n : Int) :
    (toString n).toList = (if n < 0 then ['-'] else []) ++ Nat.toDigits 10 n.natAbs := by
  cases n with
  | ofNat n => exact Nat.toList_repr
  | negSucc n =>
    have shape : (toString (Int.negSucc n)).toList = '-' :: (Nat.repr (n + 1)).toList :=
      String.toList_append
    rw [shape, Nat.toList_repr, if_pos (Int.negSucc_lt_zero n)]
    rfl

/-- A text that begins with a digit, or with a minus and a digit. -/
def BeginsNumber (text : List Point) : Prop :=
  ∃ digit rest, isAsciiDigit digit = true ∧
    (text = .char digit :: rest ∨ text = .char '-' :: .char digit :: rest)

theorem beginsNumber_toString (n : Int) (rest : List Point) :
    BeginsNumber ((toString n).toList.map .char ++ rest) := by
  obtain ⟨digit, digits, shape, isDigit⟩ := exists_toDigits n.natAbs
  refine ⟨digit, digits.map .char ++ rest, isDigit, ?_⟩
  rw [toList_toString, shape]
  split
  · exact Or.inr rfl
  · exact Or.inl rfl

theorem readWord?_of_beginsNumber {text : List Point} (begins : BeginsNumber text) :
    readWord? text = none := by
  obtain ⟨digit, rest, isDigit, shape⟩ := begins
  have among : .char digit ∈ text.take 2 := by
    rcases shape with rfl | rfl
    · exact List.mem_cons_self ..
    · exact List.mem_cons_of_mem _ (List.mem_cons_self ..)
  have letters : ∀ entry ∈ wordValues, 2 ≤ (points entry.1).length ∧
      ((points entry.1).take 2).all (fun p => !p.satisfies isAsciiDigit) = true := by
    decide
  rw [readWord?, List.findSome?_eq_none_iff]
  intro entry member
  obtain ⟨long, plain⟩ := letters entry member
  rw [Option.map_eq_none_iff, afterWord?, if_neg]
  intro word
  obtain ⟨more, rfl⟩ := List.isPrefixOf_iff_prefix.mp word
  rw [List.take_append_of_le_length long] at among
  have noDigit := List.all_eq_true.mp plain _ among
  rw [Point.satisfies, isDigit] at noDigit
  cases noDigit

theorem readValue_of_beginsNumber (fuel room : Nat) {text : List Point}
    (begins : BeginsNumber text) : readValue (fuel + 1) room text = readNumeral text := by
  have noWord := readWord?_of_beginsNumber begins
  obtain ⟨digit, rest, isDigit, shape⟩ := begins
  have head {c : Char} {more : List Point} (same : text = .char c :: more) :
      c = '-' ∨ isAsciiDigit c = true := by
    rcases shape with rfl | rfl
    · cases same
      exact Or.inr isDigit
    · cases same
      exact Or.inl rfl
  unfold readValue
  split
  · exact absurd (head rfl) (by decide)
  · exact absurd (head rfl) (by decide)
  · exact absurd (head rfl) (by decide)
  · rw [noWord]

theorem readValue_toString (fuel room : Nat) (n : Int) {rest : List Point}
    (follows : Follows rest) :
    readValue (fuel + 1) room ((toString n).toList.map .char ++ rest) =
      if IsShort n.natAbs then .ok (int n, rest)
      else .error (.tooLong (Nat.toDigits 10 n.natAbs).length) := by
  rw [readValue_of_beginsNumber fuel room (beginsNumber_toString n rest), toList_toString]
  split
  · next negative =>
    have value : Binary64.signed true n.natAbs = n := by
      rw [Binary64.signed, if_pos rfl]
      omega
    rw [List.cons_append, List.nil_append, List.map_cons, List.cons_append, readNumeral,
      readNumber_toDigits follows, value]
  · next positive =>
    have value : Binary64.signed false n.natAbs = n := by
      rw [Binary64.signed, if_neg Bool.false_ne_true]
      omega
    have noSign (text : List Point) (same : text = (Nat.toDigits 10 n.natAbs).map .char ++ rest) :
        readNumeral text = readNumber text false text := by
      obtain ⟨digit, digits, shape, isDigit⟩ := exists_toDigits n.natAbs
      unfold readNumeral
      split
      · rw [shape] at same
        cases same
        cases isDigit
      · rfl
    rw [List.nil_append, noSign _ rfl, readNumber_toDigits follows, value]

end Remedy.Json

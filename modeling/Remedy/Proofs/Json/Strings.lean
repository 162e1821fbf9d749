import Mathlib.Data.List.Basic
import Remedy.Json.Printer
import Remedy.Json.Reader

/-!
# Strings in JSON texts

What is written between the quotes of a string is read as the string again. An escape may depend
on what follows it, for a unit is read only if something stands behind it and a surrogate looks for
its partner; in a string the closing quote always follows, and a character on its own is never a
surrogate.
-/

set_option autoImplicit false

namespace Remedy.Json

open Text

/-! ## Units -/

theorem hexValue?_hexDigit {digit : Nat} (small : digit < 16) :
    hexValue? (hexDigit digit) = some digit := by
  have all : ∀ digit < 16, hexValue? (hexDigit digit) = some digit := by
    decide
  exact all digit small

theorem hexDigits_four (unit : Nat) :
    hexDigits 4 unit = [hexDigit (unit / 16 / 16 / 16 % 16), hexDigit (unit / 16 / 16 % 16),
      hexDigit (unit / 16 % 16), hexDigit (unit % 16)] := rfl

theorem readUnit?_hexDigits {unit : Nat} (small : unit < 0x10000) (next : Point)
    (rest : List Point) :
    readUnit? ((hexDigits 4 unit).map .char ++ next :: rest) = some (unit, next :: rest) := by
  have below (n : Nat) : n % 16 < 16 := Nat.mod_lt n (by decide)
  have value : ((unit / 16 / 16 / 16 % 16 * 16 + unit / 16 / 16 % 16) * 16 + unit / 16 % 16) * 16 +
      unit % 16 = unit := by
    omega
  simp only [hexDigits_four, List.map_cons, List.map_nil, List.cons_append, List.nil_append,
    readUnit?, hexValue?_hexDigit (below _), Option.bind_eq_bind, Option.bind_some, value]

theorem isHigh_toNat (c : Char) : isHigh c.toNat = false := by
  have valid : c.toNat < 0xD800 ∨ 0xDFFF < c.toNat ∧ c.toNat < 0x110000 := c.valid
  simp only [isHigh, Bool.and_eq_false_iff, decide_eq_false_iff_not]
  omega

theorem joinUnits_of_not_isHigh {unit : Nat} (single : isHigh unit = false) (rest : List Point) :
    joinUnits unit rest = .ok (.ofCode unit, rest) := by
  unfold joinUnits
  split
  · rw [single, Bool.false_and, if_neg Bool.false_ne_true]
  · rfl

/-! ## Characters -/

section Reading

variable {opening fuel : Nat}

theorem readPoints_escape {text after : List Point} {p : Point}
    (reads : readEscape opening text = .ok (p, after)) :
    readPoints opening (fuel + 1) (.char '\\' :: text) =
      (readPoints opening fuel after).map fun (points, left) => (p :: points, left) := by
  have escapes : ¬ Point.char '\\' = .char '"' := by decide
  rw [readPoints, if_neg escapes, if_pos rfl, reads]

theorem readPoints_plain {c : Char} (printable : ' ' ≤ c) (noQuote : c ≠ '"')
    (noEscape : c ≠ '\\') (rest : List Point) :
    readPoints opening (fuel + 1) (.char c :: rest) =
      (readPoints opening fuel rest).map fun (points, left) => (.char c :: points, left) := by
  have above : ¬ c.toNat < 0x20 := Nat.not_lt_of_le printable
  rw [readPoints, if_neg (mt Point.char.inj noQuote), if_neg (mt Point.char.inj noEscape),
    if_neg (by simpa [Point.satisfies] using above)]

theorem readEscape_unit {c : Char} (basic : c.toNat < 0x10000) (next : Point)
    (rest : List Point) :
    readEscape opening (.char 'u' :: ((hexDigits 4 c.toNat).map .char ++ next :: rest)) =
      .ok (.char c, next :: rest) := by
  rw [readEscape, if_pos rfl, readUnit?_hexDigits basic]
  simp only [joinUnits_of_not_isHigh (isHigh_toNat c), Point.ofCode_toNat]

/-- A character beyond the first plane is read from the escapes of its two surrogates. -/
theorem readEscape_pair {c : Char} (beyond : ¬ c.toNat < 0x10000) (next : Point)
    (rest : List Point) :
    readEscape opening (.char 'u' ::
      ((hexDigits 4 (0xD800 + (c.toNat - 0x10000) / 0x400)).map .char ++
        ((escapeUnit (0xDC00 + (c.toNat - 0x10000) % 0x400)).map .char ++ next :: rest))) =
          .ok (.char c, next :: rest) := by
  have valid : c.toNat < 0xD800 ∨ 0xDFFF < c.toNat ∧ c.toNat < 0x110000 := c.valid
  have remainder : (c.toNat - 0x10000) % 0x400 < 0x400 := Nat.mod_lt _ (by decide)
  generalize high : 0xD800 + (c.toNat - 0x10000) / 0x400 = first
  generalize low : 0xDC00 + (c.toNat - 0x10000) % 0x400 = second
  have isFirst : isHigh first = true := by
    simp only [isHigh, Bool.and_eq_true, decide_eq_true_eq]
    omega
  have isSecond : isLow second = true := by
    simp only [isLow, Bool.and_eq_true, decide_eq_true_eq]
    omega
  have long : 4 < ((hexDigits 4 second).map Point.char ++ next :: rest).length := by
    rw [hexDigits_four]
    simp
  have joined : Point.ofCode (pairCode first second) = .char c := by
    have code : pairCode first second = c.toNat := by
      unfold pairCode
      omega
    rw [code, Point.ofCode_toNat]
  rw [readEscape, if_pos rfl, escapeUnit, List.map_cons, List.map_cons, List.cons_append,
    List.cons_append, readUnit?_hexDigits (by omega)]
  simp only [joinUnits, isFirst, long, decide_true, Bool.and_self, if_true,
    readUnit?_hexDigits (show second < 0x10000 by omega), isSecond, joined]

theorem readPoints_escapeChar (c : Char) (next : Point) (rest : List Point) :
    readPoints opening (fuel + 1) ((escapeChar c).map .char ++ next :: rest) =
      (readPoints opening fuel (next :: rest)).map
        fun (points, left) => (.char c :: points, left) := by
  rw [escapeChar]
  split_ifs with quote backslash feed return' tab backspace formFeed plain basic
  · exact readPoints_escape (by rw [quote]; rfl)
  · exact readPoints_escape (by rw [backslash]; rfl)
  · exact readPoints_escape (by rw [feed]; rfl)
  · exact readPoints_escape (by rw [return']; rfl)
  · exact readPoints_escape (by rw [tab]; rfl)
  · exact readPoints_escape (by rw [backspace]; rfl)
  · exact readPoints_escape (by rw [formFeed]; rfl)
  · rw [Bool.and_eq_true, decide_eq_true_eq] at plain
    exact readPoints_plain plain.1 quote backslash _
  · exact readPoints_escape (readEscape_unit basic next rest)
  · rw [List.map_append, List.append_assoc]
    exact readPoints_escape (readEscape_pair basic next rest)

theorem readPoints_flatMap_escapeChar (chars : List Char) (rest : List Point)
    (enough : chars.length < fuel) :
    readPoints opening fuel ((chars.flatMap escapeChar).map .char ++ .char '"' :: rest) =
      .ok (chars.map .char, rest) := by
  induction chars generalizing fuel with
  | nil =>
    obtain ⟨fuel, rfl⟩ := Nat.exists_eq_add_of_lt enough
    rfl
  | cons c chars ih =>
    obtain ⟨fuel, rfl⟩ := Nat.exists_eq_succ_of_ne_zero (Nat.ne_of_gt (Nat.lt_of_le_of_lt
      (Nat.zero_le _) enough))
    obtain ⟨next, behind, shape⟩ := List.exists_cons_of_ne_nil
      (List.append_ne_nil_of_right_ne_nil ((chars.flatMap escapeChar).map Point.char)
        (List.cons_ne_nil (Point.char '"') rest))
    rw [List.flatMap_cons, List.map_append, List.append_assoc, shape, readPoints_escapeChar,
      ← shape, ih (Nat.lt_of_succ_lt_succ enough)]
    rfl

end Reading

theorem escapeChar_ne_nil (c : Char) : escapeChar c ≠ [] := by
  rw [escapeChar]
  split_ifs <;> exact List.cons_ne_nil _ _

theorem length_le_flatMap_escapeChar (chars : List Char) :
    chars.length ≤ (chars.flatMap escapeChar).length := by
  induction chars with
  | nil => exact Nat.le_refl 0
  | cons c chars ih =>
    have some := List.length_pos_of_ne_nil (escapeChar_ne_nil c)
    rw [List.flatMap_cons, List.length_append, List.length_cons]
    omega

theorem readString_quote (text : String) (rest : List Point) :
    readString ((text.toList.flatMap escapeChar).map .char ++ .char '"' :: rest) =
      .ok (points text, rest) := by
  have enough : text.toList.length <
      ((text.toList.flatMap escapeChar).map Point.char ++ .char '"' :: rest).length + 1 := by
    have bound := length_le_flatMap_escapeChar text.toList
    rw [List.length_append, List.length_map]
    omega
  rw [readString, readPoints_flatMap_escapeChar _ _ enough]
  rfl

end Remedy.Json

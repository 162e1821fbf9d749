import Remedy.Proofs.Json.Numbers

/-!
# JSON texts are ASCII

Whatever a document holds, its text has no character beyond ASCII: such characters are escaped in
strings, and nothing else in a document has any.
-/

set_option autoImplicit false

namespace Remedy.Json

open Number Text

def Ascii (text : List Char) : Prop :=
  ∀ c ∈ text, c.toNat < 128

instance (text : List Char) : Decidable (Ascii text) :=
  List.decidableBAll _ text

@[simp] theorem ascii_nil : Ascii [] :=
  List.forall_mem_nil _

@[simp] theorem ascii_cons {c : Char} {text : List Char} :
    Ascii (c :: text) ↔ c.toNat < 128 ∧ Ascii text :=
  List.forall_mem_cons

@[simp] theorem ascii_append {text other : List Char} :
    Ascii (text ++ other) ↔ Ascii text ∧ Ascii other :=
  List.forall_mem_append

theorem ascii_replicate (n : Nat) {c : Char} (isAscii : c.toNat < 128) :
    Ascii (List.replicate n c) := by
  intro d member
  rw [List.eq_of_mem_replicate member]
  exact isAscii

theorem Ascii.take {text : List Char} (ascii : Ascii text) (n : Nat) : Ascii (text.take n) :=
  fun c member => ascii c (List.mem_of_mem_take member)

theorem Ascii.drop {text : List Char} (ascii : Ascii text) (n : Nat) : Ascii (text.drop n) :=
  fun c member => ascii c (List.mem_of_mem_drop member)

/-! ## Strings -/

theorem toNat_hexDigit {digit : Nat} (small : digit < 16) : (hexDigit digit).toNat < 128 := by
  have all : ∀ digit < 16, (hexDigit digit).toNat < 128 := by
    decide
  exact all digit small

theorem ascii_escapeUnit (unit : Nat) : Ascii (escapeUnit unit) := by
  have below (n : Nat) : n % 16 < 16 := Nat.mod_lt n (by decide)
  simp [escapeUnit, hexDigits_four, toNat_hexDigit (below _)]

theorem ascii_escapeChar (c : Char) : Ascii (escapeChar c) := by
  rw [escapeChar]
  split_ifs with quote backslash feed return' tab backspace formFeed plain basic
  · decide
  · decide
  · decide
  · decide
  · decide
  · decide
  · decide
  · rw [Bool.and_eq_true, decide_eq_true_eq, decide_eq_true_eq] at plain
    have last : c.toNat ≤ 126 := plain.2
    exact ascii_cons.mpr ⟨by omega, ascii_nil⟩
  · exact ascii_escapeUnit _
  · exact ascii_append.mpr ⟨ascii_escapeUnit _, ascii_escapeUnit _⟩

@[simp] theorem ascii_quote (text : String) : Ascii (quote text) := by
  have inside : Ascii (text.toList.flatMap escapeChar) := by
    intro d member
    obtain ⟨c, -, among⟩ := List.mem_flatMap.mp member
    exact ascii_escapeChar c d among
  simp [quote, inside]

/-! ## Numbers -/

theorem ascii_toDigits (n : Nat) : Ascii (Nat.toDigits 10 n) := by
  intro c member
  have digit := Nat.isDigit_of_mem_toDigits (by decide) (by decide) member
  rw [Char.isDigit, Bool.and_eq_true, decide_eq_true_eq, decide_eq_true_eq] at digit
  have last : c.toNat ≤ 57 := digit.2
  omega

theorem ascii_toString (n : Int) : Ascii (toString n).toList := by
  have sign : Ascii (if n < 0 then ['-'] else []) := by
    split <;> decide
  rw [toList_toString]
  exact ascii_append.mpr ⟨sign, ascii_toDigits _⟩

theorem ascii_digitText (digits : List Nat) : Ascii (digitText digits) := by
  refine List.forall_mem_map.mpr fun digit _ => ?_
  unfold digitChar
  split <;> decide

theorem ascii_exponentText (layout : DecimalLayout) (e : Int) : Ascii (exponentText layout e) := by
  have sign : (if e < 0 then '-' else '+').toNat < 128 := by
    split <;> decide
  simp [exponentText, padZeros, sign, ascii_replicate, ascii_digitText]

theorem ascii_digitsText (layout : DecimalLayout) (d : Digits) : Ascii (d.text layout) := by
  have digits := ascii_digitText d.digits
  rw [Digits.text]
  split_ifs with plain below
  · simp [ascii_replicate, digits]
  · have fraction : Ascii (if ((digitText d.digits).drop d.point.toNat).isEmpty then ['0']
        else (digitText d.digits).drop d.point.toNat) := by
      split
      · decide
      · exact digits.drop _
    simp only [ascii_append, ascii_cons]
    exact ⟨⟨digits.take _, ascii_replicate _ (by decide)⟩, by decide, fraction⟩
  · generalize digitText d.digits = chars at digits
    simp only [ascii_append, ascii_cons]
    refine ⟨?_, by decide, ascii_exponentText _ _⟩
    split
    · exact ascii_nil
    · exact digits
    · obtain ⟨first, rest⟩ := ascii_cons.mp digits
      exact ascii_cons.mpr ⟨first, ascii_cons.mpr ⟨by decide, rest⟩⟩

theorem ascii_floatText (x : Binary64) : Ascii (floatText x) := by
  cases x with
  | nan => decide
  | infinite negative => cases negative <;> decide
  | finite negative significand exponent =>
    have unsigned : Ascii (if significand = 0 then ['0', '.', '0']
        else (shortestDigits significand exponent).text plainLayout) := by
      split
      · decide
      · exact ascii_digitsText _ _
    have written : floatText (.finite negative significand exponent) =
        (Binary64.finite negative significand exponent).text.toList := rfl
    rw [written, Binary64.text, String.toList_ofList]
    split
    · exact ascii_cons.mpr ⟨by decide, unsigned⟩
    · exact unsigned

/-! ## Documents -/

@[simp] theorem ascii_openBreak (layout : Layout) (depth : Nat) :
    Ascii (openBreak layout depth) := by
  cases layout with
  | oneLine => exact ascii_nil
  | indented width => simp [openBreak, ascii_replicate]

@[simp] theorem ascii_itemBreak (layout : Layout) (depth : Nat) :
    Ascii (itemBreak layout depth) := by
  cases layout with
  | oneLine => simp [itemBreak]
  | indented width => simp [itemBreak, ascii_replicate]

mutual

theorem ascii_print (layout : Layout) (depth : Nat) : (j : Json) → Ascii (print layout depth j)
  | null => show Ascii "null".toList from by decide
  | bool true => show Ascii "true".toList from by decide
  | bool false => show Ascii "false".toList from by decide
  | int n => ascii_toString n
  | float x => ascii_floatText x
  | str s => ascii_quote s
  | arr [] => show Ascii ['[', ']'] from by decide
  | arr (j :: rest) => by
    simp [print, closeBreak, ascii_print layout (depth + 1) j,
      ascii_printItems layout (depth + 1) rest]
  | obj [] => show Ascii ['\x7b', '\x7d'] from by decide
  | obj ((name, j) :: rest) => by
    simp [print, closeBreak, ascii_print layout (depth + 1) j,
      ascii_printMembers layout (depth + 1) rest]

theorem ascii_printItems (layout : Layout) (depth : Nat) :
    (items : List Json) → Ascii (printItems layout depth items)
  | [] => ascii_nil
  | j :: rest => by
    simp [printItems, ascii_print layout depth j, ascii_printItems layout depth rest]

theorem ascii_printMembers (layout : Layout) (depth : Nat) :
    (members : List (String × Json)) → Ascii (printMembers layout depth members)
  | [] => ascii_nil
  | (name, j) :: rest => by
    simp [printMembers, ascii_print layout depth j, ascii_printMembers layout depth rest]

end

theorem ascii_render (layout : Layout) (j : Json) : Ascii (j.render layout).toList := by
  rw [render, String.toList_ofList]
  exact ascii_print layout 0 j

end Remedy.Json

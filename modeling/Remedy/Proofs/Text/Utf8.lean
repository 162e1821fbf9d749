import Mathlib.Data.List.TakeWhile
import Mathlib.Tactic.SplitIfs
import Remedy.Text.Charset

/-!
# Reading what was written in UTF-8

The bytes of a text read as the text again, so different texts have different bytes. The character
set called `utf-8` writes every text in this way; any character set writes the texts of which it
writes each character.
-/

set_option autoImplicit false

namespace Remedy.Text.Utf8

theorem toNat_toUInt8 {n : Nat} (small : n < 0x100) : n.toUInt8.toNat = n := by
  simp only [Nat.toUInt8, UInt8.toNat_ofNat']
  omega

theorem isTail_toUInt8 {n : Nat} (small : n < 0x40) : isTail (0x80 + n).toUInt8 = true := by
  have value : (0x80 + n).toUInt8.toNat = 0x80 + n := toNat_toUInt8 (by omega)
  simp only [isTail, Bool.and_eq_true, decide_eq_true_eq, UInt8.le_iff_toNat_le, value]
  constructor
  · exact Nat.le_add_right _ _
  · show 0x80 + n ≤ 0xBF
    omega

theorem tailBits_toUInt8 {n : Nat} (small : n < 0x40) : tailBits (0x80 + n).toUInt8 = n := by
  rw [tailBits, toNat_toUInt8 (by omega)]
  omega

theorem lt_toUInt8_iff {n : Nat} (small : n < 0x100) (b : UInt8) :
    n.toUInt8 < b ↔ n < b.toNat := by
  rw [UInt8.lt_iff_toNat_lt, toNat_toUInt8 small]

theorem not_lt_toUInt8 {m n : Nat} (small : n < 0x100) (least : m ≤ n) (b : UInt8)
    (within : b.toNat ≤ m) : ¬ n.toUInt8 < b := by
  rw [lt_toUInt8_iff small]
  omega

theorem le_toUInt8_iff {n : Nat} (small : n < 0x100) (b : UInt8) :
    b ≤ n.toUInt8 ↔ b.toNat ≤ n := by
  rw [UInt8.le_iff_toNat_le, toNat_toUInt8 small]

theorem toUInt8_beq_iff {n : Nat} (small : n < 0x100) (b : UInt8) :
    (n.toUInt8 == b) = decide (n = b.toNat) := by
  rw [Bool.eq_iff_iff, beq_iff_eq, decide_eq_true_eq, ← UInt8.toNat_inj, toNat_toUInt8 small]

/-! ## One character -/

theorem item_one (surrogates : Bool) {n : Nat} (high : n < 0x80) (rest : List UInt8) :
    item surrogates n.toUInt8 rest = .point (.ofCode n) 0 := by
  have small : n < 0x100 := by omega
  have one : n.toUInt8 < 0x80 := (lt_toUInt8_iff small 0x80).mpr high
  rw [item, if_pos one, toNat_toUInt8 small]

theorem item_two (surrogates : Bool) {n : Nat} (low : 0x80 ≤ n) (high : n < 0x800)
    (rest : List UInt8) :
    item surrogates (0xC0 + n / 0x40).toUInt8 ((0x80 + n % 0x40).toUInt8 :: rest) =
      .point (.ofCode n) 1 := by
  have small : 0xC0 + n / 0x40 < 0x100 := by omega
  have tail : n % 0x40 < 0x40 := Nat.mod_lt _ (by decide)
  have notLess := not_lt_toUInt8 small (m := 0xC2) (by omega)
  have two : (0xC0 + n / 0x40).toUInt8 < 0xE0 := by
    rw [lt_toUInt8_iff small]
    show 0xC0 + n / 0x40 < 0xE0
    omega
  have code : (0xC0 + n / 0x40) % 0x20 * 0x40 + n % 0x40 = n := by omega
  rw [item, if_neg (notLess 0x80 (by decide)), if_neg (notLess 0xC2 (by decide)), if_pos two,
    item2, if_pos (isTail_toUInt8 tail), toNat_toUInt8 small, tailBits_toUInt8 tail, code]

theorem secondOf3_toUInt8 (surrogates : Bool) {n : Nat} (low : 0x800 ≤ n)
    (valid : n < 0xD800 ∨ 0xDFFF < n ∧ n < 0x10000) :
    secondOf3 surrogates (0xE0 + n / 0x1000).toUInt8 (0x80 + n / 0x40 % 0x40).toUInt8 = true := by
  have small : 0xE0 + n / 0x1000 < 0x100 := by omega
  have tail : n / 0x40 % 0x40 < 0x40 := Nat.mod_lt _ (by decide)
  have notLong : ¬ (0xE0 + n / 0x1000 = 0xE0 ∧ 0x80 + n / 0x40 % 0x40 < 0xA0) := by omega
  have notSurrogate : ¬ (0xE0 + n / 0x1000 = 0xED ∧ 0xA0 ≤ 0x80 + n / 0x40 % 0x40) := by omega
  have second : 0x80 + n / 0x40 % 0x40 < 0x100 := by omega
  simp only [secondOf3, isTail_toUInt8 tail, toUInt8_beq_iff small, lt_toUInt8_iff second,
    le_toUInt8_iff second, Bool.true_and, Bool.and_eq_true, Bool.or_eq_true, Bool.not_eq_true',
    Bool.and_eq_false_iff, decide_eq_false_iff_not]
  refine ⟨?_, Or.inr ?_⟩
  · exact not_and_or.mp notLong
  · exact not_and_or.mp notSurrogate

theorem item_three (surrogates : Bool) {n : Nat} (low : 0x800 ≤ n)
    (valid : n < 0xD800 ∨ 0xDFFF < n ∧ n < 0x10000) (rest : List UInt8) :
    item surrogates (0xE0 + n / 0x1000).toUInt8
        ((0x80 + n / 0x40 % 0x40).toUInt8 :: (0x80 + n % 0x40).toUInt8 :: rest) =
      .point (.ofCode n) 2 := by
  have small : 0xE0 + n / 0x1000 < 0x100 := by omega
  have second : n / 0x40 % 0x40 < 0x40 := Nat.mod_lt _ (by decide)
  have third : n % 0x40 < 0x40 := Nat.mod_lt _ (by decide)
  have notLess := not_lt_toUInt8 small (m := 0xE0) (Nat.le_add_right _ _)
  have three : (0xE0 + n / 0x1000).toUInt8 < 0xF0 := by
    rw [lt_toUInt8_iff small]
    show 0xE0 + n / 0x1000 < 0xF0
    omega
  have code : (0xE0 + n / 0x1000) % 0x10 * 0x1000 + n / 0x40 % 0x40 * 0x40 + n % 0x40 = n := by
    omega
  rw [item, if_neg (notLess 0x80 (by decide)), if_neg (notLess 0xC2 (by decide)),
    if_neg (notLess 0xE0 (by decide)), if_pos three, item3,
    if_pos (secondOf3_toUInt8 surrogates low valid), if_pos (isTail_toUInt8 third)]
  simp only [toNat_toUInt8 small, tailBits_toUInt8 second, tailBits_toUInt8 third, code]

theorem secondOf4_toUInt8 {n : Nat} (low : 0x10000 ≤ n) (high : n < 0x110000) :
    secondOf4 (0xF0 + n / 0x40000).toUInt8 (0x80 + n / 0x1000 % 0x40).toUInt8 = true := by
  have small : 0xF0 + n / 0x40000 < 0x100 := by omega
  have tail : n / 0x1000 % 0x40 < 0x40 := Nat.mod_lt _ (by decide)
  have second : 0x80 + n / 0x1000 % 0x40 < 0x100 := by omega
  have notLong : ¬ (0xF0 + n / 0x40000 = 0xF0 ∧ 0x80 + n / 0x1000 % 0x40 < 0x90) := by omega
  have notBeyond : ¬ (0xF0 + n / 0x40000 = 0xF4 ∧ 0x90 ≤ 0x80 + n / 0x1000 % 0x40) := by omega
  simp only [secondOf4, isTail_toUInt8 tail, toUInt8_beq_iff small, lt_toUInt8_iff second,
    le_toUInt8_iff second, Bool.true_and, Bool.and_eq_true, Bool.not_eq_true',
    Bool.and_eq_false_iff, decide_eq_false_iff_not]
  exact ⟨not_and_or.mp notLong, not_and_or.mp notBeyond⟩

theorem item_four (surrogates : Bool) {n : Nat} (low : 0x10000 ≤ n) (high : n < 0x110000)
    (rest : List UInt8) :
    item surrogates (0xF0 + n / 0x40000).toUInt8
        ((0x80 + n / 0x1000 % 0x40).toUInt8 :: (0x80 + n / 0x40 % 0x40).toUInt8 ::
          (0x80 + n % 0x40).toUInt8 :: rest) =
      .point (.ofCode n) 3 := by
  have small : 0xF0 + n / 0x40000 < 0x100 := by omega
  have second : n / 0x1000 % 0x40 < 0x40 := Nat.mod_lt _ (by decide)
  have third : n / 0x40 % 0x40 < 0x40 := Nat.mod_lt _ (by decide)
  have fourth : n % 0x40 < 0x40 := Nat.mod_lt _ (by decide)
  have notLess := not_lt_toUInt8 small (m := 0xF0) (Nat.le_add_right _ _)
  have four : (0xF0 + n / 0x40000).toUInt8 < 0xF5 := by
    rw [lt_toUInt8_iff small]
    show 0xF0 + n / 0x40000 < 0xF5
    omega
  have code : (0xF0 + n / 0x40000) % 0x08 * 0x40000 + n / 0x1000 % 0x40 * 0x1000 +
      n / 0x40 % 0x40 * 0x40 + n % 0x40 = n := by omega
  rw [item, if_neg (notLess 0x80 (by decide)), if_neg (notLess 0xC2 (by decide)),
    if_neg (notLess 0xE0 (by decide)), if_neg (notLess 0xF0 (by decide)), if_pos four, item4]
  simp only [secondOf4_toUInt8 low high, isTail_toUInt8 third, isTail_toUInt8 fourth,
    toNat_toUInt8 small, tailBits_toUInt8 second, tailBits_toUInt8 third,
    tailBits_toUInt8 fourth, code, Bool.not_true, Bool.false_eq_true, if_false]

/-- What the bytes of a character begin with is this character, and it takes all of them. -/
theorem item_encodeChar (surrogates : Bool) (c : Char) (rest : List UInt8) :
    ∃ first more, encodeChar c = first :: more ∧
      item surrogates first (more ++ rest) = .point (.char c) more.length := by
  have back : Point.ofCode c.toNat = .char c := Point.ofCode_toNat c
  have valid : c.toNat < 0xD800 ∨ 0xDFFF < c.toNat ∧ c.toNat < 0x110000 := c.valid
  simp only [encodeChar]
  split_ifs with one two three
  · refine ⟨_, _, rfl, ?_⟩
    rw [item_one surrogates one, back]
    rfl
  · refine ⟨_, _, rfl, ?_⟩
    rw [List.singleton_append, item_two surrogates (by omega) two, back]
    rfl
  · refine ⟨_, _, rfl, ?_⟩
    rw [List.cons_append, List.singleton_append,
      item_three surrogates (by omega) (valid.imp id fun h => ⟨h.1, three⟩), back]
    rfl
  · refine ⟨_, _, rfl, ?_⟩
    rw [List.cons_append, List.cons_append, List.singleton_append,
      item_four surrogates (by omega) (by omega), back]
    rfl

/-! ## Texts -/

theorem decodeFrom_skip (surrogates : Bool) (more rest : List UInt8) (position : Nat) :
    decodeFrom surrogates more.length position (more ++ rest) =
      decodeFrom surrogates 0 (position + more.length) rest := by
  induction more generalizing position with
  | nil => rfl
  | cons b more ih =>
    rw [List.cons_append, List.length_cons, decodeFrom, ih]
    congr 1
    omega

theorem decodeFrom_encodeChar (surrogates : Bool) (c : Char) (rest : List UInt8)
    (position : Nat) :
    decodeFrom surrogates 0 position (encodeChar c ++ rest) =
      (decodeFrom surrogates 0 (position + (encodeChar c).length) rest).map (.char c :: ·) := by
  obtain ⟨first, more, bytes, found⟩ := item_encodeChar surrogates c rest
  rw [bytes, List.cons_append, decodeFrom, found]
  simp only [decodeFrom_skip, List.length_cons]
  congr 2
  omega

theorem decodeFrom_encodeChars (surrogates : Bool) (text : List Char) (position : Nat) :
    decodeFrom surrogates 0 position (encodeChars text) = .ok (text.map .char) := by
  induction text generalizing position with
  | nil => rfl
  | cons c text ih =>
    rw [encodeChars, List.flatMap_cons, decodeFrom_encodeChar, ← encodeChars, ih]
    rfl

/-- The bytes of a text read as this text. -/
@[simp] theorem decode_encode (text : String) : decode (encode text) = .ok text := by
  rw [decode, encode, decodeFrom_encodeChars]
  exact congrArg Except.ok (legible_points text)

end Remedy.Text.Utf8

namespace Remedy.Text.Charset

theorem ofName?_utf8 : ofName? "utf-8" = some (.utf8 false) := by
  decide

@[simp] theorem codec_stream (charset : Charset) : charset.codec.stream = charset.encode := rfl

@[simp] theorem codec_encode (charset : Charset) : charset.codec.encode = charset.encode := rfl

variable {charset : Charset} {text : String}

theorem encode_of_writes (all : ∀ c ∈ text.toList, charset.writes c = true) :
    charset.encode text = .ok (charset.mark ++ text.toList.flatMap charset.encodeChar) := by
  simp only [encode, List.dropWhile_eq_nil_iff.mpr all]

theorem encode_of_not_writes {c : Char} (member : c ∈ text.toList)
    (beyond : charset.writes c = false) : ∃ fault, charset.encode text = .error fault := by
  simp only [encode]
  split
  · next nothing =>
    rw [List.dropWhile_eq_nil_iff.mp nothing c member] at beyond
    cases beyond
  · exact ⟨_, rfl⟩

theorem encode_ok_iff :
    (∃ bytes, charset.encode text = .ok bytes) ↔ ∀ c ∈ text.toList, charset.writes c = true := by
  refine ⟨fun ⟨bytes, encoded⟩ c member => ?_, fun all => ⟨_, encode_of_writes all⟩⟩
  by_contra beyond
  obtain ⟨fault, failed⟩ := encode_of_not_writes member (eq_false_of_ne_true beyond)
  rw [failed] at encoded
  cases encoded

theorem encode_utf8 (text : String) : (utf8 false).encode text = .ok (Utf8.encode text) :=
  encode_of_writes fun _ _ => rfl

end Remedy.Text.Charset

namespace Remedy.Text.Encoding

theorem codec?_ofName_utf8 : (ofName "utf-8").codec? = some (Charset.utf8 false).codec := by
  rw [ofName, Charset.ofName?_utf8]
  rfl

end Remedy.Text.Encoding

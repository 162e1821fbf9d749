/-!
Texts of code points. Besides characters a text may hold surrogates, which are halves of characters
and nothing by themselves. No encoding of Unicode has them, but escapes and lenient readers let
them through.
-/

namespace Remedy.Text

inductive Point where
  | char (c : Char)
  | surrogate (offset : Fin 0x800)
  deriving Repr, DecidableEq

namespace Point

def ofCode (code : Nat) : Point :=
  if code.isValidChar then char (Char.ofNat code)
  else surrogate (Fin.ofNat 0x800 (code - 0xD800))

def char? : Point → Option Char
  | char c => some c
  | surrogate _ => none

def satisfies (kind : Char → Bool) : Point → Bool
  | char c => kind c
  | surrogate _ => false

def shown : Point → Char
  | char c => c
  | surrogate _ => '\uFFFD'

theorem ofCode_toNat (c : Char) : ofCode c.toNat = char c := by
  rw [ofCode, if_pos (show c.toNat.isValidChar from c.valid), Char.ofNat_toNat]

end Point

def isHigh (unit : Nat) : Bool :=
  0xD800 ≤ unit && unit ≤ 0xDBFF

def isLow (unit : Nat) : Bool :=
  0xDC00 ≤ unit && unit ≤ 0xDFFF

def pairCode (high low : Nat) : Nat :=
  0x10000 + (high - 0xD800) * 0x400 + (low - 0xDC00)

def points (text : String) : List Point :=
  text.toList.map .char

def legible (points : List Point) : String :=
  String.ofList (points.map Point.shown)

@[simp] theorem map_shown_map_char (chars : List Char) :
    (chars.map Point.char).map Point.shown = chars := by
  simp [Point.shown, Function.comp_def]

theorem filterMap_char?_map_char (chars : List Char) :
    (chars.map Point.char).filterMap Point.char? = chars := by
  simp [List.filterMap_map, Point.char?, Function.comp_def]

@[simp] theorem legible_points (text : String) : legible (points text) = text := by
  rw [legible, points, map_shown_map_char, String.ofList_toList]

end Remedy.Text

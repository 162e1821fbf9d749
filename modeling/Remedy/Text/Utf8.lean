import Remedy.Text.Point

/-!
UTF-8. Writing a text gives one to four bytes a character; reading takes the shortest faulty
sequence as the fault, so that a reader may either report it with its place or put a replacement
character for it and go on.
-/

namespace Remedy.Text.Utf8

def encodeChar (c : Char) : List UInt8 :=
  let n := c.toNat
  if n < 0x80 then [n.toUInt8]
  else if n < 0x800 then [(0xC0 + n / 0x40).toUInt8, (0x80 + n % 0x40).toUInt8]
  else if n < 0x10000 then
    [(0xE0 + n / 0x1000).toUInt8, (0x80 + n / 0x40 % 0x40).toUInt8, (0x80 + n % 0x40).toUInt8]
  else
    [(0xF0 + n / 0x40000).toUInt8, (0x80 + n / 0x1000 % 0x40).toUInt8,
      (0x80 + n / 0x40 % 0x40).toUInt8, (0x80 + n % 0x40).toUInt8]

def encodeChars (text : List Char) : List UInt8 :=
  text.flatMap encodeChar

def encode (text : String) : List UInt8 :=
  encodeChars text.toList

inductive Flaw where
  | startByte
  | continuationByte
  | endOfData
  deriving Repr, DecidableEq

namespace Flaw

def message : Flaw → String
  | startByte => "invalid start byte"
  | continuationByte => "invalid continuation byte"
  | endOfData => "unexpected end of data"

end Flaw

/-- What stands at the head of a byte sequence: a code point, or a flaw, with the number of bytes
after the first that belong to it. -/
inductive Item where
  | point (p : Point) (extra : Nat)
  | flaw (reason : Flaw) (extra : Nat)
  deriving Repr, DecidableEq

def isTail (b : UInt8) : Bool :=
  0x80 ≤ b && b ≤ 0xBF

def tailBits (b : UInt8) : Nat :=
  b.toNat % 0x40

def item2 (first : UInt8) : List UInt8 → Item
  | [] => .flaw .endOfData 0
  | b :: _ =>
    if isTail b then .point (.ofCode (first.toNat % 0x20 * 0x40 + tailBits b)) 1
    else .flaw .continuationByte 0

/-- Whether the second byte of three is possible: it excludes longer forms of shorter sequences
and, unless they are let through, surrogates. -/
def secondOf3 (surrogates : Bool) (first b : UInt8) : Bool :=
  isTail b && !(first == 0xE0 && b < 0xA0) && (surrogates || !(first == 0xED && 0xA0 ≤ b))

def item3 (surrogates : Bool) (first : UInt8) : List UInt8 → Item
  | [] => .flaw .endOfData 0
  | [b] => if secondOf3 false first b then .flaw .endOfData 1 else .flaw .continuationByte 0
  | b :: c :: _ =>
    if secondOf3 surrogates first b then
      if isTail c then
        .point (.ofCode (first.toNat % 0x10 * 0x1000 + tailBits b * 0x40 + tailBits c)) 2
      else if secondOf3 false first b then .flaw .continuationByte 1
      else .flaw .continuationByte 0
    else .flaw .continuationByte 0

/-- Whether the second byte of four is possible: it excludes longer forms of shorter sequences
and code points beyond the last. -/
def secondOf4 (first b : UInt8) : Bool :=
  isTail b && !(first == 0xF0 && b < 0x90) && !(first == 0xF4 && 0x90 ≤ b)

def item4 (first : UInt8) : List UInt8 → Item
  | [] => .flaw .endOfData 0
  | b :: rest =>
    if !secondOf4 first b then .flaw .continuationByte 0
    else
      match rest with
      | [] => .flaw .endOfData 1
      | c :: rest =>
        if !isTail c then .flaw .continuationByte 1
        else
          match rest with
          | [] => .flaw .endOfData 2
          | d :: _ =>
            if !isTail d then .flaw .continuationByte 2
            else
              .point (.ofCode (first.toNat % 0x08 * 0x40000 + tailBits b * 0x1000 +
                tailBits c * 0x40 + tailBits d)) 3

def item (surrogates : Bool) (first : UInt8) (rest : List UInt8) : Item :=
  if first < 0x80 then .point (.ofCode first.toNat) 0
  else if first < 0xC2 then .flaw .startByte 0
  else if first < 0xE0 then item2 first rest
  else if first < 0xF0 then item3 surrogates first rest
  else if first < 0xF5 then item4 first rest
  else .flaw .startByte 0

/-- A faulty sequence: what is wrong, where it starts, its first byte and its length. -/
structure Fault where
  reason : Flaw
  position : Nat
  first : UInt8
  size : Nat
  deriving Repr, DecidableEq

/-- Reads bytes of which `skip` belong to the character read before; `position` counts the bytes
already passed. -/
def decodeFrom (surrogates : Bool) (skip position : Nat) : List UInt8 → Except Fault (List Point)
  | [] => .ok []
  | b :: rest =>
    match skip with
    | skip + 1 => decodeFrom surrogates skip (position + 1) rest
    | 0 =>
      match item surrogates b rest with
      | .flaw reason extra => .error ⟨reason, position, b, extra + 1⟩
      | .point p extra => (decodeFrom surrogates extra (position + 1) rest).map (p :: ·)

def decode (bytes : List UInt8) : Except Fault String :=
  (decodeFrom false 0 0 bytes).map legible

def repairFrom (skip : Nat) : List UInt8 → List Char
  | [] => []
  | b :: rest =>
    match skip with
    | skip + 1 => repairFrom skip rest
    | 0 =>
      match item false b rest with
      | .flaw _ extra => '\uFFFD' :: repairFrom extra rest
      | .point p extra => p.shown :: repairFrom extra rest

/-- The text that bytes encode, with a replacement character for every faulty sequence. -/
def repair (bytes : List UInt8) : String :=
  String.ofList (repairFrom 0 bytes)

end Remedy.Text.Utf8

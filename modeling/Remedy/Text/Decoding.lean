import Remedy.Text.ByteOrder
import Remedy.Text.Quoted
import Remedy.Text.Utf8

/-!
Texts of bytes in UTF-8, UTF-16 and UTF-32. Which of them bytes are in is told by a byte order mark
or by the zero bytes among the first ones. A surrogate that has no partner stands for itself.
-/

namespace Remedy.Text

def byteText (b : UInt8) : String :=
  String.ofList (hexDigits 2 b.toNat)

/-- Bytes that an encoding does not allow: what is wrong, where they stand, the first of them and
how many there are. -/
structure DecodeFault where
  encoding : String
  reason : String
  position : Nat
  first : UInt8
  size : Nat
  deriving Repr, DecidableEq

def DecodeFault.message (fault : DecodeFault) : String :=
  "'" ++ fault.encoding ++ "' codec can't decode " ++
    (if fault.size = 1 then
      "byte 0x" ++ byteText fault.first ++ " in position " ++ toString fault.position
    else
      "bytes in position " ++ toString fault.position ++ "-" ++
        toString (fault.position + fault.size - 1)) ++
    ": " ++ fault.reason

def Utf8.Fault.general (fault : Utf8.Fault) : DecodeFault :=
  ⟨"utf-8", fault.reason.message, fault.position, fault.first, fault.size⟩

def Utf8.Fault.message (fault : Utf8.Fault) : String :=
  fault.general.message

namespace Utf16

/-- The units of bytes after `position` others; a byte that is left over is a fault. -/
def units (order : ByteOrder) (position : Nat) : List UInt8 → Except DecodeFault (List Nat)
  | [] => .ok []
  | [b] => .error ⟨"utf-16-" ++ order.mark, "truncated data", position, b, 1⟩
  | a :: b :: rest => (units order (position + 2) rest).map (order.value [a, b] :: ·)

def joined : List Nat → List Point
  | [] => []
  | [unit] => [.ofCode unit]
  | high :: low :: rest =>
    if isHigh high && isLow low then
      .ofCode (pairCode high low) :: joined rest
    else .ofCode high :: joined (low :: rest)

def decode (order : ByteOrder) (position : Nat) (bytes : List UInt8) :
    Except DecodeFault (List Point) :=
  (units order position bytes).map joined

end Utf16

namespace Utf32

def decode (order : ByteOrder) (position : Nat) : List UInt8 → Except DecodeFault (List Point)
  | [] => .ok []
  | a :: b :: c :: d :: rest =>
    let code := order.value [a, b, c, d]
    if 0x110000 ≤ code then
      .error ⟨"utf-32-" ++ order.mark, "code point not in range(0x110000)", position, a, 4⟩
    else (decode order (position + 4) rest).map (.ofCode code :: ·)
  | a :: rest =>
    .error ⟨"utf-32-" ++ order.mark, "truncated data", position, a, rest.length + 1⟩

end Utf32

def decodeUtf8 (bytes : List UInt8) : Except DecodeFault (List Point) :=
  (Utf8.decodeFrom true 0 0 bytes).mapError Utf8.Fault.general

def decodeUnmarked (bytes : List UInt8) : Except DecodeFault (List Point) :=
  match bytes with
  | 0 :: 0 :: _ :: _ :: _ => Utf32.decode .big 0 bytes
  | 0 :: _ :: _ :: _ :: _ => Utf16.decode .big 0 bytes
  | _ :: 0 :: 0 :: 0 :: _ => Utf32.decode .little 0 bytes
  | _ :: 0 :: _ :: _ :: _ => Utf16.decode .little 0 bytes
  | [0, _] => Utf16.decode .big 0 bytes
  | [_, 0] => Utf16.decode .little 0 bytes
  | _ => decodeUtf8 bytes

def decodeDetected (bytes : List UInt8) : Except DecodeFault (List Point) :=
  match bytes with
  | 0 :: 0 :: 0xFE :: 0xFF :: rest => Utf32.decode .big 4 rest
  | 0xFF :: 0xFE :: 0 :: 0 :: rest => Utf32.decode .little 4 rest
  | 0xFE :: 0xFF :: rest => Utf16.decode .big 2 rest
  | 0xFF :: 0xFE :: rest => Utf16.decode .little 2 rest
  | 0xEF :: 0xBB :: 0xBF :: rest => decodeUtf8 rest
  | _ => decodeUnmarked bytes

end Remedy.Text

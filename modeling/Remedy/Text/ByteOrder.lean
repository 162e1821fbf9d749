/-!
The order of the bytes of a number: the last byte or the first byte of the written form counts
most. Writing a number and reading the bytes gives the number back, up to what fits.
-/

namespace Remedy.Text

inductive ByteOrder where
  | little
  | big
  deriving Repr, DecidableEq

namespace ByteOrder

def littleValue : List UInt8 → Nat
  | [] => 0
  | b :: rest => b.toNat + 256 * littleValue rest

def value : ByteOrder → List UInt8 → Nat
  | little, bytes => littleValue bytes
  | big, bytes => littleValue bytes.reverse

def littleBytes : Nat → Nat → List UInt8
  | 0, _ => []
  | width + 1, n => n.toUInt8 :: littleBytes width (n / 256)

def bytes : ByteOrder → Nat → Nat → List UInt8
  | little, width, n => littleBytes width n
  | big, width, n => (littleBytes width n).reverse

def mark : ByteOrder → String
  | little => "le"
  | big => "be"

end ByteOrder

end Remedy.Text

import Remedy.Text.ByteOrder
import Remedy.Text.Quoted
import Remedy.Text.Utf8

/-!
Encodings of texts as bytes. A codec is whatever writes texts; the character sets here are those
that are known by their names. Sets that write every character may begin a text with a mark; the
others write one byte for each character that they know.
-/

namespace Remedy.Text

/-- Why a text cannot be encoded: characters in a row that a codec cannot write, or something of the
codec's own. -/
inductive EncodeFault where
  | beyond (codec reason : String) (position : Nat) (first : Char) (count : Nat)
  | other (kind text : String)
  deriving Repr, DecidableEq

namespace EncodeFault

def message : EncodeFault → String
  | beyond codec reason position first count =>
    "'" ++ codec ++ "' codec can't encode " ++
      (if count = 1 then
        "character '" ++ String.ofList (escapeCode first.toNat) ++ "' in position " ++
          toString position
      else
        "characters in position " ++ toString position ++ "-" ++ toString (position + count - 1)) ++
      ": " ++ reason
  | other _ text => text

def kind : EncodeFault → String
  | beyond .. => "UnicodeEncodeError"
  | other kind _ => kind

end EncodeFault

/-- A codec: the bytes that it writes for a text to a file, and those that it makes of a text in one
piece. -/
structure Codec where
  stream : String → Except EncodeFault (List UInt8)
  encode : String → Except EncodeFault (List UInt8)

/-- An encoding that is asked for: its name, and its codec if there is one of that name. -/
structure Encoding where
  name : String
  codec? : Option Codec

inductive Charset where
  | utf8 (marked : Bool)
  | utf16 (order : ByteOrder) (marked : Bool)
  | utf32 (order : ByteOrder) (marked : Bool)
  | ascii
  | latin1
  | windows1252
  deriving Repr, DecidableEq

namespace Charset

/-- A character in lower case if it may stand in a name; the others separate parts of names. -/
def nameChar (c : Char) : Char :=
  if c.isAlphanum || c = '.' then c.toLower else '_'

def joinParts : List Char → List Char
  | '_' :: '_' :: rest => joinParts ('_' :: rest)
  | c :: rest => c :: joinParts rest
  | [] => []

/-- A name in the form in which names are compared: in lower case, with one underscore between
parts and none at the ends. -/
def plainName (name : String) : String :=
  let marked := (name.toList.map nameChar).dropWhile (· = '_')
  String.ofList (joinParts ((marked.reverse.dropWhile (· = '_')).reverse))

def named : List (Charset × List String) := [
  (.utf8 false, ["utf_8", "utf8", "u8", "utf", "cp65001", "utf8_ucs2", "utf8_ucs4"]),
  (.utf8 true, ["utf_8_sig"]),
  (.ascii, ["ascii", "us_ascii", "us", "646", "ansi_x3.4_1968", "ansi_x3.4_1986",
    "ansi_x3_4_1968", "cp367", "csascii", "ibm367", "iso646_us", "iso_646.irv_1991",
    "iso_ir_6"]),
  (.latin1, ["latin_1", "latin1", "latin", "l1", "8859", "cp819", "csisolatin1", "ibm819",
    "iso8859", "iso8859_1", "iso_8859_1", "iso_8859_1_1987", "iso_ir_100"]),
  (.windows1252, ["cp1252", "1252", "windows_1252"]),
  (.utf16 .little true, ["utf_16", "utf16", "u16"]),
  (.utf16 .little false, ["utf_16_le", "utf_16le", "unicodelittleunmarked"]),
  (.utf16 .big false, ["utf_16_be", "utf_16be", "unicodebigunmarked"]),
  (.utf32 .little true, ["utf_32", "utf32", "u32"]),
  (.utf32 .little false, ["utf_32_le", "utf_32le"]),
  (.utf32 .big false, ["utf_32_be", "utf_32be"])]

def ofName? (name : String) : Option Charset :=
  (named.find? fun entry => entry.2.contains (plainName name)).map (·.1)

/-- The characters of the bytes from 128 to 159; a null character stands for none. -/
def windowsBlock : List Nat := [
  0x20ac, 0, 0x201a, 0x192, 0x201e, 0x2026, 0x2020, 0x2021, 0x2c6, 0x2030, 0x160, 0x2039, 0x152,
  0, 0x17d, 0, 0, 0x2018, 0x2019, 0x201c, 0x201d, 0x2022, 0x2013, 0x2014, 0x2dc, 0x2122, 0x161,
  0x203a, 0x153, 0, 0x17e, 0x178]

def windowsByte? (c : Char) : Option Nat :=
  if c.toNat < 0x80 || 0xa0 ≤ c.toNat && c.toNat < 0x100 then some c.toNat
  else (windowsBlock.findIdx? (· = c.toNat)).map (0x80 + ·)

def writes : Charset → Char → Bool
  | ascii, c => c.toNat < 0x80
  | latin1, c => c.toNat < 0x100
  | windows1252, c => (windowsByte? c).isSome
  | _, _ => true

def units16 (c : Char) : List Nat :=
  if c.toNat < 0x10000 then [c.toNat]
  else [0xd800 + (c.toNat - 0x10000) / 0x400, 0xdc00 + (c.toNat - 0x10000) % 0x400]

def encodeChar : Charset → Char → List UInt8
  | utf8 _, c => Utf8.encodeChar c
  | utf16 order _, c => (units16 c).flatMap (order.bytes 2)
  | utf32 order _, c => order.bytes 4 c.toNat
  | windows1252, c => [((windowsByte? c).getD 0).toUInt8]
  | _, c => [c.toNat.toUInt8]

def mark : Charset → List UInt8
  | utf8 true => encodeChar (utf8 true) '\ufeff'
  | utf16 order true => encodeChar (utf16 order true) '\ufeff'
  | utf32 order true => encodeChar (utf32 order true) '\ufeff'
  | _ => []

/-- The name of a character set in messages, and what is wrong with a character that it cannot
write. -/
def complaint : Charset → String × String
  | ascii => ("ascii", "ordinal not in range(128)")
  | latin1 => ("latin-1", "ordinal not in range(256)")
  | windows1252 => ("charmap", "character maps to <undefined>")
  | _ => ("utf", "surrogates not allowed")

def encode (charset : Charset) (text : String) : Except EncodeFault (List UInt8) :=
  let chars := text.toList
  match chars.dropWhile charset.writes with
  | [] => .ok (charset.mark ++ chars.flatMap charset.encodeChar)
  | c :: rest =>
    let before := (chars.takeWhile charset.writes).length
    let more := (rest.takeWhile fun d => !charset.writes d).length
    .error (.beyond charset.complaint.1 charset.complaint.2 before c (more + 1))

def codec (charset : Charset) : Codec := ⟨charset.encode, charset.encode⟩

end Charset

def Encoding.ofName (name : String) : Encoding :=
  ⟨name, (Charset.ofName? name).map Charset.codec⟩

instance : Coe String Encoding := ⟨Encoding.ofName⟩

end Remedy.Text

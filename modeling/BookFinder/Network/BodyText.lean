import BookFinder.Network.Codecs
import BookFinder.Network.Headers
import BookFinder.Network.MediaType
import BookFinder.Text.Utf8

/-! # The text of a body

A body is UTF-8 unless its media type names another character set. A byte order mark at its start
decides before either, and is no part of the text.
-/

namespace BookFinder.Network

abbrev Decoder := List UInt8 → List Char

namespace Decoder

/-! ## Windows-1252 -/

/-- What Windows-1252 has at 0x80 to 0x9F. -/
def westernControls : List Nat :=
  [0x20AC, 0x81, 0x201A, 0x192, 0x201E, 0x2026, 0x2020, 0x2021, 0x2C6, 0x2030, 0x160, 0x2039, 0x152,
   0x8D, 0x17D, 0x8F, 0x90, 0x2018, 0x2019, 0x201C, 0x201D, 0x2022, 0x2013, 0x2014, 0x2DC, 0x2122,
   0x161, 0x203A, 0x153, 0x9D, 0x17E, 0x178]

def westernChar (b : UInt8) : Char :=
  if 0x80 ≤ b.toNat ∧ b.toNat < 0xA0 then
    Char.ofNat ((westernControls[b.toNat - 0x80]?).getD 0xFFFD)
  else Char.ofNat b.toNat

def western : Decoder := fun bytes => bytes.map westernChar

/-! ## UTF-16 -/

/-- The 16-bit units of a byte sequence; a byte that is left over is no unit. -/
def units (bigEndian : Bool) : List UInt8 → List (Option Nat)
  | a :: b :: bytes =>
    some (if bigEndian then a.toNat * 256 + b.toNat else b.toNat * 256 + a.toNat) ::
      units bigEndian bytes
  | [_] => [none]
  | [] => []

def isHighHalf (n : Nat) : Bool := 0xD800 ≤ n && n < 0xDC00

def isLowHalf (n : Nat) : Bool := 0xDC00 ≤ n && n < 0xE000

/-- The text of 16-bit units, with U+FFFD for what is cut off: half a pair, a byte, or both. -/
def ofUnits : List (Option Nat) → List Char
  | [] => []
  | none :: rest => '\uFFFD' :: ofUnits rest
  | [some n] => [if isHighHalf n || isLowHalf n then '\uFFFD' else Char.ofNat n]
  | some n :: none :: rest =>
    if isHighHalf n then '\uFFFD' :: ofUnits rest
    else (if isLowHalf n then '\uFFFD' else Char.ofNat n) :: '\uFFFD' :: ofUnits rest
  | some n :: some low :: rest =>
    if isHighHalf n && isLowHalf low then
      Char.ofNat (0x10000 + (n - 0xD800) * 0x400 + (low - 0xDC00)) :: ofUnits rest
    else
      (if isHighHalf n || isLowHalf n then '\uFFFD' else Char.ofNat n) ::
        ofUnits (some low :: rest)

def utf16 (bigEndian : Bool) : Decoder := fun bytes => ofUnits (units bigEndian bytes)

/-! ## Labels -/

def utf8Labels : List String :=
  ["unicode-1-1-utf-8", "unicode11utf8", "unicode20utf8", "utf-8", "utf8", "x-unicode20utf8"]

def utf16Labels : List String :=
  ["csunicode", "iso-10646-ucs-2", "ucs-2", "unicode", "unicodefeff", "utf-16", "utf-16le"]

def bigEndianLabels : List String := ["unicodefffe", "utf-16be"]

def westernLabels : List String :=
  ["ansi_x3.4-1968", "ascii", "cp1252", "cp819", "csisolatin1", "ibm819", "iso-8859-1", "iso-ir-100",
    "iso8859-1", "iso88591", "iso_8859-1", "iso_8859-1:1987", "l1", "latin1", "us-ascii",
    "windows-1252", "x-cp1252"]

/-- White space around a label does not count. -/
def isLabelSpace (c : Char) : Bool := ['\t', '\n', '\x0C', '\r', ' '].contains c

def trimLabel (cs : List Char) : List Char :=
  ((cs.dropWhile isLabelSpace).reverse.dropWhile isLabelSpace).reverse

def ofLabel (codecs : Codecs) (label : List Char) : Option Decoder :=
  let label := String.ofList (lowercase (trimLabel label))
  if utf8Labels.contains label then some Text.Utf8.decodeLenient
  else if utf16Labels.contains label then some (utf16 false)
  else if bigEndianLabels.contains label then some (utf16 true)
  else if westernLabels.contains label then some western
  else codecs.charset label

end Decoder

namespace BodyText

/-- Characters that a field is read with. -/
def isVisible (c : Char) : Bool := c == '\t' || (0x20 ≤ c.toNat && c.toNat < 0x7F)

def labelOf (mediaType : String) : Option (List Char) :=
  if mediaType.toList.all isVisible then do
    let parameters ← MediaType.parameters mediaType.toList
    (parameters.find? fun parameter => lowercase parameter.1 == "charset".toList).map (·.2)
  else none

def label (headers : Headers) : Option (List Char) :=
  (headers.values "content-type").head?.bind labelOf

/-- The decoder that a byte order mark asks for, and the bytes after the mark. -/
def byteOrderMark : List UInt8 → Option (Decoder × List UInt8)
  | 0xEF :: 0xBB :: 0xBF :: bytes => some (Text.Utf8.decodeLenient, bytes)
  | 0xFF :: 0xFE :: bytes => some (Decoder.utf16 false, bytes)
  | 0xFE :: 0xFF :: bytes => some (Decoder.utf16 true, bytes)
  | _ => none

def read (codecs : Codecs) (headers : Headers) (bytes : List UInt8) : String :=
  let (decode, content) := match byteOrderMark bytes with
    | some found => found
    | none =>
      (((label headers).bind (Decoder.ofLabel codecs)).getD Text.Utf8.decodeLenient, bytes)
  String.ofList (decode content)

end BodyText

end BookFinder.Network

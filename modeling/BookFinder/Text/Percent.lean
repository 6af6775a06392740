import BookFinder.Text.Hex
import BookFinder.Text.Utf8

/-! # Percent-encoding

An escape is `%` with two hexadecimal digits and stands for one byte of UTF-8. What only looks like
an escape stands for itself.
-/

namespace BookFinder.Text.Percent

def encodeByte (b : UInt8) : List Char :=
  ['%', upperHexDigit (b.toNat / 16), upperHexDigit (b.toNat % 16)]

/-- Escapes every byte of the characters for which `escaped` holds. -/
def encode (escaped : Char → Bool) (cs : List Char) : List Char :=
  cs.flatMap fun c => if escaped c then (Utf8.encodeChar c).flatMap encodeByte else [c]

def byteOfHex (high low : Char) : Option UInt8 :=
  match hexValue high, hexValue low with
  | some h, some l => some (.ofNat (h * 16 + l))
  | _, _ => none

def decodeBytes : List Char → List UInt8
  | '%' :: high :: low :: cs =>
    match byteOfHex high low with
    | some b => b :: decodeBytes cs
    | none => Utf8.encodeChar '%' ++ decodeBytes (high :: low :: cs)
  | c :: cs => Utf8.encodeChar c ++ decodeBytes cs
  | [] => []

def decode? (cs : List Char) : Option (List Char) := Utf8.decode? (decodeBytes cs)

/-- The text that a text stands for, with U+FFFD for what is no UTF-8. -/
def decodeLenient (cs : List Char) : List Char := Utf8.decodeLenient (decodeBytes cs)

end BookFinder.Text.Percent

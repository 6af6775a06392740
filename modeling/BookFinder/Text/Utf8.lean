/-! # UTF-8

Bytes that are no UTF-8 are cut into the longest starts of a character that they hold; a lenient
reader puts U+FFFD for each of them.
-/

namespace BookFinder.Text.Utf8

def encodeChar (c : Char) : List UInt8 :=
  let n := c.toNat
  if n < 0x80 then [.ofNat n]
  else if n < 0x800 then [.ofNat (0xC0 + n / 64), .ofNat (0x80 + n % 64)]
  else if n < 0x10000 then
    [.ofNat (0xE0 + n / 4096), .ofNat (0x80 + n / 64 % 64), .ofNat (0x80 + n % 64)]
  else
    [.ofNat (0xF0 + n / 262144), .ofNat (0x80 + n / 4096 % 64), .ofNat (0x80 + n / 64 % 64),
      .ofNat (0x80 + n % 64)]

def encode (cs : List Char) : List UInt8 := cs.flatMap encodeChar

/-- The bytes that may follow the first byte of a character of two bytes or more; the limits keep
out long forms, surrogates and what lies beyond U+10FFFF. -/
def secondByteRange (first : Nat) : Nat × Nat :=
  if first = 0xE0 then (0xA0, 0xBF)
  else if first = 0xED then (0x80, 0x9F)
  else if first = 0xF0 then (0x90, 0xBF)
  else if first = 0xF4 then (0x80, 0x8F)
  else (0x80, 0xBF)

def tailBits (range : Nat × Nat) : List UInt8 → Option (Nat × List UInt8)
  | [] => none
  | b :: bytes =>
    if range.1 ≤ b.toNat ∧ b.toNat ≤ range.2 then some (b.toNat - 0x80, bytes) else none

inductive Piece where
  | char (c : Char) (length : Nat)
  /-- The start of a character that the bytes do not go on with. -/
  | broken (length : Nat)

def Piece.length : Piece → Nat
  | char _ n => n
  | broken n => n

def headPiece (first : Nat) (bytes : List UInt8) : Piece :=
  if first < 0x80 then .char (Char.ofNat first) 1
  else if first < 0xC2 ∨ 0xF4 < first then .broken 1
  else match tailBits (secondByteRange first) bytes with
    | none => .broken 1
    | some (b, bytes) =>
      if first < 0xE0 then .char (Char.ofNat ((first - 0xC0) * 64 + b)) 2
      else match tailBits (0x80, 0xBF) bytes with
        | none => .broken 2
        | some (c, bytes) =>
          if first < 0xF0 then .char (Char.ofNat (((first - 0xE0) * 64 + b) * 64 + c)) 3
          else match tailBits (0x80, 0xBF) bytes with
            | none => .broken 3
            | some (d, _) => .char (Char.ofNat ((((first - 0xF0) * 64 + b) * 64 + c) * 64 + d)) 4

/-- The pieces of a byte sequence whose first `skip` bytes belong to a piece already cut off. -/
def piecesAfter : (skip : Nat) → List UInt8 → List Piece
  | _, [] => []
  | skip + 1, _ :: bytes => piecesAfter skip bytes
  | 0, b :: bytes =>
    let piece := headPiece b.toNat bytes
    piece :: piecesAfter (piece.length - 1) bytes

def pieces (bytes : List UInt8) : List Piece := piecesAfter 0 bytes

def Piece.char? : Piece → Option Char
  | char c _ => some c
  | broken _ => none

def decode? (bytes : List UInt8) : Option (List Char) := (pieces bytes).mapM Piece.char?

def decodeLenient (bytes : List UInt8) : List Char :=
  (pieces bytes).map fun piece => piece.char?.getD '\uFFFD'

end BookFinder.Text.Utf8

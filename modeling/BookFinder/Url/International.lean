import BookFinder.Text.Lowercase
import BookFinder.Url.Domain
import BookFinder.Url.Punycode

/-! # International names in scripts without composed forms

The ASCII form of names whose characters are mapped one by one: letters lowercased, widths and dots
unified, and each label that is not ASCII written in its encoded form. Names that would have to be
normalized are beyond it.
-/

namespace BookFinder.Url.International

def isIgnored (c : Char) : Bool :=
  let n := c.toNat
  n == 0xAD || n == 0x34F || n == 0x200B || n == 0x2060 || n == 0x2064 || n == 0xFEFF ||
    (0x180B ≤ n && n ≤ 0x180F) || (0xFE00 ≤ n && n ≤ 0xFE0F)

/-- Characters outside ASCII that stand for nothing in a name: controls, private characters,
surrogate and replacement forms, and code points without a character. -/
def isUnusable (c : Char) : Bool :=
  let n := c.toNat
  (0x80 ≤ n && n ≤ 0x9F) || (0x200E ≤ n && n ≤ 0x200F) || (0x2028 ≤ n && n ≤ 0x202E) ||
    (0x2066 ≤ n && n ≤ 0x206F) || (0xE000 ≤ n && n ≤ 0xF8FF) || (0xFDD0 ≤ n && n ≤ 0xFDEF) ||
    (0xFFF9 ≤ n && n ≤ 0xFFFF) || 0xE0000 ≤ n || 0xFFFE ≤ n % 0x10000

def mapChar (c : Char) : List Char :=
  let n := c.toNat
  if isIgnored c then []
  else if n = 0x3002 ∨ n = 0xFF61 then ['.']
  else if n = 0xA0 ∨ (0x2000 ≤ n ∧ n ≤ 0x200A) ∨ n = 0x202F ∨ n = 0x205F ∨ n = 0x3000 then [' ']
  else if 0xFF01 ≤ n ∧ n ≤ 0xFF5E then Text.lowerChar (Char.ofNat (n - 0xFEE0))
  else if n = 0x1E9E then ['ß']
  else Text.lowerChar c

def mapName (name : List Char) : List Char := name.flatMap mapChar

/-- Whether a label in its encoded form stands for one that had to be encoded. -/
def isEncodedLabel (label : List Char) : Bool :=
  match Punycode.decode (label.drop Domain.encodedMark.length) with
  | some decoded =>
    !Domain.isAscii decoded && mapName decoded == decoded && !decoded.any isUnusable &&
      !decoded.contains '.'
  | none => false

def labelToAscii (label : List Char) : Option (List Char) :=
  if Domain.encodedMark.isPrefixOf label then if isEncodedLabel label then some label else none
  else if Domain.isAscii label then some label
  else if label.any isUnusable then none
  else some (Domain.encodedMark ++ Punycode.encode label)

def charByChar : International := fun name => do
  let labels ← (Text.splitAt (· == '.') (mapName name)).mapM labelToAscii
  let ascii := Text.joinWith '.' labels
  if ascii.any Domain.isForbidden then none else some ascii

end BookFinder.Url.International

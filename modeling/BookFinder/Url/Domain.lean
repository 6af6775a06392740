import BookFinder.Text.Split

/-! # Domain names

A plain name is written in ASCII and stands for itself in lower case. What the ASCII form of any
other name is depends on tables of characters, and whoever reads a URL brings them along.
-/

namespace BookFinder.Url

abbrev International := List Char → Option (List Char)

namespace Domain

/-- ASCII characters that no domain name may hold. -/
def isForbidden (c : Char) : Bool :=
  c.toNat ≤ 0x20 || c.toNat = 0x7F ||
    ['%', '#', '/', ':', '<', '>', '?', '@', '[', '\\', ']', '^', '|'].contains c

def isAscii (cs : List Char) : Bool := cs.all (·.toNat < 0x80)

/-- What a label begins with that stands for one outside ASCII. -/
def encodedMark : List Char := ['x', 'n', '-', '-']

def isPlain (name : List Char) : Bool :=
  isAscii name &&
    (Text.splitAt (· == '.') (name.map Char.toLower)).all (!encodedMark.isPrefixOf ·)

def toAscii (international : International) (name : List Char) : Option (List Char) :=
  if isPlain name then
    let ascii := name.map Char.toLower
    if ascii.any isForbidden then none else some ascii
  else international name

end Domain

end BookFinder.Url

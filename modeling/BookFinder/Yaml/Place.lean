/-! # Characters and where they stand

What a character of a YAML text means depends on its column, and how far apart a key and its colon
may be depends on lines and distances. A text is therefore read as the list of its places, with a
mark after the last one.
-/

namespace BookFinder.Yaml

structure Place where
  char : Char
  index : Nat
  line : Nat
  column : Nat
deriving DecidableEq, Repr

/-- The mark after the last character. No text holds it. -/
def endMark : Char := '\x00'

def isAllowed (c : Char) : Bool :=
  let n := c.toNat
  n == 0x09 || n == 0x0A || n == 0x0D || (0x20 ≤ n && n ≤ 0x7E) || n == 0x85 ||
    (0xA0 ≤ n && n ≤ 0xFFFD) || 0x10000 ≤ n

/-- What a character that ends a line is read as. -/
def lineBreak (c : Char) : Option Char :=
  if c = '\n' ∨ c = '\r' ∨ c = '\u0085' then some '\n'
  else if c = '\u2028' ∨ c = '\u2029' then some c
  else none

def isBreak (c : Char) : Bool := c == '\n' || c == '\u2028' || c == '\u2029'

def isBlank (c : Char) : Bool := c == ' ' || c == '\t'

def endsWord (c : Char) : Bool := isBlank c || isBreak c || c == endMark

def endsLine (c : Char) : Bool := isBreak c || c == endMark

namespace Place

/-- The places of a text that starts at the given place. A carriage return and a line feed are one
break. -/
def ofChars (index line column : Nat) : List Char → List Place
  | [] => [⟨endMark, index, line, column⟩]
  | '\r' :: '\n' :: cs => ⟨'\n', index, line, column⟩ :: ofChars (index + 2) (line + 1) 0 cs
  | c :: cs =>
    match lineBreak c with
    | some b => ⟨b, index, line, column⟩ :: ofChars (index + 1) (line + 1) 0 cs
    | none => ⟨c, index, line, column⟩ :: ofChars (index + 1) line (column + 1) cs

def ofText (text : List Char) : Option (List Place) :=
  if text.all isAllowed then some (ofChars 0 0 0 text) else none

end Place

def nextChar : List Place → Char
  | [] => endMark
  | p :: _ => p.char

/-- Whether the places start with three marks that make up a line or its first word. -/
def isBoundaryOf (mark : Char) : List Place → Bool
  | a :: b :: c :: ps =>
    a.column == 0 && a.char == mark && b.char == mark && c.char == mark && endsWord (nextChar ps)
  | _ => false

def isBoundary (ps : List Place) : Bool := isBoundaryOf '-' ps || isBoundaryOf '.' ps

def skipBlanks (ps : List Place) : List Place := ps.dropWhile (isBlank ·.char)

/-- What is left after blanks, a comment and the break of the line; nothing else may stand there. -/
def skipRestOfLine (ps : List Place) : Option (List Place) :=
  let ps := skipBlanks ps
  let ps := if nextChar ps = '#' then ps.dropWhile (!endsLine ·.char) else ps
  if isBreak (nextChar ps) then some (ps.drop 1)
  else if nextChar ps = endMark then some ps
  else none

def spanChars (p : Char → Bool) (ps : List Place) : List Char × List Place :=
  ((ps.takeWhile (p ·.char)).map (·.char), ps.dropWhile (p ·.char))

end BookFinder.Yaml

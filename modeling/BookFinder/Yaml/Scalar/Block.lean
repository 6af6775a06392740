import BookFinder.Yaml.Place

/-! # Block scalars

A header says what becomes of the breaks at the end and may say how far the lines are indented. The
text is every line that starts in that column. It is read as it stands, or folded: a break between
two lines that start with words is a space.
-/

namespace BookFinder.Yaml

/-- What becomes of the breaks at the end of a block scalar. -/
inductive Chomping where
  | strip
  /-- The break of the last line stays. -/
  | clip
  | keep
deriving DecidableEq, Repr

structure BlockLine where
  text : List Char
  lineEnd : List Char
  emptyLines : List Char

namespace BlockLine

def startsBlank (line : BlockLine) : Bool :=
  match line.text with
  | [] => false
  | c :: _ => isBlank c

def join (folded : Bool) (line next : BlockLine) : List Char :=
  if folded && line.lineEnd == ['\n'] && !line.startsBlank && !next.startsBlank then
    if line.emptyLines.isEmpty then [' '] else line.emptyLines
  else line.lineEnd ++ line.emptyLines

def chomp (chomping : Chomping) (line : BlockLine) : List Char :=
  match chomping with
  | .strip => []
  | .clip => line.lineEnd
  | .keep => line.lineEnd ++ line.emptyLines

def textOf (folded : Bool) (chomping : Chomping) : List BlockLine → List Char
  | [] => []
  | [line] => line.text ++ line.chomp chomping
  | line :: next :: lines =>
    line.text ++ line.join folded next ++ textOf folded chomping (next :: lines)

end BlockLine

structure BlockHeader where
  chomping : Chomping
  /-- How much deeper the lines are indented than what they belong to. -/
  deeper : Option Nat

def readChomping : List Place → Option (Chomping × List Place)
  | [] => none
  | p :: ps =>
    if p.char = '+' then some (.keep, ps) else if p.char = '-' then some (.strip, ps) else none

/-- A digit other than zero; a zero is refused, and anything else is no part of the header. -/
def readDeeper : List Place → Option (Option Nat × List Place)
  | [] => none
  | p :: ps =>
    if p.char = '0' then none
    else if p.char.isDigit then some (some (p.char.toNat - 48), ps)
    else some (none, p :: ps)

/-- The two parts of a header, each of which may be missing, in either order. -/
def readBlockHeader (ps : List Place) : Option (BlockHeader × List Place) :=
  match readChomping ps with
  | some (chomping, ps) => do
    let (deeper, ps) ← readDeeper ps
    some (⟨chomping, deeper⟩, ps)
  | none => do
    let (deeper, ps) ← readDeeper ps
    match deeper.bind fun _ => readChomping ps with
    | some (chomping, ps) => some (⟨chomping, deeper⟩, ps)
    | none => some (⟨.clip, deeper⟩, ps)

/-- Skips empty lines and the indentation of the next line, up to column `indent` if that is known.
Gives the breaks and the widest indentation, which no tab may be part of. -/
def skipEmptyLines (indent : Option Nat) : (widest : Nat) → List Place →
    Option (List Char × Nat × List Place)
  | _, [] => none
  | widest, p :: ps =>
    let inIndent := match indent with
      | none => true
      | some column => p.column < column
    if inIndent && p.char == ' ' then skipEmptyLines indent widest ps
    else if inIndent && p.char == '\t' then none
    else if isBreak p.char then
      (skipEmptyLines indent (max widest p.column) ps).map fun (breaks, rest) =>
        (p.char :: breaks, rest)
    else some ([], max widest p.column, p :: ps)

/-- The lines that start in column `indent`. Each takes at least one character. -/
def readBlockLines (indent : Nat) : (fuel : Nat) → List Place →
    Option (List BlockLine × List Place)
  | 0, _ => none
  | _, [] => none
  | fuel + 1, p :: ps =>
    if p.column = indent ∧ p.char ≠ endMark then do
      let (text, ps) := spanChars (!endsLine ·) (p :: ps)
      let (lineEnd, ps) := if isBreak (nextChar ps) then ([nextChar ps], ps.drop 1) else ([], ps)
      let (emptyLines, _, ps) ← skipEmptyLines (some indent) 0 ps
      let (lines, ps) ← readBlockLines indent fuel ps
      some (⟨text, lineEnd, emptyLines⟩ :: lines, ps)
    else some ([], p :: ps)

/-- A block scalar after its first mark, in a block that starts in column `base`. Its lines start
deeper than that: as its header says, or else in the widest column up to its first line. -/
def readBlock (folded : Bool) (base : Nat) (ps : List Place) : Option (List Char × List Place) := do
  let (header, ps) ← readBlockHeader ps
  let ps ← skipRestOfLine ps
  let given := header.deeper.map (base + ·)
  let (emptyLines, widest, ps) ← skipEmptyLines given 0 ps
  let indent := given.getD (max widest (base + 1))
  let (lines, ps) ← readBlockLines indent (ps.length + 1) ps
  let start := if lines.isEmpty && header.chomping != .keep then [] else emptyLines
  some (start ++ BlockLine.textOf folded header.chomping lines, ps)

end BookFinder.Yaml

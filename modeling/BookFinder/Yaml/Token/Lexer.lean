import BookFinder.Yaml.Scalar.Block
import BookFinder.Yaml.Scalar.Plain
import BookFinder.Yaml.Scalar.Quoted
import BookFinder.Yaml.Token.Property

/-! # From a text to its tokens

Indentation opens and closes block collections: one opens at an item or a key that is indented more
than the collection around it. Whether something is a key is known at the colon after it only; until
then its place among the tokens is remembered. Its colon has to stand on the same line, at most 1024
characters on.
-/

namespace BookFinder.Yaml

structure KeyStart where
  place : Place
  /-- How many tokens stand before it. -/
  count : Nat
  /-- Whether nothing but a key may stand there. -/
  required : Bool

/-- Whether a colon at `place` would come too late for a key. -/
def KeyStart.isStale (key : KeyStart) (place : Place) : Bool :=
  key.place.line < place.line || key.place.index + 1024 < place.index

structure Lexer where
  tokens : Array Token := #[]
  /-- The columns of the open block collections, the innermost first. -/
  columns : List Nat := []
  key : Option KeyStart := none
  /-- The keys that the open brackets and braces may be part of, the innermost first. -/
  outerKeys : List (Option KeyStart) := []
  /-- Whether a key may start here. -/
  keyAllowed : Bool := true

namespace Lexer

def inFlow (lexer : Lexer) : Bool := !lexer.outerKeys.isEmpty

def add (lexer : Lexer) (token : Token) : Lexer := { lexer with tokens := lexer.tokens.push token }

def insert (lexer : Lexer) (count : Nat) (token : Token) : Lexer :=
  { lexer with tokens := lexer.tokens.insertIdxIfInBounds count token }

def allowKey (lexer : Lexer) (allowed : Bool) : Lexer := { lexer with keyAllowed := allowed }

/-! ## Block collections -/

def isDeeper (lexer : Lexer) (column : Nat) : Bool :=
  match lexer.columns with
  | [] => true
  | innermost :: _ => innermost < column

/-- Opens a block collection after the first `count` tokens, unless one is open in its column or
between brackets or braces. -/
def openBlock (lexer : Lexer) (column count : Nat) (start : Token) : Lexer :=
  if !lexer.inFlow && lexer.isDeeper column then
    { lexer.insert count start with columns := column :: lexer.columns }
  else lexer

/-- Closes every block collection that satisfies `p`, up to the first one that does not. -/
def closeBlocks (lexer : Lexer) (p : Nat → Bool) : Lexer :=
  let closed := lexer.columns.takeWhile p
  { lexer with
    columns := lexer.columns.dropWhile p
    tokens := lexer.tokens ++ closed.map fun _ => Token.blockEnd }

def closeBlocksAfter (lexer : Lexer) (column : Nat) : Lexer :=
  if lexer.inFlow then lexer else lexer.closeBlocks (column < ·)

/-- Closes all block collections, at the boundary of a document. -/
def closeAllBlocks (lexer : Lexer) : Lexer :=
  if lexer.inFlow then lexer else lexer.closeBlocks fun _ => true

/-! ## Keys -/

def dropKey (lexer : Lexer) : Option Lexer :=
  match lexer.key with
  | some key => if key.required then none else some { lexer with key := none }
  | none => some lexer

def rememberKey (lexer : Lexer) (place : Place) : Option Lexer :=
  if lexer.keyAllowed then do
    let required := !lexer.inFlow && lexer.columns.head? == some place.column
    let lexer ← lexer.dropKey
    some { lexer with key := some ⟨place, lexer.tokens.size, required⟩ }
  else some lexer

def refreshKey (place : Place) : Option KeyStart → Option (Option KeyStart)
  | none => some none
  | some key =>
    if key.isStale place then if key.required then none else some none else some (some key)

def refreshKeys (lexer : Lexer) (place : Place) : Option Lexer := do
  some { lexer with
    key := ← refreshKey place lexer.key
    outerKeys := ← lexer.outerKeys.mapM (refreshKey place) }

/-! ## Between tokens -/

/-- Skips blanks, comments and breaks up to the next token. A tab is no blank where a key may start
in a block, and after a break a key may start. -/
def skipToToken (inFlow : Bool) : (keyAllowed inComment : Bool) → List Place → Bool × List Place
  | keyAllowed, _, [] => (keyAllowed, [])
  | keyAllowed, inComment, p :: ps =>
    if isBreak p.char then skipToToken inFlow (keyAllowed || !inFlow) false ps
    else if p.char == endMark then (keyAllowed, p :: ps)
    else if inComment then skipToToken inFlow keyAllowed true ps
    else if p.char == ' ' || (p.char == '\t' && (inFlow || !keyAllowed)) ||
        (p.char == '\uFEFF' && p.index == 0) then
      skipToToken inFlow keyAllowed false ps
    else if p.char == '#' then skipToToken inFlow keyAllowed true ps
    else (keyAllowed, p :: ps)

/-! ## Tokens -/

/-- The start or the end of a document, of which there are three characters. -/
def documentMark (lexer : Lexer) (token : Token) (ps : List Place) :
    Option (Lexer × List Place) := do
  let lexer ← lexer.closeAllBlocks.dropKey
  some ((lexer.allowKey false).add token, ps.drop 2)

def directive (lexer : Lexer) (ps : List Place) : Option (Lexer × List Place) := do
  let lexer ← lexer.closeAllBlocks.dropKey
  let (token, ps) ← readDirective ps
  some ((lexer.allowKey false).add token, ps)

def flowStart (lexer : Lexer) (place : Place) (token : Token) : Option Lexer := do
  let lexer ← lexer.rememberKey place
  some { lexer.add token with key := none, outerKeys := lexer.key :: lexer.outerKeys, keyAllowed := true }

def flowEnd (lexer : Lexer) (token : Token) : Option Lexer := do
  let lexer ← lexer.dropKey
  let lexer := (lexer.allowKey false).add token
  match lexer.outerKeys with
  | [] => some lexer
  | key :: outerKeys => some { lexer with key, outerKeys }

def comma (lexer : Lexer) : Option Lexer := do
  let lexer ← lexer.dropKey
  some ((lexer.allowKey true).add .comma)

/-- Opens a block collection at a dash or a question mark, or at a colon without a key. -/
def openBlockAt (lexer : Lexer) (place : Place) (start : Token) : Option Lexer :=
  if lexer.inFlow then some lexer
  else if lexer.keyAllowed then
    some (lexer.openBlock place.column lexer.tokens.size start)
  else none

def item (lexer : Lexer) (place : Place) : Option Lexer := do
  let lexer ← lexer.openBlockAt place .sequenceStart
  let lexer ← lexer.dropKey
  some ((lexer.allowKey true).add .item)

def explicitKey (lexer : Lexer) (place : Place) : Option Lexer := do
  let lexer ← lexer.openBlockAt place .mappingStart
  let lexer ← lexer.dropKey
  some ((lexer.allowKey !lexer.inFlow).add .key)

def value (lexer : Lexer) (place : Place) : Option Lexer := do
  match lexer.key with
  | some key =>
    let lexer := lexer.insert key.count .key
    let lexer := lexer.openBlock key.place.column key.count .mappingStart
    some ({ lexer with key := none, keyAllowed := false }.add .value)
  | none =>
    let lexer ← lexer.openBlockAt place .mappingStart
    some ((lexer.allowKey !lexer.inFlow).add .value)

/-- A token that a key may start with, and after which none may start. -/
def keyPart (lexer : Lexer) (place : Place) (read : Option (Token × List Place)) :
    Option (Lexer × List Place) := do
  let lexer ← lexer.rememberKey place
  let (token, ps) ← read
  some ((lexer.allowKey false).add token, ps)

def plain (lexer : Lexer) (place : Place) (ps : List Place) : Option (Lexer × List Place) := do
  let lexer ← lexer.rememberKey place
  let indent := match lexer.columns with
    | [] => 0
    | column :: _ => column + 1
  let (text, broken, ps) ← readPlain lexer.inFlow indent (place :: ps)
  some ((lexer.allowKey broken).add (.scalar .plain text), ps)

def block (lexer : Lexer) (style : Style) (ps : List Place) : Option (Lexer × List Place) := do
  let lexer ← lexer.dropKey
  let (text, ps) ← readBlock (style == .folded) (lexer.columns.head?.getD 0) ps
  some ((lexer.allowKey true).add (.scalar style text), ps)

/-- Characters that no plain scalar starts with, unless what follows makes up for it. -/
def isIndicator (c : Char) : Bool := "-?:,[]\x7b\x7d#&*!|>'\"%@\x60".toList.contains c

def startsPlain (inFlow : Bool) (c next : Char) : Bool :=
  (!isIndicator c && !endsWord c) || (c == '-' && !isBlank next) ||
    (!inFlow && (c == '?' || c == ':') && !endsWord next)

def readToken (lexer : Lexer) (place : Place) (ps : List Place) : Option (Lexer × List Place) :=
  let next := nextChar ps
  let endsHere := lexer.inFlow || endsWord next
  let alone (lexer : Option Lexer) := lexer.map fun lexer => (lexer, ps)
  let part (read : Option (List Char × List Place)) (token : List Char → Token) :=
    lexer.keyPart place (read.map fun (text, ps) => (token text, ps))
  if place.column = 0 ∧ place.char = '%' then lexer.directive ps
  else if isBoundaryOf '-' (place :: ps) then lexer.documentMark .documentStart ps
  else if isBoundaryOf '.' (place :: ps) then lexer.documentMark .documentEnd ps
  else match place.char with
    | '[' => alone (lexer.flowStart place .flowSequenceStart)
    | '\x7b' => alone (lexer.flowStart place .flowMappingStart)
    | ']' => alone (lexer.flowEnd .flowSequenceEnd)
    | '\x7d' => alone (lexer.flowEnd .flowMappingEnd)
    | ',' => alone lexer.comma
    | '*' => part (readAnchorName ps) .reference
    | '&' => part (readAnchorName ps) .anchor
    | '!' => lexer.keyPart place ((readTag lexer.inFlow ps).map fun (name, ps) => (.tag name, ps))
    | '\'' => part (readQuoted '\'' ps) (.scalar .singleQuoted)
    | '"' => part (readQuoted '"' ps) (.scalar .doubleQuoted)
    | c =>
      if c = '-' ∧ endsWord next then alone (lexer.item place)
      else if c = '?' ∧ endsHere then alone (lexer.explicitKey place)
      else if c = ':' ∧ endsHere then alone (lexer.value place)
      else if c = '|' ∧ !lexer.inFlow then lexer.block .literal ps
      else if c = '>' ∧ !lexer.inFlow then lexer.block .folded ps
      else if startsPlain lexer.inFlow c next then lexer.plain place ps
      else none

def run : (fuel : Nat) → Lexer → List Place → Option Lexer
  | 0, _, _ => none
  | fuel + 1, lexer, ps =>
    match skipToToken lexer.inFlow lexer.keyAllowed false ps with
    | (_, []) => none
    | (keyAllowed, place :: ps) => do
      let lexer ← (lexer.allowKey keyAllowed).refreshKeys place
      let lexer := lexer.closeBlocksAfter place.column
      if place.char = endMark then lexer.closeAllBlocks.dropKey
      else
        let (lexer, ps) ← lexer.readToken place ps
        run fuel lexer ps

end Lexer

/-- The tokens of a text. Each takes at least one character. -/
def Token.ofText (text : List Char) : Option (List Token) := do
  let places ← Place.ofText text
  let lexer ← Lexer.run places.length {} places
  some lexer.tokens.toList

end BookFinder.Yaml

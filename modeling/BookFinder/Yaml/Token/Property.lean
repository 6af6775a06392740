import BookFinder.Text.Hex
import BookFinder.Text.Utf8
import BookFinder.Yaml.Place
import BookFinder.Yaml.Token

/-! # Anchors, tags and directives -/

namespace BookFinder.Yaml

def isNameChar (c : Char) : Bool := c.isAlphanum || c == '_' || c == '-'

def readAnchorName (ps : List Place) : Option (List Char × List Place) :=
  let (name, ps) := spanChars isNameChar ps
  let next := nextChar ps
  if !name.isEmpty && (endsWord next || "?:,]\x7d%@\x60".toList.contains next) then some (name, ps)
  else none

/-! ## Tags -/

def isUriChar (inBrackets : Bool) (c : Char) : Bool :=
  isNameChar c || ";/?:@&=+$.!~*'()".toList.contains c || (inBrackets && ",[]".toList.contains c)

def readEscapedByte : List Place → Option (Nat × List Place)
  | a :: b :: c :: ps =>
    if a.char = '%' then do
      let high ← Text.hexValue b.char
      let low ← Text.hexValue c.char
      some (high * 16 + low, ps)
    else none
  | _ => none

def tailLength (first : Nat) : Option Nat :=
  if first < 0x80 then some 0
  else if 0xC0 ≤ first ∧ first < 0xE0 then some 1
  else if 0xE0 ≤ first ∧ first < 0xF0 then some 2
  else if 0xF0 ≤ first ∧ first < 0xF8 then some 3
  else none

def readEscapedTail : (count : Nat) → List Place → Option (List UInt8 × List Place)
  | 0, ps => some ([], ps)
  | count + 1, ps => do
    let (b, ps) ← readEscapedByte ps
    if 0x80 ≤ b ∧ b < 0xC0 then
      let (bytes, ps) ← readEscapedTail count ps
      some (.ofNat b :: bytes, ps)
    else none

/-- A character outside ASCII, or one that a URI may not hold as it is, escaped byte by byte. -/
def readUriEscape (ps : List Place) : Option (List UInt8 × List Place) := do
  let (first, ps) ← readEscapedByte ps
  let (bytes, ps) ← readEscapedTail (← tailLength first) ps
  some (.ofNat first :: bytes, ps)

def readUriBytes (inBrackets : Bool) : (fuel : Nat) → List Place → Option (List UInt8 × List Place)
  | 0, _ => none
  | fuel + 1, ps =>
    if nextChar ps = '%' then do
      let (bytes, ps) ← readUriEscape ps
      let (more, ps) ← readUriBytes inBrackets fuel ps
      some (bytes ++ more, ps)
    else
      match spanChars (isUriChar inBrackets) ps with
      | ([], ps) => some ([], ps)
      | (cs, ps) => (readUriBytes inBrackets fuel ps).map fun (more, ps) =>
          (Text.Utf8.encode cs ++ more, ps)

/-- A URI, which may be empty. -/
def readUri (inBrackets : Bool) (ps : List Place) : Option (List Char × List Place) :=
  (readUriBytes inBrackets (ps.length + 1) ps).map fun (bytes, ps) =>
    (Text.Utf8.decodeLenient bytes, ps)

/-- The letters of a handle after its exclamation mark, whether a second mark ends it, and the rest. -/
def readHandle (ps : List Place) : List Char × Bool × List Place :=
  let (name, ps) := spanChars isNameChar ps
  if nextChar ps = '!' then (name, true, ps.drop 1) else (name, false, ps)

def namedHandle (name : List Char) : List Char := '!' :: name ++ ['!']

def readTagName (ps : List Place) : Option (TagName × List Place) :=
  if nextChar ps = '<' then do
    let (uri, ps) ← readUri true (ps.drop 1)
    if uri ≠ [] ∧ nextChar ps = '>' then some (.verbatim uri, ps.drop 1) else none
  else
    match readHandle ps with
    | (name, true, ps) => do
      let (suffix, ps) ← readUri false ps
      if suffix ≠ [] then some (.shorthand (namedHandle name) suffix, ps) else none
    | (start, false, ps) => do
      let (suffix, ps) ← readUri false ps
      if start ++ suffix = [] then some (.nonSpecific, ps)
      else some (.shorthand ['!'] (start ++ suffix), ps)

/-- A tag ends where a word ends, or at a comma between brackets or braces. -/
def readTag (inFlow : Bool) (ps : List Place) : Option (TagName × List Place) := do
  let (name, ps) ← readTagName ps
  if endsWord (nextChar ps) ∨ (inFlow ∧ nextChar ps = ',') then some (name, ps) else none

/-! ## Directives -/

/-- A part of a version number, of nine digits at most. -/
def readVersionNumber (ps : List Place) : Option (Nat × List Place) :=
  let (digits, ps) := spanChars Char.isDigit ps
  if digits ≠ [] ∧ digits.length ≤ 9 then some (Nat.ofDigitChars 10 digits 0, ps) else none

def readVersion (ps : List Place) : Option (Token × List Place) := do
  let (major, ps) ← readVersionNumber ps
  if nextChar ps ≠ '.' then none
  let (minor, ps) ← readVersionNumber (ps.drop 1)
  some (.version major minor, ps)

def readTagDirective (ps : List Place) : Option (Token × List Place) := do
  if nextChar ps ≠ '!' then none
  let (handle, ps) ← match readHandle (ps.drop 1) with
    | (name, true, ps) => some (namedHandle name, ps)
    | ([], false, ps) => some (['!'], ps)
    | _ => none
  if !isBlank (nextChar ps) then none
  let (uri, ps) ← readUri true (skipBlanks ps)
  if uri ≠ [] ∧ endsWord (nextChar ps) then some (.tagDirective handle uri, ps) else none

/-- A directive after its percent sign, with the rest of its line. -/
def readDirective (ps : List Place) : Option (Token × List Place) := do
  let (name, ps) := spanChars isNameChar ps
  if !endsWord (nextChar ps) then none
  let (token, ps) ← match String.ofList name with
    | "YAML" => readVersion (skipBlanks ps)
    | "TAG" => readTagDirective (skipBlanks ps)
    | _ => none
  some (token, ← skipRestOfLine ps)

end BookFinder.Yaml

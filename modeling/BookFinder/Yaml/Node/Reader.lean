import BookFinder.Yaml.Node

/-! # From tokens to nodes

The number of an anchor counts the names that anchors before it have, and an alias takes the number
that its name was given last before it.
-/

namespace BookFinder.Yaml.Node

structure Rest where
  tokens : List Token
  anchors : List (List Char × Nat) := []

abbrev Handles := List (List Char × List Char)

abbrev Reader := StateT Rest Option

def peek : Reader (Option Token) := return (← get).tokens.head?

def skip : Reader Unit := modify fun rest => { rest with tokens := rest.tokens.drop 1 }

/-- Skips the next token if it is `token`, and says whether it was. -/
def accept (token : Token) : Reader Bool := do
  if (← peek) == some token then
    skip
    return true
  return false

def expect (token : Token) : Reader Unit := do
  if ← accept token then return
  failure

def isNext (tokens : List Token) : Reader Bool := return (← peek).any tokens.contains

/-! ## Properties -/

def tagText (handles : Handles) : TagName → Option (List Char)
  | .nonSpecific => some ['!']
  | .verbatim uri => some uri
  | .shorthand handle suffix => (handles.lookup handle).map (· ++ suffix)

def readAnchor : Reader (Option Nat) := do
  match ← peek with
  | some (.anchor name) =>
    let anchors := (← get).anchors
    let number := anchors.length
    skip
    modify fun rest => { rest with anchors := (name, number) :: anchors.filter (·.1 != name) }
    return some number
  | _ => return none

def readTag (handles : Handles) : Reader (Option (List Char)) := do
  match ← peek with
  | some (.tag name) =>
    skip
    return some (← tagText handles name)
  | _ => return none

def readProperties (handles : Handles) : Reader (Option Nat × Option (List Char)) := do
  let first ← readAnchor
  let tag ← readTag handles
  let second ← if first.isSome then pure none else readAnchor
  return (first.or second, tag)

/-! ## Content -/

/-- Where a node stands. After a key or a colon, items need not be indented. -/
inductive Position where
  | inFlow
  | inBlock
  | afterKey
deriving DecidableEq, Repr

def absent : Node := .scalar none ⟨.plain, none, []⟩

/-- A scalar that is written. The tag that only says that its style decides says nothing. -/
def scalarNode (anchor : Option Nat) (tag : Option (List Char)) (style : Style) (text : List Char) :
    Node :=
  .scalar anchor ⟨style, if tag = some ['!'] then none else tag, text⟩

mutual

def readNode (handles : Handles) : (fuel : Nat) → Position → Reader Node
  | 0, _ => failure
  | fuel + 1, position => do
    match ← peek with
    | some (.reference name) =>
      skip
      return .reference (← (← get).anchors.lookup name)
    | _ =>
      let (anchor, tag) ← readProperties handles
      match ← peek, position with
      | some (.scalar style text), _ =>
        skip
        return scalarNode anchor tag style text
      | some .flowSequenceStart, _ =>
        skip
        return .sequence anchor (← readFlowItems handles fuel true)
      | some .flowMappingStart, _ =>
        skip
        return .mapping anchor (← readFlowEntries handles fuel true)
      | some .item, .afterKey => return .sequence anchor (← readBareItems handles fuel)
      | token, position =>
        if token = some .sequenceStart ∧ position ≠ .inFlow then
          skip
          return .sequence anchor (← readItems handles fuel)
        else if token = some .mappingStart ∧ position ≠ .inFlow then
          skip
          return .mapping anchor (← readEntries handles fuel)
        else if anchor.isSome ∨ tag.isSome then return .scalar anchor ⟨.plain, tag, []⟩
        else failure

/-- A node, which is absent before one of the tokens `stops`. -/
def readNodeBefore (handles : Handles) : (fuel : Nat) → Position → (stops : List Token) → Reader Node
  | 0, _, _ => failure
  | fuel + 1, position, stops => do
    if ← isNext stops then return absent
    readNode handles fuel position

def readValue (handles : Handles) : (fuel : Nat) → Position → (stops : List Token) → Reader Node
  | 0, _, _ => failure
  | fuel + 1, position, stops => do
    if ← accept .value then readNodeBefore handles fuel position stops
    else return absent

def readItems (handles : Handles) : (fuel : Nat) → Reader (List Node)
  | 0 => failure
  | fuel + 1 => do
    if ← accept .item then
      let item ← readNodeBefore handles fuel .inBlock [.item, .blockEnd]
      return item :: (← readItems handles fuel)
    else if ← accept .blockEnd then return []
    else failure

/-- The items of a sequence that is indented like the key before it. -/
def readBareItems (handles : Handles) : (fuel : Nat) → Reader (List Node)
  | 0 => failure
  | fuel + 1 => do
    if ← accept .item then
      let item ← readNodeBefore handles fuel .inBlock [.item, .key, .value, .blockEnd]
      return item :: (← readBareItems handles fuel)
    else return []

def readEntries (handles : Handles) : (fuel : Nat) → Reader (List (Node × Node))
  | 0 => failure
  | fuel + 1 => do
    if ← accept .key then
      let key ← readNodeBefore handles fuel .afterKey [.key, .value, .blockEnd]
      let value ← readValue handles fuel .afterKey [.key, .value, .blockEnd]
      return (key, value) :: (← readEntries handles fuel)
    else if ← accept .blockEnd then return []
    else failure

/-- The items between brackets; a pair among them is a mapping. -/
def readFlowItems (handles : Handles) : (fuel : Nat) → (first : Bool) → Reader (List Node)
  | 0, _ => failure
  | fuel + 1, first => do
    if ← accept .flowSequenceEnd then return []
    if !first then expect .comma
    if ← accept .flowSequenceEnd then return []
    let item ← if ← accept .key then readPair handles fuel else readNode handles fuel .inFlow
    return item :: (← readFlowItems handles fuel false)

/-- A pair between brackets after the mark of its key. Where the key is absent, the token after the
mark is left out. -/
def readPair (handles : Handles) : (fuel : Nat) → Reader Node
  | 0 => failure
  | fuel + 1 => do
    let key ←
      if ← isNext [.value, .comma, .flowSequenceEnd] then
        skip
        pure absent
      else readNode handles fuel .inFlow
    return .mapping none [(key, ← readValue handles fuel .inFlow [.comma, .flowSequenceEnd])]

/-- The entries between braces. -/
def readFlowEntries (handles : Handles) : (fuel : Nat) → (first : Bool) → Reader (List (Node × Node))
  | 0, _ => failure
  | fuel + 1, first => do
    if ← accept .flowMappingEnd then return []
    if !first then expect .comma
    if ← accept .flowMappingEnd then return []
    let entry ←
      if ← accept .key then
        let key ← readNodeBefore handles fuel .inFlow [.value, .comma, .flowMappingEnd]
        pure (key, ← readValue handles fuel .inFlow [.comma, .flowMappingEnd])
      else pure (← readNode handles fuel .inFlow, absent)
    return entry :: (← readFlowEntries handles fuel false)

end

/-- Reads one node. Every node takes a token, and no more than four calls lead from one token to the
next, so that four times their number is fuel enough. -/
def read (handles : Handles) (tokens : List Token) : Option (Node × List Token) :=
  ((readNode handles (4 * tokens.length + 4) .inBlock).run { tokens }).map fun (node, rest) =>
    (node, rest.tokens)

end BookFinder.Yaml.Node

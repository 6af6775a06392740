import BookFinder.Json.Basic
import BookFinder.Text.Hex

/-! # Reading JSON

A text is one value with white space around it. Every function that reads a part of the text
returns what it read and the text after it, and fails when no such part stands there.
-/

namespace BookFinder.Json

def isBlank (c : Char) : Bool := c == ' ' || c == '\n' || c == '\r' || c == '\t'

def skipBlank (cs : List Char) : List Char := cs.dropWhile isBlank

/-! ## Strings -/

def readHex4 : List Char → Option Nat
  | a :: b :: c :: d :: _ => do
    let a ← Text.hexValue a
    let b ← Text.hexValue b
    let c ← Text.hexValue c
    let d ← Text.hexValue d
    some (((a * 16 + b) * 16 + c) * 16 + d)
  | _ => none

/-- The character of an escape, and how many characters it takes after its backslash. Outside the
basic plane a character is written as two escapes; half of such a pair is no character. -/
def readEscape : List Char → Option (Char × Nat)
  | '"' :: _ => some ('"', 1)
  | '\\' :: _ => some ('\\', 1)
  | '/' :: _ => some ('/', 1)
  | 'b' :: _ => some ('\x08', 1)
  | 'f' :: _ => some ('\x0c', 1)
  | 'n' :: _ => some ('\n', 1)
  | 'r' :: _ => some ('\r', 1)
  | 't' :: _ => some ('\t', 1)
  | 'u' :: cs => do
    let n ← readHex4 cs
    if 0xD800 ≤ n ∧ n < 0xDC00 then
      match cs.drop 4 with
      | '\\' :: 'u' :: rest =>
        let m ← readHex4 rest
        if 0xDC00 ≤ m ∧ m < 0xE000 then
          some (Char.ofNat (0x10000 + (n - 0xD800) * 0x400 + (m - 0xDC00)), 11)
        else none
      | _ => none
    else if 0xDC00 ≤ n ∧ n < 0xE000 then none
    else some (Char.ofNat n, 5)
  | _ => none

/-- The rest of a string literal after its opening quote. The first `skip` characters belong to an
escape that has been read. -/
def readStringAfter : (skip : Nat) → List Char → Option (List Char × List Char)
  | _, [] => none
  | skip + 1, _ :: cs => readStringAfter skip cs
  | 0, c :: cs =>
    if c = '"' then some ([], cs)
    else if c = '\\' then
      match readEscape cs with
      | some (e, length) => (readStringAfter length cs).map fun (s, rest) => (e :: s, rest)
      | none => none
    else if c.toNat < 0x20 then none
    else (readStringAfter 0 cs).map fun (s, rest) => (c :: s, rest)

def readString (cs : List Char) : Option (String × List Char) :=
  (readStringAfter 0 cs).map fun (s, rest) => (String.ofList s, rest)

/-- How many characters an escape takes after its backslash, be it a character or not. -/
def escapeLength : List Char → Option Nat
  | 'u' :: cs => (readHex4 cs).map fun _ => 5
  | mark :: _ => if ['"', '\\', '/', 'b', 'f', 'n', 'r', 't'].contains mark then some 1 else none
  | [] => none

/-- The text after a string literal, the first `skip` characters of which belong to an escape. -/
def skipStringAfter : (skip : Nat) → List Char → Option (List Char)
  | _, [] => none
  | skip + 1, _ :: cs => skipStringAfter skip cs
  | 0, c :: cs =>
    if c = '"' then some cs
    else if c = '\\' then
      match escapeLength cs with
      | some length => skipStringAfter length cs
      | none => none
    else if c.toNat < 0x20 then none
    else skipStringAfter 0 cs

/-- A string literal that is a text, or one that can only be passed over. -/
def readLiteral (cs : List Char) : Option (Option String × List Char) :=
  match readString cs with
  | some (s, rest) => some (some s, rest)
  | none => (skipStringAfter 0 cs).map fun rest => (none, rest)

/-! ## Numbers -/

def readDigits (cs : List Char) : Option (List Char × List Char) :=
  match cs.takeWhile Char.isDigit with
  | [] => none
  | digits => some (digits, cs.dropWhile Char.isDigit)

/-- The digits before the point, where a zero stands alone. -/
def readWhole : List Char → Option (List Char × List Char)
  | '0' :: cs => some (['0'], cs)
  | cs => readDigits cs

def readFraction : List Char → Option (List Char × List Char)
  | '.' :: cs => (readDigits cs).map fun (digits, rest) => ('.' :: digits, rest)
  | cs => some ([], cs)

def readExponent : List Char → Option (List Char × List Char)
  | [] => some ([], [])
  | e :: cs =>
    if e = 'e' ∨ e = 'E' then
      match cs with
      | '+' :: rest => (readDigits rest).map fun (digits, rest) => (e :: '+' :: digits, rest)
      | '-' :: rest => (readDigits rest).map fun (digits, rest) => (e :: '-' :: digits, rest)
      | rest => (readDigits rest).map fun (digits, rest) => (e :: digits, rest)
    else some ([], e :: cs)

def readUnsigned (cs : List Char) : Option (List Char × List Char) := do
  let (whole, cs) ← readWhole cs
  let (fraction, cs) ← readFraction cs
  let (exponent, cs) ← readExponent cs
  some (whole ++ fraction ++ exponent, cs)

def readNumber : List Char → Option (List Char × List Char)
  | '-' :: cs => (readUnsigned cs).map fun (literal, rest) => ('-' :: literal, rest)
  | cs => readUnsigned cs

/-! ## Values -/

def readWord (word : String) (value : Json) (cs : List Char) : Option (Json × List Char) :=
  if word.toList.isPrefixOf cs then some (value, cs.drop word.length) else none

mutual

def readValue : (fuel : Nat) → List Char → Option (Json × List Char)
  | 0, _ => none
  | fuel + 1, cs =>
    match skipBlank cs with
    | '\x7b' :: rest =>
      match skipBlank rest with
      | '\x7d' :: rest => some (object [], rest)
      | rest => (readMembers fuel rest).map fun (members, rest) => (ofMembers members, rest)
    | '[' :: rest =>
      match skipBlank rest with
      | ']' :: rest => some (array [], rest)
      | rest => (readItems fuel rest).map fun (items, rest) => (array items, rest)
    | '"' :: rest => (readLiteral rest).map fun (s, rest) => (ofText s, rest)
    | 't' :: rest => readWord "true" (bool true) ('t' :: rest)
    | 'f' :: rest => readWord "false" (bool false) ('f' :: rest)
    | 'n' :: rest => readWord "null" null ('n' :: rest)
    | rest => (readNumber rest).map fun (literal, rest) => (number (String.ofList literal), rest)

def readItems : (fuel : Nat) → List Char → Option (List Json × List Char)
  | 0, _ => none
  | fuel + 1, cs => do
    let (item, cs) ← readValue fuel cs
    match skipBlank cs with
    | ',' :: rest =>
      let (items, rest) ← readItems fuel rest
      some (item :: items, rest)
    | ']' :: rest => some ([item], rest)
    | _ => none

def readMembers : (fuel : Nat) → List Char → Option (List (Option String × Json) × List Char)
  | 0, _ => none
  | fuel + 1, cs =>
    match skipBlank cs with
    | '"' :: cs => do
      let (name, cs) ← readLiteral cs
      match skipBlank cs with
      | ':' :: cs =>
        let (value, cs) ← readValue fuel cs
        match skipBlank cs with
        | ',' :: rest =>
          let (members, rest) ← readMembers fuel rest
          some ((name, value) :: members, rest)
        | '\x7d' :: rest => some ([(name, value)], rest)
        | _ => none
      | _ => none
    | _ => none

end

/-- Reads a text that is one value. Each value, item and member takes at least one character, so
that the length of the text is fuel enough. -/
def readChars (cs : List Char) : Option Json :=
  match readValue (cs.length + 1) cs with
  | some (value, rest) => if (skipBlank rest).isEmpty then some value else none
  | none => none

def read (text : String) : Option Json := readChars text.toList

end BookFinder.Json

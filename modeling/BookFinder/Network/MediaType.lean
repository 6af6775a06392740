/-! # Media types

A type and a subtype, and parameters after semicolons. A parameter has a name and a value, which is a
token or stands in quotes.
-/

namespace BookFinder.Network.MediaType

def isTokenChar (c : Char) : Bool := c.isAlphanum || "!#$%&'*+-.^_\x60|~".toList.contains c

def isQuotable (c : Char) : Bool := 0x20 ≤ c.toNat && c.toNat != 0x7F

inductive Place where
  | start
  | name (read : List Char)
  | value (name read : List Char)
  | quoted (name read : List Char)
  | afterQuote
deriving DecidableEq, Repr

structure Reader where
  place : Place := .start
  parameters : List (List Char × List Char) := []

def Reader.add (reader : Reader) (name value : List Char) (place : Place) : Reader :=
  { place, parameters := reader.parameters ++ [(name, value)] }

def Reader.step (reader : Reader) (c : Char) : Option Reader :=
  match reader.place with
  | .start =>
    if c = ' ' then some reader
    else if isTokenChar c then some { reader with place := .name [c] }
    else none
  | .name read =>
    if c = '=' then some { reader with place := .value read [] }
    else if isTokenChar c then some { reader with place := .name (read ++ [c]) }
    else none
  | .value name [] =>
    if c = '"' then some { reader with place := .quoted name [] }
    else if isTokenChar c then some { reader with place := .value name [c] }
    else none
  | .value name read =>
    if c = ';' then some (reader.add name read .start)
    else if isTokenChar c then some { reader with place := .value name (read ++ [c]) }
    else none
  | .quoted name read =>
    if c = '"' ∧ read ≠ [] then some (reader.add name read .afterQuote)
    else if isQuotable c then some { reader with place := .quoted name (read ++ [c]) }
    else none
  | .afterQuote =>
    if c = ';' then some { reader with place := .start }
    else if c = ' ' then some reader
    else none

/-- The parameters that have been read, if the text may end here. -/
def Reader.finish (reader : Reader) : Option (List (List Char × List Char)) :=
  match reader.place with
  | .start => some reader.parameters
  | .value name read => some (reader.add name read .start).parameters
  | .afterQuote => some reader.parameters
  | .name _ => none
  | .quoted _ _ => none

def parameters (cs : List Char) : Option (List (List Char × List Char)) :=
  let type := cs.takeWhile isTokenChar
  match cs.dropWhile isTokenChar with
  | '/' :: rest =>
    if type.isEmpty then none
    else match rest.dropWhile isTokenChar with
      | [] => some []
      | ';' :: tail =>
        if (rest.takeWhile isTokenChar).isEmpty then none
        else (tail.foldlM Reader.step {}).bind Reader.finish
      | _ => none
  | _ => none

end BookFinder.Network.MediaType

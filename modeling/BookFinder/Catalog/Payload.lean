import BookFinder.Catalog.Basic
import BookFinder.Json.Printer
import BookFinder.Json.Reader
import BookFinder.Text.Blank
import BookFinder.Text.Digits

/-! # Payloads of the catalog

A record is an object of strings, or an array of its first fields in order; a page is an object
with `total` and `books`, or an array of the two. What is missing has its default, what is not
known is ignored, and what is known may occur once.
-/

namespace BookFinder.Catalog

/-- A string member of an object, empty if absent. -/
def stringMember (names : List String) (members : List (String × Json)) : Option String :=
  match Json.lookup names members with
  | .absent => some ""
  | .present (.string s) => some s
  | .present _ => none
  | .repeated => none

def stringItems : List Json → Option (List String)
  | [] => some []
  | .string s :: items => (stringItems items).map (s :: ·)
  | _ => none

def Record.ofItems : List String → Option Record
  | [] => some {}
  | [title] => some { title }
  | [title, subtitle] => some { title, subtitle }
  | [title, subtitle, image] => some { title, subtitle, image }
  | [title, subtitle, image, isbn] => some { title, subtitle, image, isbn }
  | [title, subtitle, image, isbn, price] => some { title, subtitle, image, isbn, price }
  | [title, subtitle, image, isbn, price, url] => some { title, subtitle, image, isbn, price, url }
  | _ => none

def Record.ofJson : Json → Option Record
  | .object members => do
    some {
      title := ← stringMember ["title"] members
      subtitle := ← stringMember ["subtitle"] members
      image := ← stringMember ["image"] members
      isbn := ← stringMember ["isbn", "isbn13"] members
      price := ← stringMember ["price"] members
      url := ← stringMember ["url"] members }
  | .array items => (stringItems items).bind Record.ofItems
  | _ => none

def Record.toJson (record : Record) : Json :=
  .object [("title", .string record.title), ("subtitle", .string record.subtitle),
    ("image", .string record.image), ("isbn", .string record.isbn),
    ("price", .string record.price), ("url", .string record.url)]

def Record.read (payload : String) : Option Record := (Json.read payload).bind Record.ofJson

/-- A count below `2 ^ 64` is a JSON number of digits alone, or a text that is blank, which means 0,
or holds digits after an optional plus sign, with white space around them. -/
def countOfJson : Json → Option UInt64
  | .number literal => (Text.readDigitsBelow UInt64.size literal.toList).map UInt64.ofNat
  | .string s =>
    let digits := Text.trim s.toList
    if digits.isEmpty then some 0
    else (Text.readBelow UInt64.size digits).map UInt64.ofNat
  | _ => none

def recordsOfJson : Json → Option (List Record)
  | .array items => items.mapM Record.ofJson
  | _ => none

def memberOr {α : Type} (default : α) (read : Json → Option α) (name : String)
    (members : List (String × Json)) : Option α :=
  match Json.lookup [name] members with
  | .absent => some default
  | .present value => read value
  | .repeated => none

def RemotePage.ofJson : Json → Option RemotePage
  | .object members => do
    some {
      total := ← memberOr 0 countOfJson "total" members
      records := ← memberOr [] recordsOfJson "books" members }
  | .array [] => some {}
  | .array [total] => do some { total := ← countOfJson total }
  | .array [total, books] => do
    some { total := ← countOfJson total, records := ← recordsOfJson books }
  | _ => none

def RemotePage.read (payload : String) : Option RemotePage :=
  (Json.read payload).bind RemotePage.ofJson

def RemotePage.toJson (page : RemotePage) : Json :=
  .object [("total", .ofNat page.total.toNat), ("books", .array (page.records.map Record.toJson))]

end BookFinder.Catalog

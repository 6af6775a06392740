import BookFinder.Catalog.Payload

/-! # Results of a search -/

namespace BookFinder.Search

open Catalog

/-- What callers see of a book. -/
structure BookSummary where
  title : String
  subtitle : String
  image : String
deriving DecidableEq, Repr

def BookSummary.ofRecord (record : Record) : BookSummary :=
  { title := record.title, subtitle := record.subtitle, image := record.image }

/-- One page of results. No pages at all means that nothing matched. -/
structure ResultPage where
  totalPages : UInt32 := 0
  books : List BookSummary := []
deriving DecidableEq, Repr

def ResultPage.isEmpty (page : ResultPage) : Bool := page.books.isEmpty

def ResultPage.ofRecords (totalPages : UInt32) (records : List Record) : ResultPage :=
  { totalPages, books := records.map BookSummary.ofRecord }

/-! ## JSON form

All members are required; the array form lists all of them.
-/

def BookSummary.toJson (book : BookSummary) : Json :=
  .object [("title", .string book.title), ("subtitle", .string book.subtitle),
    ("image", .string book.image)]

def ResultPage.toJson (page : ResultPage) : Json :=
  .object [("totalPage", .ofNat page.totalPages.toNat),
    ("books", .array (page.books.map BookSummary.toJson))]

def requiredMember {α : Type} (read : Json → Option α) (name : String)
    (members : List (String × Json)) : Option α :=
  match Json.lookup [name] members with
  | .present value => read value
  | .absent => none
  | .repeated => none

def stringOfJson : Json → Option String
  | .string s => some s
  | _ => none

def BookSummary.ofJson : Json → Option BookSummary
  | .object members => do
    some {
      title := ← requiredMember stringOfJson "title" members
      subtitle := ← requiredMember stringOfJson "subtitle" members
      image := ← requiredMember stringOfJson "image" members }
  | .array [title, subtitle, image] => do
    some {
      title := ← stringOfJson title
      subtitle := ← stringOfJson subtitle
      image := ← stringOfJson image }
  | _ => none

def pageNumberOfJson : Json → Option UInt32
  | .number literal =>
    (Text.readNat literal.toList).bind fun n =>
      if n < UInt32.size then some (UInt32.ofNat n) else none
  | _ => none

def booksOfJson : Json → Option (List BookSummary)
  | .array items => items.mapM BookSummary.ofJson
  | _ => none

def ResultPage.ofJson : Json → Option ResultPage
  | .object members => do
    some {
      totalPages := ← requiredMember pageNumberOfJson "totalPage" members
      books := ← requiredMember booksOfJson "books" members }
  | .array [totalPages, books] => do
    some { totalPages := ← pageNumberOfJson totalPages, books := ← booksOfJson books }
  | _ => none

def ResultPage.read (text : String) : Option ResultPage :=
  (Json.read text).bind ResultPage.ofJson

end BookFinder.Search

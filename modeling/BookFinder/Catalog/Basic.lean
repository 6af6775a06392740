import BookFinder.Catalog.Error
import BookFinder.Catalog.Record

/-! # Catalogs

A catalog answers one keyword and one page at a time. What matters of its answer besides the page
is when it comes: an answer without delay is there before the next question can be asked.
-/

namespace BookFinder.Catalog

structure Answer where
  /-- Milliseconds from the question to the answer. -/
  delay : Nat := 0
  result : Except CatalogError RemotePage

structure Call where
  keyword : String
  page : UInt32
deriving DecidableEq, Repr

end Catalog

/-- A catalog as what it answers to each keyword and page. -/
abbrev Catalog := String → UInt32 → Catalog.Answer

end BookFinder

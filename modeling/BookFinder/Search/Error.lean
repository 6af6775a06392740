import BookFinder.Catalog.Error
import BookFinder.Query.Error

/-! # Failures of a search -/

namespace BookFinder.Search

inductive SearchError where
  /-- The keyword or the page is missing or blank. -/
  | incomplete
  | invalidQuery (cause : Query.QueryError)
  /-- The catalog failed. The cause is for the log and no part of the message. -/
  | unavailable (cause : Catalog.CatalogError)
deriving DecidableEq, Repr

def SearchError.message : SearchError → String
  | incomplete => "search and page are required"
  | invalidQuery cause => "invalid query: " ++ cause.message
  | unavailable _ => "catalog search failed"

/-- Whether the caller is at fault and not the catalog. -/
def SearchError.isCallersFault : SearchError → Bool
  | incomplete => true
  | invalidQuery _ => true
  | unavailable _ => false

end BookFinder.Search

import BookFinder.Catalog.Error
import BookFinder.Log.Level

/-! # Events that a search reports while it runs -/

namespace BookFinder.Search

inductive Event where
  | noResults (keyword : String)
  | overLimit (pages : UInt32) (wanted : String) (limit : UInt32)
  | fetchingMore (count : UInt32) (wanted : String)
  | recordsLeft (count : Nat) (wanted unwanted : String)
  | succeeded (display : String) (page : UInt32) (books : Nat) (totalPages : UInt32)
  | failed (display : String) (page : UInt32) (cause : Catalog.CatalogError)
deriving DecidableEq, Repr

def Event.level : Event → LogLevel
  | noResults _ => .debug
  | overLimit _ _ _ => .warn
  | fetchingMore _ _ => .debug
  | recordsLeft _ _ _ => .debug
  | succeeded _ _ _ _ => .info
  | failed _ _ _ => .warn

def Event.message : Event → String
  | noResults keyword => "No catalog results for '" ++ keyword ++ "'"
  | overLimit pages wanted limit =>
    "Catalog reports " ++ toString pages ++ " pages for '" ++ wanted ++ "', limit is " ++
      toString limit
  | fetchingMore count wanted => "Fetching " ++ toString count ++ " more pages for '" ++ wanted ++ "'"
  | recordsLeft count wanted unwanted =>
    toString count ++ " records left for '" ++ wanted ++ "' after excluding '" ++ unwanted ++ "'"
  | succeeded display page books totalPages =>
    "Search '" ++ display ++ "' page " ++ toString page ++ " returned " ++ toString books ++
      " books of " ++ toString totalPages ++ " pages"
  | failed display page cause =>
    "Search '" ++ display ++ "' page " ++ toString page ++ " failed upstream: " ++ cause.message

end BookFinder.Search

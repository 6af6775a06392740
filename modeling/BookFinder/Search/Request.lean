import BookFinder.Query.Page
import BookFinder.Search.Run

/-! # Searching with what a caller wrote

The arguments are checked before the catalog is asked: first that both are there, then the page,
then the keyword.
-/

namespace BookFinder.Search

open Query

structure Request where
  keyword : String
  page : UInt32
deriving DecidableEq, Repr

/-- The request in two arguments that are not blank. -/
def Request.ofArguments (keyword page : String) : Except SearchError Request :=
  if Text.isBlankText keyword.toList || Text.isBlankText page.toList then .error .incomplete
  else match parsePage page with
    | .ok number => .ok { keyword, page := number }
    | .error cause => .error (.invalidQuery cause)

def search (catalog : Catalog) (limit : UInt32) (keyword page : String) : Run :=
  match Request.ofArguments keyword page with
  | .error error => { outcome := .error error }
  | .ok request =>
    match Expression.parse request.keyword with
    | .error cause => { outcome := .error (.invalidQuery cause) }
    | .ok expression => execute catalog limit expression request.page

def defaultLimit : UInt32 := 100

end BookFinder.Search

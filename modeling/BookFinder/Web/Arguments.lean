import BookFinder.Text.FormUrlencoded

/-! # Arguments of a search request

The two arguments of a search come from the segments of the path or from the query string.
-/

namespace BookFinder.Web

inductive Argument where
  | search
  | page
deriving DecidableEq, Repr

def Argument.name : Argument → String
  | search => "search"
  | page => "page"

inductive ArgumentError where
  /-- A path segment that is no UTF-8. -/
  | notUtf8 (argument : Argument)
  /-- A query string that gives an argument twice. -/
  | repeated (argument : Argument)
deriving DecidableEq, Repr

def ArgumentError.message : ArgumentError → String
  | notUtf8 argument => "Invalid URL: Invalid UTF-8 in \x60" ++ argument.name ++ "\x60"
  | repeated argument =>
    "Failed to deserialize query string: duplicate field \x60" ++ argument.name ++ "\x60"

structure Arguments where
  search : String
  page : String

open Text

def Arguments.ofPath (search page : List Char) : Except ArgumentError Arguments :=
  match Percent.decode? search, Percent.decode? page with
  | none, _ => .error (.notUtf8 .search)
  | some _, none => .error (.notUtf8 .page)
  | some s, some p => .ok { search := String.ofList s, page := String.ofList p }

def Argument.ofKey (key : List Char) : Option Argument :=
  if key = Argument.search.name.toList then some .search
  else if key = Argument.page.name.toList then some .page
  else none

/-- The arguments among the pairs of a query string, after those that have been found. Other keys are
ignored, and an argument that is missing is empty. -/
def Arguments.ofPairs (search page : Option (List Char)) :
    List (List Char × List Char) → Except ArgumentError Arguments
  | [] => .ok {
      search := String.ofList (search.getD [])
      page := String.ofList (page.getD []) }
  | (key, value) :: pairs =>
    match Argument.ofKey key with
    | some .search =>
      if search.isSome then .error (.repeated .search) else ofPairs (some value) page pairs
    | some .page =>
      if page.isSome then .error (.repeated .page) else ofPairs search (some value) pairs
    | none => ofPairs search page pairs

def Arguments.ofQuery (query : List Char) : Except ArgumentError Arguments :=
  ofPairs none none (FormUrlencoded.decode query)

end BookFinder.Web

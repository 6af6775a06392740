import BookFinder.Text.Split
import BookFinder.Web.Arguments
import BookFinder.Web.Reply
import BookFinder.Web.Target

/-! # The web service

Two routes to a search and one to the state of the service. A route answers GET and HEAD, and any
site may use it.
-/

namespace BookFinder.Web

def version : String := "0.1.0"

structure Method where
  name : String
deriving DecidableEq, Repr

def isTokenChar (c : Char) : Bool := c.isAlphanum || "!#$%&'*+-.^_\x60|~".toList.contains c

def Method.parse (name : String) : Option Method :=
  if !name.isEmpty && name.toList.all isTokenChar then some { name } else none

structure Request where
  method : Method
  target : Target

def Request.parse (method target : String) : Option Request := do
  some { method := ← Method.parse method, target := ← Target.parse target }

inductive Route where
  /-- A search with its arguments in the query. -/
  | books
  /-- A search with its arguments in the path. -/
  | booksOf (search page : List Char)
  | health

def Route.ofPath (path : List Char) : Option Route :=
  match Text.splitAt (· == '/') path with
  | [[], first] =>
    if first = "books".toList then some .books
    else if first = "health".toList then some .health
    else none
  | [[], first, search, page] =>
    if first = "books".toList ∧ page ≠ [] then some (.booksOf search page) else none
  | _ => none

def replyToSearch (find : String → String → Search.Run) :
    Except ArgumentError Arguments → Reply
  | .ok arguments => .ofRun (find arguments.search arguments.page)
  | .error error => .text 400 error.message

def health : Json := .object [("status", .string "ok"), ("version", .string version)]

def Route.reply (find : String → String → Search.Run) (query : List Char) : Route → Reply
  | books => replyToSearch find (Arguments.ofQuery query)
  | booksOf search page => replyToSearch find (Arguments.ofPath search page)
  | health => .json 200 Web.health

def allowHeader : String × String := ("allow", "GET,HEAD")

/-- The reply to a browser that asks beforehand what it may send. -/
def preflight (route : Option Route) : Reply :=
  { status := 200
    headers := [("access-control-allow-methods", "*"), ("access-control-allow-headers", "*")] ++
      if route.isSome then [allowHeader] else [] }

def respond (find : String → String → Search.Run) (request : Request) : Reply :=
  let route := Route.ofPath request.target.path
  let reply : Reply :=
    if request.method.name = "OPTIONS" then preflight route
    else match route with
      | none => { status := 404 }
      | some route =>
        let answer := route.reply find (request.target.query.getD [])
        if request.method.name = "GET" then answer
        else if request.method.name = "HEAD" then { answer with body := "" }
        else { status := 405, headers := [allowHeader] }
  reply.allowAnyOrigin

end BookFinder.Web

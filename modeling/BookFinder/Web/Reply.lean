import BookFinder.Json.Printer
import BookFinder.Search.Run

/-! # Replies of the web service -/

namespace BookFinder.Web

structure Reply where
  status : Nat
  headers : List (String × String) := []
  body : String := ""
  /-- The questions that the request put to the catalog. -/
  calls : List Catalog.Call := []

namespace Reply

/-- Any site may read a reply. -/
def allowAnyOrigin (reply : Reply) : Reply :=
  { reply with headers := ("access-control-allow-origin", "*") :: reply.headers }

def json (status : Nat) (value : Json) (calls : List Catalog.Call := []) : Reply :=
  { status, headers := [("content-type", "application/json")], body := value.render, calls }

def text (status : Nat) (body : String) : Reply :=
  { status, headers := [("content-type", "text/plain; charset=utf-8")], body }

def ofRun (run : Search.Run) : Reply :=
  match run.outcome with
  | .ok page => json 200 page.toJson run.calls
  | .error error =>
    json (if error.isCallersFault then 400 else 502) (.object [("error", .string error.message)])
      run.calls

end Reply

end BookFinder.Web

import BookFinder.Query.Expression
import BookFinder.Search.Error
import BookFinder.Search.Event
import BookFinder.Search.FanOut
import BookFinder.Search.Result

/-! # Running a keyword expression against a catalog

A run is its outcome together with all that it did on the way: the questions that it put to the
catalog and the events that it reported.
-/

namespace BookFinder.Search

open Catalog Query

structure Run where
  outcome : Except SearchError ResultPage
  calls : List Call := []
  events : List Event := []

def Run.plain (catalog : Catalog) (keyword : String) (page : UInt32) : Run :=
  let calls := [⟨keyword, page⟩]
  match (catalog keyword page).result with
  | .error error => { outcome := .error (.unavailable error), calls }
  | .ok found =>
    if found.total = 0 then { outcome := .ok {}, calls, events := [.noResults keyword] }
    else { outcome := .ok (.ofRecords found.pageCount found.records), calls }

/-- The records that do not mention `unwanted`, whatever its case. -/
def withoutMentions (unwanted : String) (records : List Record) : List Record :=
  let term := Text.lower unwanted.toList
  records.filter (!·.mentions term)

def paginate (records : List Record) (page : UInt32) : ResultPage :=
  if records.isEmpty then {}
  else .ofRecords (pageCount records.length) (pageWindow page records)

/-- An exclusion learns from page 1 how many pages there are, fetches the others unless they are
more than `limit`, and paginates what the filter leaves. -/
def Run.excluding (catalog : Catalog) (wanted unwanted : String) (page limit : UInt32) : Run :=
  let ask := catalog wanted
  let first : List Call := [⟨wanted, 1⟩]
  match (ask 1).result with
  | .error error => { outcome := .error (.unavailable error), calls := first }
  | .ok head =>
    let pages := head.pageCount
    if head.total = 0 then { outcome := .ok {}, calls := first, events := [.noResults wanted] }
    else if limit < pages then
      { outcome := .error (.unavailable (.tooManyPages pages limit))
        calls := first
        events := [.overLimit pages wanted limit] }
    else
      let others := pagesAfterFirst pages
      let calls := first ++ (pagesAsked ask others).map (⟨wanted, ·⟩)
      let events := if others.isEmpty then [] else [Event.fetchingMore (pages - 1) wanted]
      match gather (others.map ask) with
      | .error error => { outcome := .error (.unavailable error), calls, events }
      | .ok rest =>
        let left := withoutMentions unwanted (head.records ++ rest.flatMap (·.records))
        { outcome := .ok (paginate left page)
          calls
          events := events ++ [.recordsLeft left.length wanted unwanted] }

def closingEvent (expression : Expression) (page : UInt32) :
    Except SearchError ResultPage → List Event
  | .ok found => [.succeeded expression.display page found.books.length found.totalPages]
  | .error (.unavailable cause) => [.failed expression.display page cause]
  | .error .incomplete => []
  | .error (.invalidQuery _) => []

def execute (catalog : Catalog) (limit : UInt32) (expression : Expression) (page : UInt32) : Run :=
  let run := match expression with
    | .plain keyword => Run.plain catalog keyword page
    | .excluding wanted unwanted => Run.excluding catalog wanted unwanted page limit
  { run with events := run.events ++ closingEvent expression page run.outcome }

end BookFinder.Search

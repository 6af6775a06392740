import BookFinder.Catalog.Basic

/-! # Asking for many pages at once

The questions are put in ascending page order, and the answers that take time are awaited together.
In a small round every answer counts when it comes: one that is there at once and fails ends the
round, so that no later page is asked, and else the first failure to arrive, or the lower page of
two that arrive together, is the failure of the round. In a large round the answers are taken in the
order of the questions: none counts before all earlier ones have come.
-/

namespace BookFinder.Search

open Catalog

def pagesAfterFirst (last : UInt32) : List UInt32 :=
  (List.range' 2 (last.toNat - 1)).map UInt32.ofNat

def smallRound : Nat := 30

def failsAtOnce (answer : Answer) : Bool :=
  answer.delay == 0 && answer.result matches .error _

def askedOfSmall (answer : UInt32 → Answer) : List UInt32 → List UInt32
  | [] => []
  | page :: pages =>
    if failsAtOnce (answer page) then [page] else page :: askedOfSmall answer pages

/-- As soon as one answer is awaited, a failure that is there at once waits for its turn. -/
def askedOfLarge (answer : UInt32 → Answer) : List UInt32 → List UInt32
  | [] => []
  | page :: pages =>
    if failsAtOnce (answer page) then [page]
    else if (answer page).delay = 0 then page :: askedOfLarge answer pages
    else page :: pages

def pagesAsked (answer : UInt32 → Answer) (pages : List UInt32) : List UInt32 :=
  if pages.length ≤ smallRound then askedOfSmall answer pages else askedOfLarge answer pages

/-- The failure that arrives first, with its delay; the earlier in the list of two that arrive
together. -/
def firstFailure : List Answer → Option (Nat × CatalogError)
  | [] => none
  | answer :: answers =>
    match answer.result, firstFailure answers with
    | .ok _, later => later
    | .error error, none => some (answer.delay, error)
    | .error error, some (delay, later) =>
      if delay < answer.delay then some (delay, later) else some (answer.delay, error)

/-- The failure of the lowest page that fails. -/
def lowestFailure : List Answer → Option CatalogError
  | [] => none
  | answer :: answers =>
    match answer.result with
    | .ok _ => lowestFailure answers
    | .error error => some error

def roundFailure (answers : List Answer) : Option CatalogError :=
  if answers.length ≤ smallRound then (firstFailure answers).map (·.2) else lowestFailure answers

def arrivedPages : List Answer → List RemotePage
  | [] => []
  | answer :: answers =>
    match answer.result with
    | .ok page => page :: arrivedPages answers
    | .error _ => arrivedPages answers

/-- What a round of questions gives: every page, or one failure. -/
def gather (answers : List Answer) : Except CatalogError (List RemotePage) :=
  match roundFailure answers with
  | some error => .error error
  | none => .ok (arrivedPages answers)

end BookFinder.Search

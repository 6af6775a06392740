import BookFinder.Catalog.Memory
import BookFinder.Proofs.Search.Calls

/-! # What a search reports

A run goes one of six ways, and each of them has events of its own. The last event says what the run
came to. -/

namespace BookFinder.Search

open Catalog Query

/-! ## Kinds of events -/

/-- An event without its details. -/
inductive EventKind where
  | noResults
  | overLimit
  | fetchingMore
  | recordsLeft
  | succeeded
  | failed
deriving DecidableEq, Repr

def Event.kind : Event → EventKind
  | noResults _ => .noResults
  | overLimit _ _ _ => .overLimit
  | fetchingMore _ _ => .fetchingMore
  | recordsLeft _ _ _ => .recordsLeft
  | succeeded _ _ _ _ => .succeeded
  | failed _ _ _ => .failed

section Course

variable {catalog : Catalog} {limit page : UInt32} {expression : Expression} {run : Run}

end Course

/-! ## The whole log -/

/-- Twelve volumes less three of them are on one page, which took two to be fetched. -/
example : (execute (Memory.catalog { books := fun series => (List.range 12).map (volume series) })
    100 (.excluding "Rust" "rust 1") 1).events =
      [.fetchingMore 1 "Rust", .recordsLeft 9 "Rust" "rust 1", .succeeded "Rust-rust 1" 1 9 1] := by
  decide +kernel

end BookFinder.Search

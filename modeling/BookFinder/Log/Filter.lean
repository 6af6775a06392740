import BookFinder.Log.Level
import BookFinder.Text.Blank
import BookFinder.Text.Digits
import BookFinder.Text.Split

/-! # Which log lines are shown

A filter is a list of directives such as `warn` or `books=debug`. Of the directives whose target a
line's target starts with, the longest decides, and of equal ones the last.
-/

namespace BookFinder

/-- Shows the lines of a target whose rank is at most `verbosity`. -/
structure LogDirective where
  target : List Char
  verbosity : Nat
deriving DecidableEq, Repr

namespace LogDirective

def readVerbosity (cs : List Char) : Option Nat :=
  match Text.readNatPlus cs with
  | some n => if n ≤ 5 then some n else none
  | none =>
    if cs.map Char.toLower = "off".toList then some 0
    else (LogLevel.ofWord cs).map LogLevel.rank

/-- The verbosity after a target: a word after an equals sign, or all if nothing follows. -/
def readSuffix : List Char → Option Nat
  | [] => some LogLevel.trace.rank
  | ['='] => some LogLevel.trace.rank
  | '=' :: cs => readVerbosity cs
  | _ => none

/-- What follows a condition on spans after its opening bracket. A list of fields stands in braces
and is not empty. -/
def afterSpan (cs : List Char) : Option (List Char) :=
  match cs.dropWhile fun c => c != ']' && c != '\x7b' with
  | ']' :: rest => some rest
  | '\x7b' :: rest =>
    match rest.takeWhile (· != '\x7d'), rest.dropWhile (· != '\x7d') with
    | _ :: _, '\x7d' :: ']' :: rest => some rest
    | _, _ => none
  | _ => none

/-- Letters, digits and marks that a target may start with; characters outside ASCII count as
letters. -/
def isTargetStart (c : Char) : Bool :=
  c.isAlphanum || 0x80 ≤ c.toNat || c == '-' || c == ':' || c == '_'

/-- Reads a directive: a verbosity, or a target with or without one. A directive with a condition on
spans shows no line outside of spans, and so is none here. -/
def read (cs : List Char) : Option (Option LogDirective) := do
  let cs := Text.trim cs
  if !cs.head?.any fun c => c == '[' || isTargetStart c then none
  let target := cs.takeWhile fun c => c != '=' && c != '['
  match cs.dropWhile fun c => c != '=' && c != '[' with
  | [] =>
    match readVerbosity target with
    | some verbosity => some (some { target := [], verbosity })
    | none => some (some { target, verbosity := LogLevel.trace.rank })
  | '[' :: rest =>
    let _ ← readSuffix (← afterSpan rest)
    some none
  | rest =>
    let verbosity ← readSuffix rest
    some (some { target, verbosity })

end LogDirective

abbrev LogFilter := List LogDirective

namespace LogFilter

def ofLevel (level : LogLevel) : LogFilter := [{ target := [], verbosity := level.rank }]

/-- Reads directives with commas between them. Without any, errors are shown. -/
def read (text : String) : Option LogFilter := do
  let parts := (Text.splitAt (· == ',') text.toList).filter (!·.isEmpty)
  let directives ← parts.mapM LogDirective.read
  some (if directives.isEmpty then ofLevel .error else directives.filterMap id)

def deciding (filter : LogFilter) (target : List Char) : Option LogDirective :=
  filter.foldl (fun best directive =>
    if directive.target.isPrefixOf target &&
        best.all (fun other => other.target.length ≤ directive.target.length) then
      some directive
    else best) none

def shows (filter : LogFilter) (target : String) (level : LogLevel) : Bool :=
  (filter.deciding target.toList).any fun directive => level.rank ≤ directive.verbosity

end LogFilter

end BookFinder

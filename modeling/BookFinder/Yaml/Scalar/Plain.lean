import BookFinder.Yaml.Scalar.Gap

/-! # Plain scalars -/

namespace BookFinder.Yaml

def isFlowMark (c : Char) : Bool := ",[]\x7b\x7d".toList.contains c

def endsPlain (inFlow : Bool) (c next : Char) : Bool :=
  c == endMark || (c == ':' && endsWord next) || (inFlow && isFlowMark c)

/-- The rest of a plain scalar after a gap, its text and where it ends. Between brackets and braces
its lines may start in any column, elsewhere in column `indent` or later. A colon may not touch a
mark of the flow style. -/
def readPlainAfter (inFlow : Bool) (indent : Nat) : Gap → List Place →
    Option (List Char × Gap × List Place)
  | _, [] => none
  | gap, p :: ps =>
    let next := nextChar ps
    if isBlank p.char then
      if !gap.isOnOneLine && p.column < indent && p.char == '\t' then none
      else readPlainAfter inFlow indent (gap.addBlank p.char) ps
    else if isBreak p.char then readPlainAfter inFlow indent (gap.addBreak p.char) ps
    else if !gap.text.isEmpty &&
        ((!inFlow && p.column < indent) || isBoundary (p :: ps) || p.char == '#') then
      some ([], gap, p :: ps)
    else if inFlow && p.char == ':' && (next == '?' || isFlowMark next) then none
    else if endsPlain inFlow p.char next then some ([], gap, p :: ps)
    else match readPlainAfter inFlow indent .none ps with
      | some (text, rest) => some (gap.text ++ p.char :: text, rest)
      | none => none

/-- A plain scalar, whether a line break follows it, and where it ends. -/
def readPlain (inFlow : Bool) (indent : Nat) (ps : List Place) :
    Option (List Char × Bool × List Place) :=
  match readPlainAfter inFlow indent .none ps with
  | some (text, gap, rest) => some (text, !gap.isOnOneLine, rest)
  | none => none

end BookFinder.Yaml

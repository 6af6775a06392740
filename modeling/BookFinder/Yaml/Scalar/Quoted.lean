import BookFinder.Text.Hex
import BookFinder.Yaml.Scalar.Gap

/-! # Quoted scalars

Between single quotes a quote is written twice. Between double quotes a backslash starts an escape;
before a line break it takes the break out.
-/

namespace BookFinder.Yaml

def namedEscape : Char → Option Char
  | '0' => some '\x00'
  | 'a' => some '\x07'
  | 'b' => some '\x08'
  | 't' => some '\t'
  | '\t' => some '\t'
  | 'n' => some '\n'
  | 'v' => some '\x0b'
  | 'f' => some '\x0c'
  | 'r' => some '\r'
  | 'e' => some '\x1b'
  | ' ' => some ' '
  | '"' => some '"'
  | '/' => some '/'
  | '\\' => some '\\'
  | 'N' => some '\u0085'
  | '_' => some '\u00a0'
  | 'L' => some '\u2028'
  | 'P' => some '\u2029'
  | _ => none

def escapeDigits : Char → Option Nat
  | 'x' => some 2
  | 'u' => some 4
  | 'U' => some 8
  | _ => none

/-- The number of exactly `count` hexadecimal digits at the head of the text. -/
def readHexDigits (count : Nat) (ps : List Place) : Option Nat :=
  if ps.length < count then none
  else (ps.take count).foldlM (fun n p => (Text.hexValue p.char).map (n * 16 + ·)) 0

def readEscape : List Place → Option (Char × Nat)
  | [] => none
  | p :: ps =>
    match namedEscape p.char with
    | some c => some (c, 1)
    | none => do
      let count ← escapeDigits p.char
      let n ← readHexDigits count ps
      if n.isValidChar then some (Char.ofNat n, count + 1) else none

/-- The rest of a scalar after its opening quote and a gap, where the first `skip` characters belong
to an escape that has been read. A document boundary may not stand in it. -/
def readQuotedAfter (quote : Char) : (skip : Nat) → Gap → List Place →
    Option (List Char × List Place)
  | _, _, [] => none
  | skip + 1, gap, _ :: ps => readQuotedAfter quote skip gap ps
  | 0, gap, p :: ps =>
    let c := p.char
    if isBlank c then readQuotedAfter quote 0 (gap.addBlank c) ps
    else if isBreak c then readQuotedAfter quote 0 (gap.addBreak c) ps
    else if c == endMark || isBoundary (p :: ps) then none
    else if c == quote && !(quote == '\'' && nextChar ps == quote) then some (gap.text, ps)
    else
      let continued :=
        if c == quote then (readQuotedAfter quote 1 .none ps).map fun (s, rest) => (quote :: s, rest)
        else if c == '\\' && quote == '"' then
          if isBreak (nextChar ps) then readQuotedAfter quote 1 (.breaksAfterEscape []) ps
          else match readEscape ps with
            | some (e, length) =>
              (readQuotedAfter quote length .none ps).map fun (s, rest) => (e :: s, rest)
            | none => none
        else (readQuotedAfter quote 0 .none ps).map fun (s, rest) => (c :: s, rest)
      continued.map fun (s, rest) => (gap.text ++ s, rest)

def readQuoted (quote : Char) (ps : List Place) : Option (List Char × List Place) :=
  readQuotedAfter quote 0 .none ps

end BookFinder.Yaml

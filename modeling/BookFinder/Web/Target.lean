import BookFinder.Text.Utf8

/-! # Request targets

A target is a path with or without a query, `*`, an absolute URL, or only a host. Of each, the path
and the query matter here; of a fragment nothing is kept.
-/

namespace BookFinder.Web

structure Target where
  /-- Empty for a target that is only a host. -/
  path : List Char
  query : Option (List Char) := none

namespace Target

/-- Targets are at most this many bytes long. -/
def maxLength : Nat := 65534

def isPathChar (c : Char) : Bool :=
  let n := c.toNat
  n == 0x21 || n == 0x22 || (0x24 ≤ n && n ≤ 0x3B) || n == 0x3D || (0x40 ≤ n && n ≤ 0x5F) ||
    0x61 ≤ n

def isQueryChar (c : Char) : Bool :=
  let n := c.toNat
  n == 0x21 || (0x24 ≤ n && n ≤ 0x3B) || n == 0x3D || 0x3F ≤ n

/-- A path and a query, the path `/` if there is none. -/
def ofPathAndQuery (cs : List Char) : Option Target :=
  let whole := cs.takeWhile (· != '#')
  let path := whole.takeWhile (· != '?')
  let rest := whole.dropWhile (· != '?')
  if path.all isPathChar && (rest.drop 1).all isQueryChar then
    some {
      path := if path.isEmpty then ['/'] else path
      query := if rest.isEmpty then none else some (rest.drop 1) }
  else none

/-! ## Absolute targets -/

def isSchemeChar (c : Char) : Bool := c.isAlphanum || c == '+' || c == '-' || c == '.'

/-- The scheme at the head of a text, and what follows its `://`. -/
def splitScheme (cs : List Char) : Option (List Char × List Char) :=
  let scheme := cs.takeWhile isSchemeChar
  match cs.drop scheme.length with
  | ':' :: '/' :: '/' :: rest => some (scheme, rest)
  | _ => none

def maxSchemeLength : Nat := 64

def isHostChar (c : Char) : Bool := c.isAlphanum || "!$&'()*+,-.;=_~".toList.contains c

structure HostScan where
  colons : Nat := 0
  opened : Bool := false
  closed : Bool := false
  percent : Bool := false
  /-- The last character was an `@`. -/
  afterAt : Bool := false

def HostScan.step (scan : HostScan) (c : Char) : Option HostScan :=
  let next := { scan with afterAt := false }
  if c = ':' then if scan.colons < 8 then some { next with colons := scan.colons + 1 } else none
  else if c = '[' then
    if scan.percent || scan.opened then none else some { next with opened := true }
  else if c = ']' then
    if !scan.opened || scan.closed then none
    else some { next with closed := true, colons := 0, percent := false }
  else if c = '@' then some { next with colons := 0, percent := false, afterAt := true }
  else if c = '%' then some { next with percent := true }
  else if isHostChar c then some next
  else none

def isHost (cs : List Char) : Bool :=
  match cs.foldlM HostScan.step {} with
  | none => false
  | some scan =>
    scan.opened == scan.closed && scan.colons ≤ 1 && !scan.afterAt && !scan.percent

def endsHost (c : Char) : Bool := c == '/' || c == '?' || c == '#'

def parse (text : String) : Option Target :=
  let cs := text.toList
  if maxLength < (Text.Utf8.encode cs).length then none
  else match cs with
    | [] => none
    | ['*'] => some { path := ['*'] }
    | '/' :: _ => ofPathAndQuery cs
    | _ =>
      match splitScheme cs with
      | none => if isHost cs then some { path := [] } else none
      | some (scheme, rest) =>
        let host := rest.takeWhile (!endsHost ·)
        if maxSchemeLength < scheme.length || host.isEmpty || !isHost host then none
        else ofPathAndQuery (rest.drop host.length)

end BookFinder.Web.Target

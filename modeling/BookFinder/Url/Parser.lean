import BookFinder.Url.Host
import BookFinder.Url.Segments

/-! # Reading absolute URLs

Space and controls around the text, and tabs and newlines inside it, do not count. In a URL with a
special scheme a backslash is a slash, and the slashes before the host may be missing.
-/

namespace BookFinder.Url

def isSpaceOrControl (c : Char) : Bool := c.toNat ≤ 0x20

def strip (cs : List Char) : List Char :=
  let front := cs.dropWhile isSpaceOrControl
  (front.reverse.dropWhile isSpaceOrControl).reverse.filter (!isTabOrNewline ·)

def isSchemeChar (c : Char) : Bool := c.isAlphanum || c == '+' || c == '-' || c == '.'

/-- The scheme at the head of a text, lowercased, and what follows its colon. -/
def readScheme (cs : List Char) : Option (List Char × List Char) :=
  match cs.head?, cs.dropWhile isSchemeChar with
  | some first, ':' :: rest =>
    if first.isAlpha then some ((cs.takeWhile isSchemeChar).map Char.toLower, rest) else none
  | _, _ => none

def isSlash (special : Bool) (c : Char) : Bool := c == '/' || (special && c == '\\')

/-- Characters that end the host with its user information and its TCP port. -/
def endsAuthority (special : Bool) (c : Char) : Bool := isSlash special c || c == '?' || c == '#'

/-! ## Parts before the path -/

def splitAtLastAt (cs : List Char) : Option (List Char × List Char) :=
  match Text.splitAt (· == '@') cs with
  | [] => none
  | [_] => none
  | parts => some (Text.joinWith '@' parts.dropLast, (parts.getLast?).getD [])

/-- The host at the head of a text; a colon between brackets is part of it. -/
def takeHost : (inBrackets : Bool) → List Char → List Char
  | _, [] => []
  | inBrackets, c :: cs =>
    if c = ':' ∧ !inBrackets then []
    else c :: takeHost (if c = '[' then true else if c = ']' then false else inBrackets) cs

/-- The number after the colon of a host; without digits there is none. -/
def readTcpPort (scheme : List Char) (cs : List Char) : Except UrlError (Option Nat) :=
  let (digits, rest) := cs.span Char.isDigit
  let n := Nat.ofDigitChars 10 digits 0
  if 65535 < n then .error .badPortNumber
  else match rest with
    | [] => .ok (if digits.isEmpty || defaultPort scheme == some n then none else some n)
    | _ :: _ => .error .badPortNumber

structure Authority where
  username : List Char := []
  password : List Char := []
  host : Host
  tcpPort : Option Nat := none

def readUserInfo (cs : List Char) : List Char × List Char :=
  let escape := Text.Percent.encode escapedInUserInfo
  (escape (cs.takeWhile (· != ':')), escape ((cs.dropWhile (· != ':')).drop 1))

def readAuthority (international : International) (scheme cs : List Char) :
    Except UrlError Authority := do
  let special := isSpecialScheme scheme
  let (username, password) := match splitAtLastAt cs with
    | some (info, _) => readUserInfo info
    | none => ([], [])
  let rest := match splitAtLastAt cs with
    | some (_, rest) => rest
    | none => cs
  let name := takeHost false rest
  let host ←
    if special && name.isEmpty then .error .emptyHost
    else if special then Host.parse international name
    else Host.parseOpaque name
  match rest.drop name.length with
  | [] =>
    if host = .named [] ∧ !(username.isEmpty && password.isEmpty) then .error .emptyHost
    else .ok { username, password, host }
  | _ :: digits =>
    if host = .named [] then .error .emptyHost
    else
      let tcpPort ← readTcpPort scheme digits
      .ok { username, password, host, tcpPort }

/-! ## Path, query and fragment -/

structure Tail where
  path : List Char
  query : Option (List Char) := none
  fragment : Option (List Char) := none

def after (mark : Char) (cs : List Char) : Option (List Char) :=
  match cs.dropWhile (· != mark) with
  | [] => none
  | _ :: rest => some rest

def readTail (special : Bool) (cs : List Char) : Tail :=
  let main := cs.takeWhile (· != '#')
  { path := main.takeWhile (· != '?')
    query := (after '?' main).map (Text.Percent.encode (escapedInQuery special))
    fragment := (after '#' cs).map (Text.Percent.encode escapedInFragment) }

def readSegments (special file : Bool) (cs : List Char) : List (List Char) :=
  resolveDots file []
    ((Text.splitAt (isSlash special) cs).map (Text.Percent.encode escapedInPath))

/-- The path after a host: with a special scheme at least one segment, else none if nothing is
written. -/
def readPathAfterHost (special file : Bool) (cs : List Char) : Path :=
  match cs with
  | [] => .segments (if special then [[]] else [])
  | c :: rest =>
    .segments (readSegments special file (if isSlash special c then rest else c :: rest))

/-! ## Whole URLs -/

def readAfterSlashes (international : International) (scheme cs : List Char) :
    Except UrlError Url := do
  let special := isSpecialScheme scheme
  let text := cs.takeWhile (!endsAuthority special ·)
  let rest := cs.drop text.length
  if text = ['@'] ∧ rest ≠ [] then .error .emptyHost
  let authority ← readAuthority international scheme text
  let tail := readTail special rest
  .ok { scheme
        username := authority.username
        password := authority.password
        host := some authority.host
        tcpPort := authority.tcpPort
        path := readPathAfterHost special false tail.path
        query := tail.query
        fragment := tail.fragment }

/-- The host of a file URL, where `localhost` is no host. -/
def readFileHost (international : International) (cs : List Char) : Except UrlError Host := do
  if cs.isEmpty then .ok (.named [])
  else
    let host ← Host.parse international cs
    .ok (if host = .named "localhost".toList then .named [] else host)

def readFile (international : International) (scheme cs : List Char) : Except UrlError Url := do
  let make (host : Host) (rest : List Char) (path : List Char → Path) : Url :=
    let tail := readTail true rest
    { scheme, host := some host, path := path tail.path, query := tail.query
      fragment := tail.fragment }
  let path (cs : List Char) : Path :=
    .segments (readSegments true true (if (cs.head?.map (isSlash true)).getD false then cs.drop 1 else cs))
  match cs with
  | a :: b :: rest =>
    if isSlash true a && isSlash true b then
      let name := rest.takeWhile (!endsAuthority true ·)
      if isDriveLetter name then .ok (make (.named []) rest path)
      else
        let host ← readFileHost international name
        .ok (make host (rest.drop name.length) path)
    else .ok (make (.named []) cs path)
  | _ => .ok (make (.named []) cs path)

/-- A URL whose scheme implies nothing about the rest. -/
def readOther (international : International) (scheme cs : List Char) : Except UrlError Url :=
  match cs with
  | '/' :: '/' :: rest => readAfterSlashes international scheme rest
  | '/' :: rest =>
    let tail := readTail false rest
    .ok { scheme, path := .segments (readSegments false false tail.path), query := tail.query
          fragment := tail.fragment }
  | _ =>
    let tail := readTail false cs
    .ok { scheme, path := .opaquePath (Text.Percent.encode isControl tail.path)
          query := tail.query, fragment := tail.fragment }

def parseChars (international : International) (cs : List Char) : Except UrlError Url :=
  match readScheme (strip cs) with
  | none => .error .relative
  | some (scheme, rest) =>
    if isFileScheme scheme then readFile international scheme rest
    else if isSpecialScheme scheme then
      readAfterSlashes international scheme (rest.dropWhile (isSlash true))
    else readOther international scheme rest

def parse (international : International) (text : String) : Except UrlError Url :=
  parseChars international text.toList

end BookFinder.Url

import BookFinder.Text.Digits
import BookFinder.Text.Hex
import BookFinder.Text.Split

/-! # URLs

A URL in its parts, and its written form. All parts are kept as they are written, that is with
their escapes.
-/

namespace BookFinder

namespace Url

inductive Host where
  /-- A name; the empty one stands for a host that is left out. -/
  | named (name : List Char)
  | ipv4 (address : Nat)
  /-- The eight pieces of an address. -/
  | ipv6 (pieces : List Nat)
deriving DecidableEq, Repr

inductive Path where
  /-- A text without segments, as after `mailto:`. -/
  | opaquePath (text : List Char)
  /-- Segments, each of them after a slash. -/
  | segments (list : List (List Char))
deriving DecidableEq, Repr

end Url

structure Url where
  scheme : List Char
  username : List Char := []
  password : List Char := []
  /-- What follows `//`, if that is written. -/
  host : Option Url.Host := none
  /-- The number of a TCP port, if it is not that of the scheme. -/
  tcpPort : Option Nat := none
  path : Url.Path
  query : Option (List Char) := none
  fragment : Option (List Char) := none
deriving DecidableEq, Repr

namespace Url

def defaultPort (scheme : List Char) : Option Nat :=
  match String.ofList scheme with
  | "http" => some 80
  | "ws" => some 80
  | "https" => some 443
  | "wss" => some 443
  | "ftp" => some 21
  | _ => none

def isFileScheme (scheme : List Char) : Bool := scheme == ['f', 'i', 'l', 'e']

/-- The schemes whose URLs have a host and a path with at least one segment. -/
def isSpecialScheme (scheme : List Char) : Bool :=
  (defaultPort scheme).isSome || isFileScheme scheme

def isSpecial (url : Url) : Bool := isSpecialScheme url.scheme

/-! ## Written form -/

/-- The hexadecimal digits of a number below `2 ^ 16`, without leading zeros. -/
def renderPiece (n : Nat) : List Char :=
  let digits := [n / 4096 % 16, n / 256 % 16, n / 16 % 16]
  (digits.dropWhile (· == 0)).map Text.lowerHexDigit ++ [Text.lowerHexDigit (n % 16)]

def zeroRun (pieces : List Nat) : Nat := (pieces.takeWhile (· == 0)).length

/-- The longest run of zeros, the first of equally long ones. -/
def longestZeroRun (pieces : List Nat) : Nat :=
  ((List.range pieces.length).map fun i => zeroRun (pieces.drop i)).foldl max 0

/-- An address of eight pieces; its longest run of two zeros or more is written as `::`. -/
def renderIpv6 (pieces : List Nat) : List Char :=
  let run := longestZeroRun pieces
  let join (part : List Nat) := Text.joinWith ':' (part.map renderPiece)
  if run < 2 then join pieces
  else
    let start := ((List.range pieces.length).find? fun i => zeroRun (pieces.drop i) == run).getD 0
    join (pieces.take start) ++ ':' :: ':' :: join (pieces.drop (start + run))

def renderIpv4 (address : Nat) : List Char :=
  Text.joinWith '.' ([16777216, 65536, 256, 1].map fun unit => Text.renderNat (address / unit % 256))

def Host.render : Host → List Char
  | named name => name
  | ipv4 address => renderIpv4 address
  | ipv6 pieces => '[' :: renderIpv6 pieces ++ [']']

def renderUserInfo (url : Url) : List Char :=
  if url.username.isEmpty && url.password.isEmpty then []
  else url.username ++ (if url.password.isEmpty then [] else ':' :: url.password) ++ ['@']

def renderTcpPort (url : Url) : List Char :=
  match url.tcpPort with
  | some n => ':' :: Text.renderNat n
  | none => []

def renderSegments (segments : List (List Char)) : List Char := segments.flatMap ('/' :: ·)

def Path.render : Path → List Char
  | opaquePath text => text
  | segments list => renderSegments list

/-- Everything between the scheme and the path. A path that begins with two slashes is kept apart
from a host. -/
def renderAuthority (url : Url) : List Char :=
  match url.host with
  | some host => ['/', '/'] ++ url.renderUserInfo ++ host.render ++ url.renderTcpPort
  | none =>
    match url.path with
    | .segments ([] :: _ :: _) => ['/', '.']
    | _ => []

def renderQuery (url : Url) : List Char :=
  match url.query with
  | some query => '?' :: query
  | none => []

def renderFragment (url : Url) : List Char :=
  match url.fragment with
  | some fragment => '#' :: fragment
  | none => []

def render (url : Url) : List Char :=
  url.scheme ++ ':' :: url.renderAuthority ++ url.path.render ++ url.renderQuery ++
    url.renderFragment

def hasHost (url : Url) : Bool :=
  match url.host with
  | none => false
  | some (.named []) => false
  | some _ => true

end Url

end BookFinder

import BookFinder.Text.Digits
import BookFinder.Text.Hex
import BookFinder.Text.Split

/-! # Numeric hosts

An IPv4 address has one to four parts in decimal, octal or hexadecimal digits, of which the last
fills the bytes that are left. An IPv6 address has eight pieces of four hexadecimal digits, one run
of zeros left out, and possibly an IPv4 address at its end.
-/

namespace BookFinder.Url.Address

/-- A number in digits below `base`; no digits are 0. -/
def readBase (base : Nat) (cs : List Char) : Option Nat :=
  cs.foldlM (fun n c => match Text.hexValue c with
    | some d => if d < base then some (n * base + d) else none
    | none => none) 0

def readPart : List Char → Option Nat
  | [] => none
  | '0' :: 'x' :: digits => readBase 16 digits
  | '0' :: 'X' :: digits => readBase 16 digits
  | '0' :: c :: digits => readBase 8 (c :: digits)
  | digits => readBase 10 digits

def partsOf (name : List Char) : List (List Char) :=
  let parts := Text.splitAt (· == '.') name
  if parts.getLast? == some [] then parts.dropLast else parts

/-- Whether a name has to be read as an IPv4 address. -/
def endsInNumber (name : List Char) : Bool :=
  match (partsOf name).getLast? with
  | none => false
  | some last => (!last.isEmpty && last.all Char.isDigit) || (readPart last).isSome

/-- The address of at most four numbers: all but the last are bytes, and the last fills the rest. -/
def ipv4OfNumbers (numbers : List Nat) : Option Nat :=
  match numbers.reverse with
  | [] => none
  | last :: front =>
    let rest := Nat.pow 256 (5 - numbers.length)
    if numbers.length ≤ 4 ∧ front.all (· < 256) ∧ last < rest then
      some (front.reverse.foldl (fun n b => n * 256 + b) 0 * rest + last)
    else none

def readIpv4 (name : List Char) : Option Nat := do
  let numbers ← (partsOf name).mapM readPart
  ipv4OfNumbers numbers

/-! ## IPv6 -/

def readPiece (cs : List Char) : Option Nat :=
  if 1 ≤ cs.length ∧ cs.length ≤ 4 then readBase 16 cs else none

/-- A byte in decimal digits without leading zeros. -/
def readByte (cs : List Char) : Option Nat := do
  let n ← Text.readNat cs
  if n < 256 ∧ (cs.head? ≠ some '0' ∨ cs.length = 1) then some n else none

def readTail (cs : List Char) : Option (List Nat) := do
  match ← (Text.splitAt (· == '.') cs).mapM readByte with
  | [a, b, c, d] => some [a * 256 + b, c * 256 + d]
  | _ => none

/-- Pieces with colons between them; `last` says whether they end the address. -/
def readPieces (last : Bool) : List (List Char) → Option (List Nat)
  | [] => some []
  | [piece] =>
    if last && piece.contains '.' then readTail piece else (readPiece piece).map ([·])
  | piece :: pieces => do
    let n ← readPiece piece
    let rest ← readPieces last pieces
    some (n :: rest)

def readSide (last : Bool) (cs : List Char) : Option (List Nat) :=
  if cs.isEmpty then some [] else readPieces last (Text.splitAt (· == ':') cs)

def splitAtGap : List Char → Option (List Char × List Char)
  | [] => none
  | ':' :: ':' :: cs => some ([], cs)
  | c :: cs => (splitAtGap cs).map fun (before, after) => (c :: before, after)

def readIpv6 (cs : List Char) : Option (List Nat) :=
  match splitAtGap cs with
  | some (before, after) => do
    let left ← readSide false before
    let right ← readSide true after
    let count := left.length + right.length
    if count ≤ 7 then some (left ++ List.replicate (8 - count) 0 ++ right) else none
  | none => do
    let pieces ← readPieces true (Text.splitAt (· == ':') cs)
    if pieces.length = 8 then some pieces else none

end BookFinder.Url.Address

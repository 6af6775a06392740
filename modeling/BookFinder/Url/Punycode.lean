/-! # Punycode

The label encoding of internationalised domain names: the ASCII characters first, then the others
in the order of their code points, each as a distance from the one before in a number system whose
digits adapt to the distances seen.
-/

namespace BookFinder.Url.Punycode

def digitChar (d : Nat) : Char := if d < 26 then Char.ofNat (97 + d) else Char.ofNat (22 + d)

def digitValue (c : Char) : Option Nat :=
  if 'a' ≤ c ∧ c ≤ 'z' then some (c.toNat - 97)
  else if 'A' ≤ c ∧ c ≤ 'Z' then some (c.toNat - 65)
  else if '0' ≤ c ∧ c ≤ '9' then some (c.toNat - 22)
  else none

/-- The least digit that ends no number, at a position that counts 36, 72, … -/
def threshold (bias position : Nat) : Nat := min 26 (max 1 (position - bias))

/-- Divides by 35 until the distance is at most 455, and counts 36 for each division. -/
def scaleDown : (fuel : Nat) → (delta count : Nat) → Nat × Nat
  | 0, delta, count => (delta, count)
  | fuel + 1, delta, count =>
    if delta ≤ 455 then (delta, count) else scaleDown fuel (delta / 35) (count + 36)

def adapt (delta points : Nat) (first : Bool) : Nat :=
  let scaled := if first then delta / 700 else delta / 2
  let (delta, count) := scaleDown 64 (scaled + scaled / points) 0
  count + 36 * delta / (delta + 38)

/-- A distance as digits, the least significant first. The distance shrinks at every digit. -/
def encodeNumber (bias : Nat) : (fuel : Nat) → (position q : Nat) → List Char
  | 0, _, _ => []
  | fuel + 1, position, q =>
    let t := threshold bias position
    if q < t then [digitChar q]
    else digitChar (t + (q - t) % (36 - t)) ::
      encodeNumber bias fuel (position + 36) ((q - t) / (36 - t))

structure Encoder where
  output : List Char
  delta : Nat := 0
  bias : Nat := 72
  /-- Characters written so far. -/
  written : Nat

def Encoder.pass (basic n : Nat) (e : Encoder) (c : Char) : Encoder :=
  if c.toNat < n then { e with delta := e.delta + 1 }
  else if c.toNat = n then
    { output := e.output ++ encodeNumber e.bias (e.delta + 1) 36 e.delta
      delta := 0
      bias := adapt e.delta (e.written + 1) (e.written == basic)
      written := e.written + 1 }
  else e

def encodeRest (label : List Char) (basic : Nat) : List Nat → (reached : Nat) → Encoder → Encoder
  | [], _, e => e
  | n :: points, reached, e =>
    let e := { e with delta := e.delta + (n - reached) * (e.written + 1) }
    let e := label.foldl (Encoder.pass basic n) e
    encodeRest label basic points (n + 1) { e with delta := e.delta + 1 }

def insertPoint (n : Nat) : List Nat → List Nat
  | [] => [n]
  | m :: ms => if n < m then n :: m :: ms else if n = m then m :: ms else m :: insertPoint n ms

def encode (label : List Char) : List Char :=
  let ascii := label.filter (·.toNat < 0x80)
  let points := (label.filter (0x80 ≤ ·.toNat)).foldr (insertPoint ·.toNat) []
  let start := if ascii.isEmpty then [] else ascii ++ ['-']
  (encodeRest label ascii.length points 0x80 { output := start, written := ascii.length }).output

/-- A distance at the head of the digits, and the digits after it. -/
def decodeNumber (bias : Nat) : (position weight value : Nat) → List Char →
    Option (Nat × List Char)
  | _, _, _, [] => none
  | position, weight, value, c :: cs => do
    let d ← digitValue c
    let value := value + d * weight
    let t := threshold bias position
    if d < t then some (value, cs) else decodeNumber bias (position + 36) (weight * (36 - t)) value cs

/-- Inserts the characters that the digits stand for; each takes at least one digit. -/
def decodeRest : (fuel : Nat) → (n i bias : Nat) → (output digits : List Char) →
    Option (List Char)
  | 0, _, _, _, _, _ => none
  | _ + 1, _, _, _, output, [] => some output
  | fuel + 1, n, i, bias, output, digits => do
    let (next, rest) ← decodeNumber bias 36 1 i digits
    let points := output.length + 1
    let bias := adapt (next - i) points (i == 0)
    let n := n + next / points
    let i := next % points
    if n < 0x110000 ∧ ¬ (0xD800 ≤ n ∧ n < 0xE000) then
      decodeRest fuel n (i + 1) bias (output.take i ++ Char.ofNat n :: output.drop i) rest
    else none

def decode (text : List Char) : Option (List Char) :=
  let tail := (text.reverse.takeWhile (· != '-')).reverse
  let ascii := text.take (text.length - tail.length - 1)
  if text.all (·.toNat < 0x80) then decodeRest (tail.length + 1) 0x80 0 72 ascii tail else none

end BookFinder.Url.Punycode

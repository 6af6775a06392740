import BookFinder.Decimal.Binary64
import BookFinder.Text.Digits

/-! # The shortest decimal of a binary number

Among the decimals that read back as the number, those with the fewest digits are taken, and of two
such the nearer. The text is positional, however large or small the number is.
-/

namespace BookFinder.Binary64

structure ReadBack where
  low : Nat
  value : Nat
  high : Nat
  /-- Whether the two ends belong to them. -/
  closed : Bool

/-- Half a step on either side; below a power of two the step is half as large. -/
def readBack (units : Nat) : ReadBack :=
  let step := Nat.pow 2 (stepExponent units)
  let below := if 1 < step ∧ units / step = Nat.pow 2 52 then step / 2 else step
  { low := 4 * units - 2 * below
    value := 4 * units
    high := 4 * units + 2 * step
    closed := units / step % 2 == 0 }

/-- The position of the first digit: the number lies from `10 ^ (p - 1)` to below `10 ^ p`. -/
def magnitude (units : Nat) : Int :=
  if one ≤ units then ((Nat.toDigits 10 (units / one)).length : Int)
  else match (List.range 330).find? fun j => one ≤ units * Nat.pow 10 (j + 1) with
    | some j => -(j : Int)
    | none => 0

/-- The multiple of `10 ^ exponent` that reads back as the number, the nearer of its two
neighbours on that grid; of equally near ones the greater. -/
def onGrid (units : Nat) (exponent : Int) : Option Nat :=
  let range := readBack units
  let scale := Nat.pow 10 (-exponent).toNat
  let cell := one * Nat.pow 10 exponent.toNat
  let reads (d : Nat) : Bool :=
    let x := 4 * d * cell
    if range.closed then range.low * scale ≤ x && x ≤ range.high * scale
    else range.low * scale < x && x < range.high * scale
  let lower := units * scale / cell
  let twiceRest := 2 * (units * scale % cell)
  if reads lower && (twiceRest < cell || !reads (lower + 1)) then some lower
  else if reads (lower + 1) then some (lower + 1)
  else none

/-- Digits and exponent of the shortest decimal; 17 digits are always enough. The first grid is one
that holds no more than the next power of ten. -/
def shortest (units : Nat) : Nat × Int :=
  let top := magnitude units
  let grids := (List.range 18).map fun n : Nat => top - (n : Int)
  match grids.findSome? fun exponent => (onGrid units exponent).map fun d => (d, exponent) with
  | some found => found
  | none => (0, 0)

def positional (d : Nat) (exponent : Int) : List Char :=
  let digits := Text.renderNat d
  if 0 ≤ exponent then digits ++ List.replicate exponent.toNat '0'
  else
    let places := exponent.natAbs
    let padded := List.replicate (places + 1 - digits.length) '0' ++ digits
    padded.take (padded.length - places) ++ '.' :: padded.drop (padded.length - places)

def sign (negative : Bool) : List Char := if negative then ['-'] else []

def text : Binary64 → List Char
  | nan => ['N', 'a', 'N']
  | infinite negative => sign negative ++ ['i', 'n', 'f']
  | finite negative units =>
    if units = 0 then sign negative ++ ['0']
    else
      let (d, exponent) := shortest units
      sign negative ++ positional d exponent

end BookFinder.Binary64

/-! # Binary numbers of 64 bits

A finite number is a whole number of units of `2 ^ -1074`, with at most 53 significant bits. All
arithmetic on it is arithmetic on natural numbers.
-/

namespace BookFinder

inductive Binary64 where
  | nan
  | infinite (negative : Bool)
  /-- The number `units / 2 ^ 1074` with a sign. -/
  | finite (negative : Bool) (units : Nat)
deriving DecidableEq, Repr

namespace Binary64

def one : Nat := Nat.pow 2 1074

/-- The units in `2 ^ 1024`, from which on a number is infinite. -/
def limit : Nat := Nat.pow 2 1024 * one

/-- The step from one number to the next, as a power of two, at a magnitude of `units`. -/
def stepExponent (units : Nat) : Nat := if units = 0 then 0 else Nat.log2 units - 52

/-- `num / den` to the nearest integer, half to even. -/
def divideToNearest (num den : Nat) : Nat :=
  let quotient := num / den
  let twice := 2 * (num % den)
  if twice < den ∨ (twice = den ∧ quotient % 2 = 0) then quotient else quotient + 1

def ofFraction (negative : Bool) (num den : Nat) : Binary64 :=
  let step := Nat.pow 2 (stepExponent (num * one / den))
  let units := divideToNearest (num * one) (den * step) * step
  if units < limit then finite negative units else infinite negative

/-- The number nearest to `digits * 10 ^ exponent`. Beyond 400 places on either side of the point
nothing but zero and infinity is near. -/
def ofDecimal (negative : Bool) (digits : Nat) (exponent : Int) : Binary64 :=
  let magnitude := ((Nat.toDigits 10 digits).length : Int) + exponent
  if digits = 0 ∨ magnitude < -400 then finite negative 0
  else if 400 < magnitude then infinite negative
  else if 0 ≤ exponent then ofFraction negative (digits * Nat.pow 10 exponent.toNat) 1
  else ofFraction negative digits (Nat.pow 10 exponent.natAbs)

def ofNat (n : Nat) : Binary64 := ofFraction false n 1

end Binary64

end BookFinder

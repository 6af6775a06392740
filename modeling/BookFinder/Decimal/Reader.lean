import BookFinder.Decimal.Binary64
import BookFinder.Text.Digits

/-! # Reading decimal numbers -/

namespace BookFinder.Binary64

def readExponent : List Char → Option Int
  | '-' :: cs => (Text.readNat cs).map fun n : Nat => -(n : Int)
  | cs => (Text.readNatPlus cs).map fun n : Nat => (n : Int)

def readMarked : List Char → Option Int
  | [] => some 0
  | _ :: cs => readExponent cs

def isExponentMark (c : Char) : Bool := c == 'e' || c == 'E'

/-- Digits with a point before, between or after them, or without one. -/
def readMantissa (cs : List Char) : Option (Nat × Nat) :=
  let whole := cs.takeWhile (· != '.')
  let places := (cs.dropWhile (· != '.')).drop 1
  (Text.readNat (whole ++ places)).map fun digits => (digits, places.length)

def readUnsigned (negative : Bool) (cs : List Char) : Option Binary64 := do
  let (digits, places) ← readMantissa (cs.takeWhile (!isExponentMark ·))
  let exponent ← readMarked (cs.dropWhile (!isExponentMark ·))
  some (ofDecimal negative digits (exponent - places))

def readMagnitude (negative : Bool) (cs : List Char) : Option Binary64 :=
  match String.ofList (cs.map Char.toLower) with
  | "inf" => some (infinite negative)
  | "infinity" => some (infinite negative)
  | "nan" => some nan
  | _ => readUnsigned negative cs

def read : List Char → Option Binary64
  | '-' :: cs => readMagnitude true cs
  | '+' :: cs => readMagnitude false cs
  | cs => readMagnitude false cs

end BookFinder.Binary64

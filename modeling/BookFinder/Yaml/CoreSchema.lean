import BookFinder.Decimal.Reader
import BookFinder.Text.Digits
import BookFinder.Text.Hex
import BookFinder.Yaml.Node

/-! # Scalars as null, booleans and numbers

A scalar without quotes is read by its text, whatever its tag. A literal one needs the tag of what it
is to be read as.
-/

namespace BookFinder.Yaml.Scalar

def coreTag (name : String) : List Char := ("tag:yaml.org,2002:" ++ name).toList

def isReadAs (type : String) (scalar : Scalar) : Bool :=
  match scalar.style with
  | .plain => true
  | .literal => scalar.tag == some (coreTag type)
  | _ => false

def isNullWord (text : List Char) : Bool :=
  ["null", "Null", "NULL", "~"].contains (String.ofList text)

/-- Whether a scalar is null; nothing, if its tag says so and its text does not. An empty text is
null unless it has a tag. -/
def isNull (scalar : Scalar) : Option Bool :=
  match scalar.style, scalar.tag with
  | .plain, none => some (scalar.text.isEmpty || isNullWord scalar.text)
  | .plain, some tag =>
    if tag = coreTag "null" then if isNullWord scalar.text then some true else none
    else some false
  | _, _ => some false

def bool (scalar : Scalar) : Option Bool :=
  if scalar.isReadAs "bool" then
    let text := String.ofList scalar.text
    if ["true", "True", "TRUE"].contains text then some true
    else if ["false", "False", "FALSE"].contains text then some false
    else none
  else none

/-! ## Numbers -/

def isSign (c : Char) : Bool := c == '+' || c == '-'

def pushDigit (base n : Nat) (c : Char) : Option Nat :=
  (Text.hexValue c).bind fun d => if d < base then some (n * base + d) else none

def readDigits (base : Nat) (cs : List Char) : Option Nat :=
  if cs.isEmpty then none else cs.foldlM (pushDigit base) 0

/-- A number in decimal digits, which starts with a zero only if it is one, or in the base that the
letter after a zero names. -/
def readUnsigned : List Char → Option Nat
  | '0' :: 'x' :: digits => readDigits 16 digits
  | '0' :: 'o' :: digits => readDigits 8 digits
  | '0' :: 'b' :: digits => readDigits 2 digits
  | '0' :: _ :: _ => none
  | digits => readDigits 10 digits

def dropPlus : List Char → List Char
  | '+' :: cs => cs
  | cs => cs

def nat (bound : Nat) (scalar : Scalar) : Option Nat := do
  if !scalar.isReadAs "int" then none
  let n ← readUnsigned (dropPlus scalar.text)
  if n < bound then some n else none

def isFinite : Binary64 → Bool
  | .finite _ _ => true
  | _ => false

/-- A number with or without a sign, or a word for infinity or for what is no number. -/
def readFloat (text : List Char) : Option Binary64 :=
  let number := dropPlus text
  if text.head? = some '+' ∧ number.head?.any isSign then none
  else if [".inf", ".Inf", ".INF"].contains (String.ofList number) then some (.infinite false)
  else if ["-.inf", "-.Inf", "-.INF"].contains (String.ofList text) then some (.infinite true)
  else if [".nan", ".NaN", ".NAN"].contains (String.ofList text) then some .nan
  else (Binary64.read number).filter isFinite

def float (scalar : Scalar) : Option Binary64 :=
  if scalar.isReadAs "float" then readFloat scalar.text else none

end BookFinder.Yaml.Scalar

import BookFinder.Query.Error
import BookFinder.Text.Blank

/-! # Keyword expressions

A keyword is a plain term, or a wanted term and an unwanted one with `-` between them. It is read
by rules in a fixed order, and the first rule that it breaks names the error.
-/

namespace BookFinder.Query

inductive Expression where
  | plain (keyword : String)
  /-- Books for `wanted`, less those that mention `unwanted`. -/
  | excluding (wanted unwanted : String)
deriving DecidableEq, Repr

def Expression.display : Expression → String
  | plain keyword => keyword
  | excluding wanted unwanted => wanted ++ "-" ++ unwanted

def Expression.searchTerm : Expression → String
  | plain keyword => keyword
  | excluding wanted _ => wanted

/-- The text that no result may mention. -/
def Expression.excludedTerm : Expression → Option String
  | plain _ => none
  | excluding _ unwanted => some unwanted

/-- Punctuation that no keyword may hold. -/
def disallowedCharacters : List Char :=
  ['\x7b', '\x7d', '[', ']', '/', '?', '.', ',', ';', ':', ')', '*', '~', '\x60', '!', '^', '_', '+',
   '<', '>', '@', '#', '$', '%', '&', '\\', '=', '(', '\'', '"']

def isDisallowed (c : Char) : Bool := disallowedCharacters.contains c

def isOperator (c : Char) : Bool :=
  c == Operator.without.toChar || c == Operator.alternative.toChar

/-- They are the punctuation of ASCII but for the two operators. -/
theorem mem_disallowedCharacters_iff (c : Char) :
    c ∈ disallowedCharacters ↔
      (0x21 ≤ c.toNat ∧ c.toNat ≤ 0x7E) ∧ c.isAlphanum = false ∧ isOperator c = false := by
  by_cases hascii : c.toNat < 0x80
  · have htable : ∀ n < 0x80, Char.ofNat n ∈ disallowedCharacters ↔
        (0x21 ≤ n ∧ n ≤ 0x7E) ∧ (Char.ofNat n).isAlphanum = false ∧
          isOperator (Char.ofNat n) = false := by
      decide +kernel
    have hc := htable c.toNat hascii
    rwa [Char.ofNat_toNat] at hc
  · have hlow : disallowedCharacters.all (·.toNat < 0x80) = true := by decide
    have hnone : c ∉ disallowedCharacters := fun hc =>
      hascii (of_decide_eq_true (List.all_eq_true.mp hlow c hc))
    refine iff_of_false hnone ?_
    omega

def Operator.atAnEnd (op : Operator) (cs : List Char) : Bool :=
  cs.head? == some op.toChar || cs.getLast? == some op.toChar

/-- Splits a keyword at its first `-`, if it has one. -/
def splitExpression (cs : List Char) : Expression :=
  match cs.dropWhile (· != '-') with
  | [] => .plain (String.ofList cs)
  | _ :: unwanted =>
    .excluding (String.ofList (cs.takeWhile (· != '-'))) (String.ofList unwanted)

/-- Reads a keyword: not blank, no disallowed character, at most one operator, and that neither
first nor last. -/
def Expression.parse (raw : String) : Except QueryError Expression :=
  let cs := raw.toList
  if Text.isBlankText cs then .error .blank
  else match cs.find? isDisallowed with
    | some c => .error (.disallowedCharacter c)
    | none =>
      let count := cs.countP isOperator
      if 2 ≤ count then .error (.tooManyOperators count)
      else if Operator.alternative.atAnEnd cs then .error (.misplacedOperator .alternative)
      else if Operator.without.atAnEnd cs then .error (.misplacedOperator .without)
      else .ok (splitExpression cs)

end BookFinder.Query

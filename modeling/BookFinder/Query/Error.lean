/-! # Why a keyword or a page argument is refused -/

namespace BookFinder.Query

/-- The two operators of a keyword. -/
inductive Operator where
  /-- Separates the wanted term from the unwanted one. -/
  | without
  /-- Counts as an operator and separates nothing. -/
  | alternative
deriving DecidableEq, Repr

def Operator.toChar : Operator → Char
  | without => '-'
  | alternative => '|'

inductive QueryError where
  | blank
  | disallowedCharacter (c : Char)
  | tooManyOperators (count : Nat)
  | misplacedOperator (op : Operator)
  /-- Carries the argument as the caller wrote it. -/
  | invalidPage (raw : String)
deriving DecidableEq, Repr

def QueryError.message : QueryError → String
  | blank => "keyword is empty"
  | disallowedCharacter c => "keyword contains disallowed character '" ++ String.singleton c ++ "'"
  | tooManyOperators count =>
    "keyword contains " ++ toString count ++ " operators, at most one is allowed"
  | misplacedOperator op =>
    "keyword may not start or end with '" ++ String.singleton op.toChar ++ "'"
  | invalidPage raw => "invalid page '" ++ raw ++ "'"

end BookFinder.Query

/-! # JSON values

The members of an object keep their order and may repeat a name, and a number keeps its written
form, so that a reader of a value can tell apart all that the text tells apart.
-/

namespace BookFinder

inductive Json where
  | null
  | bool (value : Bool)
  /-- The digits of a number as they were written. -/
  | number (literal : String)
  | string (value : String)
  | array (items : List Json)
  | object (members : List (String × Json))
  /-- A value that can be passed over but not read: a string with half of a surrogate pair in it, or
  an object with such a name. -/
  | unreadable

namespace Json

def ofNat (n : Nat) : Json := number (String.ofList (Nat.toDigits 10 n))

/-- The value of a string literal, which is no text if it holds half of a surrogate pair. -/
def ofText : Option String → Json
  | some s => string s
  | none => unreadable

/-- The object of these members, whose names are literals like any other. -/
def ofMembers (members : List (Option String × Json)) : Json :=
  match members.mapM fun (name, value) => name.map (·, value) with
  | some members => object members
  | none => unreadable

inductive Lookup where
  | absent
  | present (value : Json)
  /-- The name occurs twice, or two names of the same member occur. -/
  | repeated

def lookup (names : List String) (members : List (String × Json)) : Lookup :=
  match members.filter (names.contains ·.1) with
  | [] => .absent
  | [(_, value)] => .present value
  | _ => .repeated

end Json

end BookFinder

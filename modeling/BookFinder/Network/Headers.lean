/-! # Fields of an answer -/

namespace BookFinder.Network

def lowercase (cs : List Char) : List Char := cs.map Char.toLower

/-- The fields of an answer in their order, without those that say where its body ends. -/
structure Headers where
  fields : List (String × String) := []
  framing : ∀ field ∈ fields, lowercase field.1.toList ∉
      ["content-length".toList, "transfer-encoding".toList] := by decide

namespace Headers

def none : Headers := {}

/-- The values of a field, whose name is given in lower case. -/
def values (headers : Headers) (name : String) : List String :=
  (headers.fields.filter fun field => lowercase field.1.toList == name.toList).map (·.2)

end Headers

end BookFinder.Network

import BookFinder.Yaml.Token

/-! # The tree of a YAML document -/

namespace BookFinder.Yaml

structure Scalar where
  style : Style
  tag : Option (List Char)
  text : List Char
deriving DecidableEq, Repr

/-- A node, with the number of the anchor that it carries. An alias refers to such a number. -/
inductive Node where
  | reference (number : Nat)
  | scalar (anchor : Option Nat) (value : Scalar)
  | sequence (anchor : Option Nat) (items : List Node)
  | mapping (anchor : Option Nat) (entries : List (Node × Node))

namespace Node

def anchor : Node → Option Nat
  | reference _ => none
  | scalar anchor _ => anchor
  | sequence anchor _ => anchor
  | mapping anchor _ => anchor

mutual

def subnodes : Node → List Node
  | reference number => [reference number]
  | scalar anchor value => [scalar anchor value]
  | sequence anchor items => sequence anchor items :: itemSubnodes items
  | mapping anchor entries => mapping anchor entries :: entrySubnodes entries

def itemSubnodes : List Node → List Node
  | [] => []
  | item :: items => item.subnodes ++ itemSubnodes items

def entrySubnodes : List (Node × Node) → List Node
  | [] => []
  | (key, value) :: entries => key.subnodes ++ value.subnodes ++ entrySubnodes entries

end

end Node

end BookFinder.Yaml

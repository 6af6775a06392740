import BookFinder.Yaml.Node.Reader
import BookFinder.Yaml.Token.Lexer

/-! # YAML documents

A text holds one document or none. An alias in it stands for the last node that carries its number.
-/

namespace BookFinder.Yaml

structure Document where
  root : Node

namespace Document

/-- The node that an alias stands for, and any other node itself. -/
def resolve (document : Document) : Node → Option Node
  | .reference number => (document.root.subnodes.filter (·.anchor == some number)).getLast?
  | node => some node

/-- What handles stand for unless a directive says otherwise. -/
def defaultHandles : Node.Handles := [(['!'], ['!']), (['!', '!'], "tag:yaml.org,2002:".toList)]

/-- The directives before a document: one version, which has to be 1.1 or 1.2, and one directive for
each handle. -/
def readDirectives : (version : Bool) → Node.Handles → List Token →
    Option (Node.Handles × List Token)
  | version, handles, .version major minor :: tokens =>
    if !version && major == 1 && (minor == 1 || minor == 2) then
      readDirectives true handles tokens
    else none
  | version, handles, .tagDirective handle uri :: tokens =>
    if (handles.lookup handle).isSome then none
    else readDirectives version ((handle, uri) :: handles) tokens
  | _, handles, tokens => some (handles ++ defaultHandles, tokens)

def isOutside : Token → Bool
  | .version _ _ => true
  | .tagDirective _ _ => true
  | .documentStart => true
  | .documentEnd => true
  | _ => false

def readStart (tokens : List Token) : Option (Node.Handles × Bool × List Token) := do
  let (handles, rest) ← readDirectives false [] tokens
  match rest with
  | .documentStart :: rest => some (handles, true, rest)
  | _ => if tokens.head?.any isOutside then none else some (handles, false, tokens)

def ofTokens : List Token → Option (Option Document)
  | [] => some none
  | tokens => do
    let (handles, marked, tokens) ← readStart tokens
    let (root, rest) ←
      if marked && tokens.head?.all isOutside then some (Node.absent, tokens)
      else Node.read handles tokens
    if rest.all (· == .documentEnd) then some (some { root }) else none

def read (text : String) : Option (Option Document) := do
  ofTokens (← Token.ofText text.toList)

end Document

end BookFinder.Yaml

import BookFinder.Settings.Layer
import BookFinder.Yaml.CoreSchema
import BookFinder.Yaml.Document

/-! # Settings from a YAML document

A section is a mapping, or nothing at all. Members that have no meaning are passed over; one that has
may occur once.
-/

namespace BookFinder.Settings

open Yaml (Node Scalar)

/-- The scalar that a node is or stands for. -/
def scalarOf (document : Yaml.Document) (node : Node) : Option Scalar :=
  match document.resolve node with
  | some (.scalar _ value) => some value
  | _ => none

def membersOf (document : Yaml.Document) (node : Node) : Option (List (String × Node)) :=
  match document.resolve node with
  | some (.mapping _ entries) =>
    entries.mapM fun (key, value) => (scalarOf document key).map fun name =>
      (String.ofList name.text, value)
  | some (.scalar _ value) => if value.text.isEmpty then some [] else none
  | _ => none

def readMember {α : Type} (members : List (String × Node)) (name : String)
    (read : Node → Option α) : Option (Option α) :=
  match members.filter (·.1 == name) with
  | [] => some none
  | [(_, value)] => (read value).map some
  | _ => none

/-- Any scalar is a text, as it is written. -/
def readText (document : Yaml.Document) (node : Node) : Option String :=
  (scalarOf document node).map fun value => String.ofList value.text

def readProxy (document : Yaml.Document) (node : Node) : Option (Option String) := do
  let value ← scalarOf document node
  if ← value.isNull then some none else some (some (String.ofList value.text))

def readBool (document : Yaml.Document) (node : Node) : Option Bool :=
  (scalarOf document node).bind Scalar.bool

def readNat (document : Yaml.Document) (bound : Nat) (node : Node) : Option Nat :=
  (scalarOf document node).bind (Scalar.nat bound)

def readFloat (document : Yaml.Document) (node : Node) : Option Binary64 :=
  (scalarOf document node).bind Scalar.float

namespace Layer

def readGeneral (document : Yaml.Document) (layer : Layer) (node : Node) : Option Layer := do
  let members ← membersOf document node
  some { layer with debug := ← readMember members "debug" (readBool document) }

def readServer (document : Yaml.Document) (layer : Layer) (node : Node) : Option Layer := do
  let members ← membersOf document node
  let tcpPort ← readMember members "port" (readNat document UInt16.size)
  some { layer with
    tcpPort := tcpPort.map UInt16.ofNat
    bindAddress := ← readMember members "bind_address" (readText document) }

def readCatalog (document : Yaml.Document) (layer : Layer) (node : Node) : Option Layer := do
  let members ← membersOf document node
  let poolSize ← readMember members "pool_maxsize" (readNat document UInt64.size)
  let maxPages ← readMember members "max_pages" (readNat document UInt32.size)
  some { layer with
    baseUrl := ← readMember members "base_url" (readText document)
    requestTimeout := ← readMember members "request_timeout" (readFloat document)
    poolSize := poolSize.map UInt64.ofNat
    verifySsl := ← readMember members "verify_ssl" (readBool document)
    proxy := ← readMember members "proxy" (readProxy document)
    userAgent := ← readMember members "user_agent" (readText document)
    maxPages := maxPages.map UInt32.ofNat }

def ofDocument (document : Yaml.Document) : Option Layer := do
  let sections ← membersOf document document.root
  let layer : Layer := {}
  let layer := ((← readMember sections "general" (readGeneral document layer)).getD layer)
  let layer := ((← readMember sections "server" (readServer document layer)).getD layer)
  let layer := ((← readMember sections "catalog" (readCatalog document layer)).getD layer)
  some layer

/-- What a YAML text says about the settings. A text without a document says nothing. -/
def read (text : String) : Option Layer := do
  match ← Yaml.Document.read text with
  | none => some {}
  | some document => ofDocument document

end Layer

end BookFinder.Settings

import BookFinder.Settings.Document
import BookFinder.Settings.Environment

/-! # Loading the settings

The settings are in the first of the candidate files that exists, and the environment has the last
word. A candidate that exists decides, also when it cannot be read.
-/

namespace BookFinder.Settings

inductive FileEntry where
  | text (content : String)
  /-- A directory, or whatever else holds no text. -/
  | unreadable
deriving DecidableEq, Repr

abbrev FileSystem := String → Option FileEntry

inductive LoadError where
  /-- The file cannot be read. -/
  | unreadable
  /-- The file holds no settings. -/
  | malformed
deriving DecidableEq, Repr

structure Loaded where
  settings : Settings
  /-- The file that the settings are from. -/
  source : Option String
deriving DecidableEq, Repr

def joinPath (directory path : String) : String :=
  if directory.isEmpty || directory.endsWith "/" then directory ++ path
  else directory ++ "/" ++ path

/-- Where settings are looked for in any case, with the directory for the user's configuration, if
there is one. -/
def defaultPaths (userDirectory : Option String) : List String :=
  ["settings.yml", "config/settings.yml"] ++
    (userDirectory.map (joinPath · "book-search-rs/settings.yml")).toList

def candidates (environment : Environment) (userDirectory : Option String) : List String :=
  (environment "BOOKSEARCH_SETTINGS_PATH").toList ++ defaultPaths userDirectory

/-- The settings of a file or, without one, the default ones. -/
def readEntry : Option FileEntry → Except LoadError Settings
  | none => .ok {}
  | some .unreadable => .error .unreadable
  | some (.text content) =>
    match Layer.read content with
    | some layer => .ok (layer.over {})
    | none => .error .malformed

def load (files : FileSystem) (environment : Environment) (userDirectory : Option String) :
    Except LoadError Loaded := do
  let source := (candidates environment userDirectory).find? fun path => (files path).isSome
  let settings ← readEntry (source.bind files)
  .ok { settings := environment.layer.over settings, source }

end BookFinder.Settings

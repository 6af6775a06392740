import BookFinder.Settings.Load
import BookFinder.Text.Split

/-! # Trees of files

Paths are resolved as a file system does it: a name has to stand in a directory, so do `.`, `..` and
the empty name after a slash, and the directory above the topmost one is that one itself.
-/

namespace BookFinder.Settings

structure FileTree where
  entries : List (List String × FileEntry)
  workingDirectory : List String

namespace FileTree

/-- What has exactly these names. Whatever contains something is a directory. -/
def entry (tree : FileTree) (names : List String) : Option FileEntry :=
  if tree.entries.any fun (other, _) => names.length < other.length && names.isPrefixOf other then
    some .unreadable
  else tree.entries.lookup names

def isDirectory (tree : FileTree) (names : List String) : Bool :=
  names.isEmpty || tree.entry names == some .unreadable

def walk (tree : FileTree) : (names : List String) → List String → Option (List String)
  | names, [] => some names
  | names, step :: steps =>
    if !tree.isDirectory names then none
    else if step = "" ∨ step = "." then walk tree names steps
    else if step = ".." then walk tree names.dropLast steps
    else if (tree.entry (names ++ [step])).isSome then walk tree (names ++ [step]) steps
    else none

/-- The file system that the tree makes up. An empty path leads nowhere. -/
def fileSystem (tree : FileTree) : FileSystem := fun path => do
  if path.isEmpty then none
  let steps := (Text.splitAt (· == '/') path.toList).map String.ofList
  let start := if path.startsWith "/" then [] else tree.workingDirectory
  let names ← tree.walk start steps
  if names.isEmpty then some .unreadable else tree.entry names

end FileTree

end BookFinder.Settings

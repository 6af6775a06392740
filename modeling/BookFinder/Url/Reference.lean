import BookFinder.Url.Parser

/-! # References relative to a URL -/

namespace BookFinder.Url

def Path.folder : Path → List (List Char)
  | opaquePath _ => []
  | segments list => list.dropLast

/-- The URL for a reference that keeps the host and begins with character `first`. -/
def resolveHere (base : Url) (tail : Tail) (first : Char) : Url :=
  if first = '#' then { base with fragment := tail.fragment }
  else if first = '?' then { base with query := tail.query, fragment := tail.fragment }
  else
    let special := base.isSpecial
    let parts := (Text.splitAt (isSlash special) tail.path).map (Text.Percent.encode escapedInPath)
    let segments :=
      if isSlash special first then resolveDots false [] (parts.drop 1)
      else resolveDots false base.path.folder.reverse parts
    { base with path := .segments segments, query := tail.query, fragment := tail.fragment }

def resolveRelative (international : International) (base : Url) (cs : List Char) :
    Except UrlError Url :=
  let special := base.isSpecial
  match cs with
  | [] => .ok { base with fragment := none }
  | a :: b :: rest =>
    if isSlash special a && isSlash special b then
      readAfterSlashes international base.scheme
        (if special then rest.dropWhile (isSlash true) else rest)
    else .ok (resolveHere base (readTail special cs) a)
  | [a] => .ok (resolveHere base (readTail special cs) a)

/-- The URL that a reference names when it stands in a document at `base`. A special scheme that is
that of the base may stand before a reference all the same. -/
def resolve (international : International) (base : Url) (reference : String) :
    Except UrlError Url :=
  let cs := strip reference.toList
  match readScheme cs with
  | none => resolveRelative international base cs
  | some (scheme, rest) =>
    if base.isSpecial && scheme == base.scheme && (rest.takeWhile (isSlash true)).length < 2 then
      resolveRelative international base rest
    else parseChars international cs

end BookFinder.Url

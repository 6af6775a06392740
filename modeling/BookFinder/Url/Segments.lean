import BookFinder.Text.Percent
import BookFinder.Url.Basic
import BookFinder.Url.Escaping

/-! # Path segments

A segment `.` stands for nothing and `..` takes back the segment before it; both may be written
with escapes. At the end of a path either of them leaves an empty segment.
-/

namespace BookFinder.Url

def isSingleDot (segment : List Char) : Bool :=
  ["." , "%2e"].contains (String.ofList (segment.map Char.toLower))

def isDoubleDot (segment : List Char) : Bool :=
  ["..", ".%2e", "%2e.", "%2e%2e"].contains (String.ofList (segment.map Char.toLower))

def isDriveLetter : List Char → Bool
  | [letter, mark] => letter.isAlpha && (mark == ':' || mark == '|')
  | _ => false

def normalizeDrive (segment : List Char) : List Char := segment.take 1 ++ [':']

/-- Takes back the last of some segments, which are given from last to first. A drive stays. -/
def takeBack (file : Bool) (done : List (List Char)) : List (List Char) :=
  match done with
  | [segment] => if file && isDriveLetter segment then [segment] else []
  | _ => done.drop 1

def addPlain (file : Bool) (done : List (List Char)) (segment : List Char) : List (List Char) :=
  if file && done.isEmpty && isDriveLetter segment then [normalizeDrive segment]
  else segment :: done

/-- The segments of a path, after those in `done`, which are given from last to first. -/
def resolveDots (file : Bool) (done : List (List Char)) : List (List Char) → List (List Char)
  | [] => done.reverse
  | [last] =>
    if isDoubleDot last then ([] :: takeBack file done).reverse
    else if isSingleDot last then ([] :: done).reverse
    else (addPlain file done last).reverse
  | segment :: rest =>
    if isDoubleDot segment then resolveDots file (takeBack file done) rest
    else if isSingleDot segment then resolveDots file done rest
    else resolveDots file (addPlain file done segment) rest

/-! ## Extending a path -/

def isTabOrNewline (c : Char) : Bool := c == '\t' || c == '\n' || c == '\r'

def escapeSegment (special : Bool) (text : List Char) : List Char :=
  Text.Percent.encode (escapedInSegment special) (text.filter (!isTabOrNewline ·))

/-- Segments without an empty one at their end; a path that is only a slash stays. -/
def dropEmptyLast (segments : List (List Char)) : List (List Char) :=
  if 2 ≤ segments.length ∧ segments.getLast? = some [] then segments.dropLast else segments

/-- The segments with one more; a path that is only a slash holds none yet. -/
def appendSegment (segments : List (List Char)) (segment : List Char) : List (List Char) :=
  if segments = [[]] then [segment] else segments ++ [segment]

/-- The segments after a text has been added as one of them. The texts `.` and `..` are left out;
a text that becomes such a segment only without its tabs and newlines has that segment's meaning. -/
def pushText (special file : Bool) (segments : List (List Char)) (text : List Char) :
    List (List Char) :=
  if text = ['.'] ∨ text = ['.', '.'] then segments
  else
    let segment := escapeSegment special text
    if segment = ['.'] ∨ segment = ['.', '.'] then
      resolveDots file segments.reverse [segment]
    else appendSegment segments segment

def extendPath (url : Url) (texts : List (List Char)) : Url :=
  match url.path with
  | .opaquePath _ => url
  | .segments list =>
    let push := pushText url.isSpecial (isFileScheme url.scheme)
    { url with path := .segments (texts.foldl push (dropEmptyLast list)) }

end BookFinder.Url

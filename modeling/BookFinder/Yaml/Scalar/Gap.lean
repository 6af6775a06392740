import BookFinder.Yaml.Place

/-! # Gaps between the words of a scalar

Blanks on one line stay as they are. A line break is read as a space, and of several breaks the
first one is left out; blanks beside a break vanish.
-/

namespace BookFinder.Yaml

inductive Gap where
  | blanks (cs : List Char)
  | breaks (cs : List Char)
  /-- Breaks after one that a backslash has taken out. -/
  | breaksAfterEscape (cs : List Char)

namespace Gap

def none : Gap := blanks []

def isOnOneLine : Gap → Bool
  | blanks _ => true
  | breaks _ => false
  | breaksAfterEscape _ => false

def addBlank (c : Char) : Gap → Gap
  | blanks cs => blanks (cs ++ [c])
  | breaks cs => breaks cs
  | breaksAfterEscape cs => breaksAfterEscape cs

def addBreak (c : Char) : Gap → Gap
  | blanks _ => breaks [c]
  | breaks cs => breaks (cs ++ [c])
  | breaksAfterEscape cs => breaksAfterEscape (cs ++ [c])

/-- What the gap is read as. -/
def text : Gap → List Char
  | blanks cs => cs
  | breaks ['\n'] => [' ']
  | breaks ('\n' :: cs) => cs
  | breaks cs => cs
  | breaksAfterEscape cs => cs

end Gap

end BookFinder.Yaml

import BookFinder.Text.Percent
import BookFinder.Text.Split

/-! # Form data in a query string

Pairs of a key and a value, joined by `&`, with `=` between the two and `+` for a space.
-/

namespace BookFinder.Text.FormUrlencoded

def decodeText (cs : List Char) : List Char :=
  Percent.decodeLenient (cs.map fun c => if c = '+' then ' ' else c)

/-- A pair; without `=` the value is empty. -/
def decodePair (cs : List Char) : List Char × List Char :=
  (decodeText (cs.takeWhile (· != '=')), decodeText ((cs.dropWhile (· != '=')).drop 1))

def decode (query : List Char) : List (List Char × List Char) :=
  ((splitAt (· == '&') query).filter (!·.isEmpty)).map decodePair

end BookFinder.Text.FormUrlencoded

import BookFinder.Url.International

/-! # What is decoded elsewhere

A client reads UTF-8, UTF-16 and Windows-1252 and the names of hosts in ASCII by itself. For the rest
it relies on codecs.
-/

namespace BookFinder.Network

structure Codecs where
  international : Url.International
  /-- What is packed at the head of a body, if it is there in full. -/
  gunzip : List UInt8 → Option (List UInt8)
  unbrotli : List UInt8 → Option (List UInt8)
  /-- The other character sets, by their labels in lower case. -/
  charset : String → Option (List UInt8 → List Char)

/-- Enough for a client that no answer reaches. -/
def Codecs.none : Codecs where
  international := Url.International.charByChar
  gunzip _ := Option.none
  unbrotli _ := Option.none
  charset _ := Option.none

end BookFinder.Network

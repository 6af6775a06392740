import BookFinder.Text.Percent
import BookFinder.Url.Address
import BookFinder.Url.Basic
import BookFinder.Url.Domain
import BookFinder.Url.Error
import BookFinder.Url.Escaping

/-! # Hosts -/

namespace BookFinder.Url

def Host.ofBracketed (cs : List Char) : Except UrlError Host :=
  if cs.getLast? != some ']' then .error .badIpv6
  else match Address.readIpv6 (cs.drop 1).dropLast with
    | some pieces => .ok (.ipv6 pieces)
    | none => .error .badIpv6

/-- The host of a URL with a special scheme: an address or a domain name, with its escapes
resolved. -/
def Host.parse (international : International) (cs : List Char) : Except UrlError Host :=
  if cs.head? == some '[' then ofBracketed cs
  else match Domain.toAscii international (Text.Percent.decodeLenient cs) with
    | none => .error .badDomainName
    | some [] => .error .emptyHost
    | some name =>
      if Address.endsInNumber name then
        match Address.readIpv4 name with
        | some address => .ok (.ipv4 address)
        | none => .error .badIpv4
      else .ok (.named name)

def endsOrPartsHost (c : Char) : Bool :=
  ['\x00', '\t', '\n', '\r', ' ', '#', '/', ':', '<', '>', '?', '@', '[', '\\', ']', '^', '|'].contains c

/-- The host of a URL with any other scheme, which keeps its spelling. -/
def Host.parseOpaque (cs : List Char) : Except UrlError Host :=
  if cs.head? == some '[' then ofBracketed cs
  else if cs.any endsOrPartsHost then .error .badHostCharacter
  else .ok (.named (Text.Percent.encode isControl cs))

end BookFinder.Url

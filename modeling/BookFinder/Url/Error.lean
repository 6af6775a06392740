/-! # Why a text is no URL -/

namespace BookFinder

inductive UrlError where
  | relative
  | emptyHost
  | badPortNumber
  | badIpv4
  | badIpv6
  | badDomainName
  | badHostCharacter
deriving DecidableEq, Repr

def UrlError.message : UrlError → String
  | relative => "relative URL without a base"
  | emptyHost => "empty host"
  | badPortNumber => "invalid port number"
  | badIpv4 => "invalid IPv4 address"
  | badIpv6 => "invalid IPv6 address"
  | badDomainName => "invalid international domain name"
  | badHostCharacter => "invalid domain character"

end BookFinder

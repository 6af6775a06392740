import BookFinder.Network.Headers
import BookFinder.Url.Basic

/-! # Networks of servers

A network is what listens where. A server answers each request by itself: it keeps no state.
-/

namespace BookFinder

namespace Url

def isSecure (url : Url) : Bool := url.scheme == "https".toList

def isWeb (url : Url) : Bool := url.scheme == "http".toList || url.isSecure

end Url

namespace Network

structure Endpoint where
  scheme : String
  host : String
  tcpPort : Nat
deriving DecidableEq, Repr

structure Request where
  method : String
  /-- What is asked for, as it stands in the request. -/
  target : String
  userAgent : Option String
deriving DecidableEq, Repr

inductive Reply where
  /-- The connection is closed without an answer. -/
  | dropped
  /-- An answer that announces `missing` bytes more than it brings. -/
  | answer (status : Nat) (headers : Headers) (body : List UInt8) (missing : Nat)

abbrev Server := Request → Reply

/-- Where a URL with a host is to be reached. A scheme that is not encrypted is taken for that of the
web, whatever it is. -/
def Endpoint.ofUrl (url : Url) : Option Endpoint :=
  match url.host with
  | some host =>
    if url.hasHost then
      some {
        scheme := if url.isSecure then "https" else "http"
        host := String.ofList host.render
        tcpPort := url.tcpPort.getD (if url.isSecure then 443 else 80) }
    else none
  | none => none

end Network

abbrev Network := Network.Endpoint → Option Network.Server

def Network.silent : Network := fun _ => none

end BookFinder

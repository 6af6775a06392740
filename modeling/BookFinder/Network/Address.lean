import BookFinder.Url.Address
import BookFinder.Url.Basic

/-! # Addresses that a server listens at -/

namespace BookFinder.Network

inductive IpAddress where
  | v4 (value : Nat)
  /-- Eight pieces. -/
  | v6 (pieces : List Nat)
deriving DecidableEq, Repr

namespace IpAddress

/-- Four bytes in decimal digits without leading zeros. -/
def readV4 (cs : List Char) : Option Nat := do
  let bytes ← (Text.splitAt (· == '.') cs).mapM Url.Address.readByte
  if bytes.length = 4 then some (bytes.foldl (fun n b => n * 256 + b) 0) else none

def read (text : String) : Option IpAddress :=
  match readV4 text.toList with
  | some value => some (.v4 value)
  | none => (Url.Address.readIpv6 text.toList).map .v6

/-- An address of version 6 that stands for one of version 4 is written with the latter. -/
def render : IpAddress → List Char
  | v4 value => Url.renderIpv4 value
  | v6 [0, 0, 0, 0, 0, 0xFFFF, high, low] =>
    "::ffff:".toList ++ Url.renderIpv4 (high * 65536 + low)
  | v6 pieces => Url.renderIpv6 pieces

end IpAddress

structure SocketAddress where
  ip : IpAddress
  tcpPort : UInt16
deriving DecidableEq, Repr

def SocketAddress.render (address : SocketAddress) : List Char :=
  let ip := match address.ip with
    | .v4 _ => address.ip.render
    | .v6 _ => '[' :: address.ip.render ++ [']']
  ip ++ ':' :: Text.renderNat address.tcpPort.toNat

end BookFinder.Network

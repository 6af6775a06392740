import BookFinder.Decimal.Binary64
import BookFinder.Log.Level

/-! # Settings -/

namespace BookFinder

namespace Settings

structure General where
  debug : Bool := false
deriving DecidableEq, Repr

structure Server where
  tcpPort : UInt16 := 8080
  bindAddress : String := "127.0.0.1"
deriving DecidableEq, Repr

structure Remote where
  baseUrl : String := "https://api.itbook.store/1.0"
  /-- Seconds until a request is given up. -/
  requestTimeout : Binary64 := .ofNat 10
  /-- Idle connections that are kept for each host. -/
  poolSize : UInt64 := 20
  verifySsl : Bool := true
  proxy : Option String := none
  userAgent : String := "Book-Search-RS/0.1.0"
  /-- Most pages that one exclusion may fetch. -/
  maxPages : UInt32 := 100
deriving DecidableEq, Repr

end Settings

structure Settings where
  general : Settings.General := {}
  server : Settings.Server := {}
  catalog : Settings.Remote := {}
deriving DecidableEq, Repr

def Settings.logLevel (settings : Settings) : LogLevel :=
  if settings.general.debug then .debug else .info

end BookFinder

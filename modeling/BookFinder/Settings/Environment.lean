import BookFinder.Settings.Layer
import BookFinder.Text.Digits

/-! # Settings from the environment -/

namespace BookFinder.Settings

abbrev Environment := String → Option String

namespace Environment

def readTcpPort (text : String) : Option UInt16 :=
  (Text.readBelow UInt16.size text.toList).map UInt16.ofNat

/-- What the environment says about the settings. Any value but `true` turns debugging off, and a
value that is no TCP port says nothing. -/
def layer (environment : Environment) : Layer where
  debug := (environment "BOOKSEARCH_DEBUG").map (· == "true")
  tcpPort := (environment "BOOKSEARCH_PORT").bind readTcpPort
  bindAddress := environment "BOOKSEARCH_BIND_ADDRESS"
  baseUrl := environment "BOOKSEARCH_CATALOG_URL"

end Environment

end BookFinder.Settings

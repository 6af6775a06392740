import BookFinder.Url.Error

/-! # Failures of a catalog -/

namespace BookFinder.Catalog

/-- Why no requests can be sent through a proxy. -/
inductive ProxyError where
  | invalidUrl (cause : UrlError)
  | noHost (url : String)
  | unknownScheme
  | badHost
deriving DecidableEq, Repr

def ProxyError.message : ProxyError → String
  | invalidUrl cause => "builder error: " ++ cause.message
  | noHost url => "builder error for url (" ++ url ++ "): URL scheme is not allowed"
  | unknownScheme => "unknown proxy scheme"
  | badHost => "invalid uri character"

inductive CatalogError where
  /-- No complete answer came back. -/
  | transport
  /-- The answer has a status outside 200 to 299. -/
  | status (code : Nat) (body : String)
  /-- The answer holds no page. -/
  | malformed
  | invalidUrl (cause : UrlError)
  /-- The base URL has no path that could be extended. -/
  | noPath (raw : String)
  | invalidTimeout (seconds : String)
  | invalidProxy (cause : ProxyError)
  /-- The name that the client goes by cannot be sent. -/
  | invalidUserAgent
  | tooManyPages (reported limit : UInt32)
  | other (text : String)
deriving DecidableEq, Repr

def CatalogError.message : CatalogError → String
  | transport => "request failed"
  | status code body => "catalog returned HTTP " ++ toString code ++ ": " ++ body
  | malformed => "malformed catalog payload"
  | invalidUrl cause => "invalid catalog URL: " ++ cause.message
  | noPath raw => "catalog URL cannot be a base: " ++ raw
  | invalidTimeout seconds => "invalid catalog request timeout: " ++ seconds
  | invalidProxy cause => "request failed: builder error: " ++ cause.message
  | invalidUserAgent => "request failed: builder error: failed to parse header value"
  | tooManyPages reported limit =>
    "catalog reported " ++ toString reported ++ " pages, limit is " ++ toString limit
  | other text => text

end BookFinder.Catalog

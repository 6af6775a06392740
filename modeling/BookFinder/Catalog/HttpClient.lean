import BookFinder.Catalog.Payload
import BookFinder.Decimal.Shortest
import BookFinder.Network.Exchange
import BookFinder.Search.Event
import BookFinder.Settings.Basic
import BookFinder.Text.Utf8
import BookFinder.Url.Parser
import BookFinder.Web.Target

/-! # The catalog behind an HTTP interface

The page of a keyword is at `search/KEYWORD/PAGE` below the base URL. Settings that no request could
be sent with are refused beforehand.
-/

namespace BookFinder.Catalog

structure HttpClient where
  base : Url
  sender : Network.Sender

namespace HttpClient

/-- A time limit is not negative and counts fewer than `2 ^ 64` seconds. -/
def isTimeLimit : Binary64 → Bool
  | .finite negative units => (!negative || units == 0) && units < UInt64.size * Binary64.one
  | .infinite _ => false
  | .nan => false

/-- A header has no control characters but the tab. -/
def isHeaderText (text : String) : Bool :=
  text.toList.all fun c => c == '\t' || (0x20 ≤ c.toNat && c.toNat != 0x7F)

/-- The URL of a proxy, to which the scheme may be missing. -/
def proxyUrl (international : Url.International) (text : String) : Except ProxyError Url :=
  let withScheme (error : ProxyError) : Except ProxyError Url :=
    match Url.parse international ("http://" ++ text) with
    | .ok url => if url.hasHost then .ok url else .error error
    | .error _ => .error error
  match Url.parse international text with
  | .ok url =>
    if url.hasHost then .ok url else withScheme (.noHost (String.ofList url.render))
  | .error .relative => withScheme (.invalidUrl .relative)
  | .error cause => .error (.invalidUrl cause)

def readProxy (international : Url.International) (text : String) :
    Except ProxyError Network.Endpoint := do
  let url ← proxyUrl international text
  if !url.isWeb then .error .unknownScheme
  match Network.Endpoint.ofUrl url with
  | none => .error .badHost
  | some endpoint =>
    if Web.Target.isHost endpoint.host.toList then .ok endpoint else .error .badHost

/-- Checks the settings in the order of time limit, proxy, base URL and user agent. -/
def ofSettings (codecs : Network.Codecs) (settings : Settings.Remote) :
    Except CatalogError HttpClient := do
  if !isTimeLimit settings.requestTimeout then
    .error (.invalidTimeout (String.ofList settings.requestTimeout.text))
  let proxy ← match settings.proxy with
    | none => .ok none
    | some text =>
      match readProxy codecs.international text with
      | .ok endpoint => .ok (some endpoint)
      | .error cause => .error (.invalidProxy cause)
  let base ← match Url.parse codecs.international settings.baseUrl with
    | .ok url => .ok url
    | .error cause => .error (.invalidUrl cause)
  match base.path with
  | .opaquePath _ => .error (.noPath settings.baseUrl)
  | .segments _ =>
    if isHeaderText settings.userAgent then
      .ok { base, sender := { codecs, userAgent := settings.userAgent, proxy } }
    else .error .invalidUserAgent

def searchUrl (client : HttpClient) (keyword : String) (page : UInt32) : Url :=
  client.base.extendPath ["search".toList, keyword.toList, Text.renderNat page.toNat]

def maxRedirects : Nat := 10

/-- What the client reports of an answer that is no success. -/
structure Rejection where
  status : Nat
  body : String

def Rejection.message (rejection : Rejection) : String :=
  "Catalog returned " ++ Network.Status.render rejection.status ++ ": " ++ rejection.body

structure Fetch where
  result : Except CatalogError RemotePage
  requests : List Network.Request := []
  rejections : List Rejection := []

def Fetch.ofDocument (requests : List Network.Request) (document : Network.Document) : Fetch :=
  if Network.Status.isSuccess document.status then
    match RemotePage.read document.body with
    | some page => { result := .ok page, requests }
    | none => { result := .error .malformed, requests }
  else
    { result := .error (.status document.status document.body)
      requests
      rejections := [⟨document.status, document.body⟩] }

def fetchPage (client : HttpClient) (network : Network) (keyword : String) (page : UInt32) : Fetch :=
  let exchange := client.sender.fetch network maxRedirects (client.searchUrl keyword page)
  match exchange.document with
  | none => { result := .error .transport, requests := exchange.requests }
  | some document => .ofDocument exchange.requests document

/-- The catalog that the client reaches over a network. No answer comes at once. -/
def catalog (client : HttpClient) (network : Network) : Catalog := fun keyword page =>
  { delay := 1, result := (client.fetchPage network keyword page).result }

def requests (client : HttpClient) (network : Network) (calls : List Call) : List Network.Request :=
  calls.flatMap fun call => (client.fetchPage network call.keyword call.page).requests

end HttpClient

end BookFinder.Catalog

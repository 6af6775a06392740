import BookFinder.Network.Basic
import BookFinder.Network.BodyText
import BookFinder.Network.Status
import BookFinder.Text.Percent
import BookFinder.Url.Reference
import BookFinder.Web.Target

/-! # Getting a document over a network

One request for a URL, and one for every URL that a server sends the client to. Through a proxy the
request goes to the proxy and names the whole URL, unless it is encrypted: then the proxy is asked
for a tunnel to the server first.
-/

namespace BookFinder.Network

/-- A complete answer. -/
structure Document where
  status : Nat
  body : String

structure Exchange where
  /-- Nothing if no complete answer came. -/
  document : Option Document := none
  /-- The requests for documents, in their order. -/
  requests : List Request := []

structure Sender where
  codecs : Codecs
  userAgent : String
  proxy : Option Endpoint := none

namespace Sender

variable (sender : Sender)

/-! ## Requests -/

def pathAndQuery (url : Url) : List Char :=
  (if url.path.render.isEmpty then ['/'] else url.path.render) ++ url.renderQuery

def target (url : Url) : String :=
  match sender.proxy, url.host with
  | some _, some host =>
    if url.isSecure then String.ofList (pathAndQuery url)
    else
      String.ofList (url.scheme ++ "://".toList ++ url.renderUserInfo ++ host.render ++
        url.renderTcpPort ++ pathAndQuery url)
  | _, _ => String.ofList (pathAndQuery url)

/-- The field of a request with the name of the client; an empty name is none. -/
def agent : Option String := if sender.userAgent.isEmpty then none else some sender.userAgent

def request (url : Url) : Request :=
  { method := "GET", target := sender.target url, userAgent := sender.agent }

/-- What a proxy is asked for before it passes on what is encrypted. -/
def tunnelRequest (endpoint : Endpoint) : Request :=
  { method := "CONNECT"
    target := endpoint.host ++ ":" ++ String.ofList (Text.renderNat endpoint.tcpPort)
    userAgent := sender.agent }

/-- A tunnel is there with the end of the answer's fields; whatever follows them would be in it. -/
def opensTunnel : Reply → Bool
  | .answer 200 _ [] 0 => true
  | _ => false

def server (network : Network) (url : Url) : Option Server := do
  let endpoint ← Endpoint.ofUrl url
  match sender.proxy with
  | none => network endpoint
  | some proxy =>
    let between ← network proxy
    if !url.isSecure then some between
    else if opensTunnel (between (sender.tunnelRequest endpoint)) then network endpoint
    else none

/-! ## Answers -/

def unpacking (headers : Headers) : Option (List UInt8 → Option (List UInt8)) :=
  let codings := headers.values "content-encoding"
  if codings.contains "gzip" then some sender.codecs.gunzip
  else if codings.contains "br" then some sender.codecs.unbrotli
  else none

/-- The bytes that a body stands for. What is packed may be there in full though bytes are missing
after it. -/
def content (headers : Headers) (body : List UInt8) (missing : Nat) : Option (List UInt8) :=
  match sender.unpacking headers with
  | some unpack =>
    if body.isEmpty then if missing = 0 then some [] else none
    else unpack body
  | none => if missing = 0 then some body else none

def document? (status : Nat) (headers : Headers) (body : List UInt8) (missing : Nat) :
    Option Document :=
  if Status.hasNoBody status then some { status, body := "" }
  else (sender.content headers body missing).map fun bytes =>
    { status, body := BodyText.read sender.codecs headers bytes }

/-! ## Exchanges -/

/-- Whether a URL is a URI of the HTTP library: it is short enough, and its host is written in the
characters of a host. -/
def isSendable (url : Url) : Bool := (Web.Target.parse (String.ofList url.render)).isSome

/-- The URL that an answer sends the client to; one that cannot be sent is passed over. -/
def redirection (url : Url) (status : Nat) (headers : Headers) : Option Url :=
  if Status.isRedirect status then do
    let location ← (headers.values "location").head?
    (Url.resolve sender.codecs.international url location).toOption.filter isSendable
  else none

def get (network : Network) : (redirects : Nat) → Url → Exchange
  | redirects, url =>
    match sender.server network url with
    | none => {}
    | some server =>
      let request := sender.request url
      match server request with
      | .dropped => { requests := [request] }
      | .answer status headers body missing =>
        match sender.redirection url status headers with
        | none =>
          { document := sender.document? status headers body missing, requests := [request] }
        | some next =>
          match redirects with
          | 0 => { requests := [request] }
          | redirects + 1 =>
            let rest := get network redirects next
            { rest with requests := request :: rest.requests }

/-- The URL without its user information, which a request has in a field of its own. Names and
passwords that are no UTF-8 are left where they are. -/
def withoutUserInfo (url : Url) : Url :=
  let hasPassword := !url.password.isEmpty && (Text.Percent.decode? url.password).isSome
  match Text.Percent.decode? url.username with
  | some name =>
    if name.isEmpty && !hasPassword then url else { url with username := [], password := [] }
  | none => url

def fetch (network : Network) (redirects : Nat) (url : Url) : Exchange :=
  let url := withoutUserInfo url
  if url.isWeb && isSendable url then sender.get network redirects url else {}

end Sender

end BookFinder.Network

import BookFinder.Log.Filter
import BookFinder.Network.Address
import BookFinder.Settings.Load
import BookFinder.Web.Application

/-! # Starting the service

The settings are loaded first, as they say what is logged. Then the client is set up, the address is
read, and the service listens at it.
-/

namespace BookFinder

inductive StartError where
  | settings (cause : Settings.LoadError)
  | client (cause : Catalog.CatalogError)
  | badAddress
  /-- The operating system does not let the service listen. -/
  | cannotListen (reason : String)
deriving DecidableEq, Repr

def StartError.message : StartError → String
  | settings .unreadable => "the settings cannot be read"
  | settings .malformed => "the settings are malformed"
  | client cause => cause.message
  | badAddress => "invalid IP address syntax"
  | cannotListen reason => reason

inductive StartEvent where
  | starting
  | settingsFrom (path : String)
  | defaultSettings
  | clientReady (baseUrl : String)
  | listening (address : Network.SocketAddress)
deriving DecidableEq, Repr

namespace StartEvent

def message : StartEvent → String
  | starting => "Starting Book-Search-RS v" ++ Web.version
  | settingsFrom path => "Loaded settings from: " ++ path
  | defaultSettings => "No settings file found, using defaults"
  | clientReady baseUrl => "Catalog client initialized for " ++ baseUrl
  | listening address => "Starting server on http://" ++ String.ofList address.render

def level : LogLevel := .info

def target : String := "book_search_rs"

end StartEvent

/-- The application that a start leads to and where it listens, or what keeps it from starting, with
the events on the way. -/
structure Start where
  outcome : Except StartError (Web.Application × Network.SocketAddress)
  events : List StartEvent := []

namespace Start

def variableNames : List String :=
  ["BOOKSEARCH_SETTINGS_PATH", "BOOKSEARCH_DEBUG", "BOOKSEARCH_PORT", "BOOKSEARCH_BIND_ADDRESS",
    "BOOKSEARCH_CATALOG_URL", "RUST_LOG"]

/-- Starts with settings that have been loaded; `listen` is what the operating system says to an
address. -/
def ofLoaded (codecs : Network.Codecs) (listen : Network.SocketAddress → Except String Unit)
    (loaded : Settings.Loaded) : Start :=
  let settings := loaded.settings
  let events := [.starting, match loaded.source with
    | some path => .settingsFrom path
    | none => .defaultSettings]
  match Web.Application.ofSettings codecs settings with
  | .error cause => { outcome := .error (.client cause), events }
  | .ok app =>
    let events := events ++ [.clientReady settings.catalog.baseUrl]
    match Network.IpAddress.read settings.server.bindAddress with
    | none => { outcome := .error .badAddress, events }
    | some ip =>
      let address : Network.SocketAddress := { ip, tcpPort := settings.server.tcpPort }
      let events := events ++ [.listening address]
      match listen address with
      | .error reason => { outcome := .error (.cannotListen reason), events }
      | .ok () => { outcome := .ok (app, address), events }

/-- What the environment wants to see in the log; by default it is what the settings say. -/
def filter (environment : Settings.Environment) (settings : Settings) : LogFilter :=
  ((environment "RUST_LOG").bind LogFilter.read).getD (.ofLevel settings.logLevel)

def log (start : Start) (filter : LogFilter) : List String :=
  if filter.shows StartEvent.target StartEvent.level then start.events.map StartEvent.message else []

end Start

/-- Loads the settings and starts with them. The second part is the log. -/
def start (codecs : Network.Codecs) (files : Settings.FileSystem)
    (environment : Settings.Environment) (userDirectory : Option String)
    (listen : Network.SocketAddress → Except String Unit) : Start × List String :=
  match Settings.load files environment userDirectory with
  | .error cause => ({ outcome := .error (.settings cause) }, [])
  | .ok loaded =>
    let start := Start.ofLoaded codecs listen loaded
    (start, start.log (Start.filter environment loaded.settings))

end BookFinder

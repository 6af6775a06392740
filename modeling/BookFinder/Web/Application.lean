import BookFinder.Catalog.HttpClient
import BookFinder.Search.Request
import BookFinder.Web.Service

/-! # The service over the catalog that the settings name -/

namespace BookFinder.Web

structure Application where
  client : Catalog.HttpClient
  /-- Most pages that one exclusion may fetch. -/
  limit : UInt32

def Application.ofSettings (codecs : Network.Codecs) (settings : Settings) :
    Except Catalog.CatalogError Application := do
  let client ← Catalog.HttpClient.ofSettings codecs settings.catalog
  .ok { client, limit := settings.catalog.maxPages }

/-- The reply to a request, with the catalog reached over a network. -/
def Application.respond (app : Application) (network : Network) (request : Request) : Reply :=
  Web.respond (Search.search (app.client.catalog network) app.limit) request

def Application.requests (app : Application) (network : Network) (request : Request) :
    List Network.Request :=
  app.client.requests network (app.respond network request).calls

end BookFinder.Web

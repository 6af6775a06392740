import BookFinder.Catalog.Basic
import BookFinder.Catalog.Error
import BookFinder.Catalog.HttpClient
import BookFinder.Catalog.Memory
import BookFinder.Catalog.Payload
import BookFinder.Catalog.Record
import BookFinder.Decimal.Binary64
import BookFinder.Decimal.Reader
import BookFinder.Decimal.Shortest
import BookFinder.Json.Basic
import BookFinder.Json.Printer
import BookFinder.Json.Reader
import BookFinder.Log.Filter
import BookFinder.Log.Level
import BookFinder.Main
import BookFinder.Network.Address
import BookFinder.Network.Basic
import BookFinder.Network.BodyText
import BookFinder.Network.Codecs
import BookFinder.Network.Exchange
import BookFinder.Network.Headers
import BookFinder.Network.MediaType
import BookFinder.Network.Script
import BookFinder.Network.Status
import BookFinder.Proofs.Catalog.Address
import BookFinder.Proofs.Catalog.Canonical
import BookFinder.Proofs.Catalog.Client
import BookFinder.Proofs.Catalog.Fetching
import BookFinder.Proofs.Catalog.Payload
import BookFinder.Proofs.Catalog.Shapes
import BookFinder.Proofs.Catalog.Totals
import BookFinder.Proofs.Decimal.Reader
import BookFinder.Proofs.Decimal.Rounding
import BookFinder.Proofs.Entries
import BookFinder.Proofs.Json.Grammar
import BookFinder.Proofs.Json.Literal
import BookFinder.Proofs.Json.RoundTrip
import BookFinder.Proofs.Network.Replies
import BookFinder.Proofs.Query.Display
import BookFinder.Proofs.Query.Grammar
import BookFinder.Proofs.Query.Page
import BookFinder.Proofs.Search.Aggregation
import BookFinder.Proofs.Search.Agreement
import BookFinder.Proofs.Search.AllOrNothing
import BookFinder.Proofs.Search.Arrival
import BookFinder.Proofs.Search.Calls
import BookFinder.Proofs.Search.Limit
import BookFinder.Proofs.Search.Pagination
import BookFinder.Proofs.Search.Removal
import BookFinder.Proofs.Search.Reports
import BookFinder.Proofs.Search.Terms
import BookFinder.Proofs.Search.Validation
import BookFinder.Proofs.Settings.Document
import BookFinder.Proofs.Settings.Loading
import BookFinder.Proofs.Settings.Resolution
import BookFinder.Proofs.Text.FormUrlencoded
import BookFinder.Proofs.Text.Lowercase
import BookFinder.Proofs.Text.Percent
import BookFinder.Proofs.Text.Sigma
import BookFinder.Proofs.Text.Utf8
import BookFinder.Proofs.Url.Endpoint
import BookFinder.Proofs.Url.Segments
import BookFinder.Proofs.Url.Sendable
import BookFinder.Proofs.Web.Bodies
import BookFinder.Proofs.Web.Effects
import BookFinder.Proofs.Web.Pairs
import BookFinder.Proofs.Web.Refinement
import BookFinder.Proofs.Web.Replies
import BookFinder.Proofs.Web.Routes
import BookFinder.Proofs.Web.Target
import BookFinder.Proofs.Yaml.Scalars
import BookFinder.Query.Error
import BookFinder.Query.Expression
import BookFinder.Query.Page
import BookFinder.Search.Error
import BookFinder.Search.Event
import BookFinder.Search.FanOut
import BookFinder.Search.Request
import BookFinder.Search.Result
import BookFinder.Search.Run
import BookFinder.Settings.Basic
import BookFinder.Settings.Document
import BookFinder.Settings.Environment
import BookFinder.Settings.FileTree
import BookFinder.Settings.Layer
import BookFinder.Settings.Load
import BookFinder.Startup
import BookFinder.Text.Blank
import BookFinder.Text.CaseTable
import BookFinder.Text.Digits
import BookFinder.Text.FormUrlencoded
import BookFinder.Text.Hex
import BookFinder.Text.Lowercase
import BookFinder.Text.Percent
import BookFinder.Text.Split
import BookFinder.Text.Substring
import BookFinder.Text.Utf8
import BookFinder.Url.Address
import BookFinder.Url.Basic
import BookFinder.Url.Domain
import BookFinder.Url.Error
import BookFinder.Url.Escaping
import BookFinder.Url.Host
import BookFinder.Url.International
import BookFinder.Url.Parser
import BookFinder.Url.Punycode
import BookFinder.Url.Reference
import BookFinder.Url.Segments
import BookFinder.Web.Application
import BookFinder.Web.Arguments
import BookFinder.Web.Reply
import BookFinder.Web.Service
import BookFinder.Web.Target
import BookFinder.Yaml.CoreSchema
import BookFinder.Yaml.Document
import BookFinder.Yaml.Node
import BookFinder.Yaml.Node.Reader
import BookFinder.Yaml.Place
import BookFinder.Yaml.Scalar.Block
import BookFinder.Yaml.Scalar.Gap
import BookFinder.Yaml.Scalar.Plain
import BookFinder.Yaml.Scalar.Quoted
import BookFinder.Yaml.Token
import BookFinder.Yaml.Token.Lexer
import BookFinder.Yaml.Token.Property

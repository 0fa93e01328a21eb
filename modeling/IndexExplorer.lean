import IndexExplorer.Amount
import IndexExplorer.Api.Answer
import IndexExplorer.Api.Body
import IndexExplorer.Api.Route
import IndexExplorer.Api.Serve
import IndexExplorer.Check
import IndexExplorer.Clock
import IndexExplorer.Collection
import IndexExplorer.Connection
import IndexExplorer.CredentialSet
import IndexExplorer.Demo
import IndexExplorer.Digest.Basic
import IndexExplorer.Digest.Sha256
import IndexExplorer.Discovery
import IndexExplorer.Exchange
import IndexExplorer.Explorer
import IndexExplorer.Failure
import IndexExplorer.Failure.Given
import IndexExplorer.FieldKind
import IndexExplorer.Filter
import IndexExplorer.Gateway
import IndexExplorer.Headers
import IndexExplorer.HostFile
import IndexExplorer.IndexInfo
import IndexExplorer.Inflate.Block
import IndexExplorer.Inflate.Code
import IndexExplorer.Inflate.Wrapper
import IndexExplorer.Json.Basic
import IndexExplorer.Json.Display
import IndexExplorer.Json.Encoding
import IndexExplorer.Json.Finite
import IndexExplorer.Json.Part
import IndexExplorer.Json.Reader
import IndexExplorer.Json.Writer
import IndexExplorer.LogLevel
import IndexExplorer.Mapping
import IndexExplorer.Named
import IndexExplorer.Node
import IndexExplorer.Number.Binary64
import IndexExplorer.Number.Lenient
import IndexExplorer.Number.Read
import IndexExplorer.Number.Shortest
import IndexExplorer.Outcome
import IndexExplorer.Problem
import IndexExplorer.Proofs.Exchange.Run
import IndexExplorer.Proofs.Gateway.Failover
import IndexExplorer.Proofs.Gateway.Verdict
import IndexExplorer.Proofs.Headers
import IndexExplorer.Proofs.Query.Meaning
import IndexExplorer.Proofs.Request.Build
import IndexExplorer.Proofs.Session.Action
import IndexExplorer.Proofs.Session.Newest
import IndexExplorer.Proofs.Session.Standing
import IndexExplorer.Proofs.Signature.Sign
import IndexExplorer.Proofs.Signature.Stated
import IndexExplorer.Proofs.Signature.Verify
import IndexExplorer.Proofs.Signature.Working
import IndexExplorer.Proofs.Text.Split
import IndexExplorer.Query.Basic
import IndexExplorer.Query.Distance
import IndexExplorer.Query.Literal
import IndexExplorer.Random
import IndexExplorer.Redirect
import IndexExplorer.Reply
import IndexExplorer.Request
import IndexExplorer.SearchPage
import IndexExplorer.SendFault
import IndexExplorer.Service
import IndexExplorer.Session
import IndexExplorer.Settings
import IndexExplorer.Signature
import IndexExplorer.Store.Fault
import IndexExplorer.Store.Files
import IndexExplorer.Store.Ini
import IndexExplorer.Store.Keys
import IndexExplorer.Store.Metadata
import IndexExplorer.Store.Origin
import IndexExplorer.Store.Resolve
import IndexExplorer.Store.Role
import IndexExplorer.Store.SignOn
import IndexExplorer.Store.Source
import IndexExplorer.Text.Ascii
import IndexExplorer.Text.Base64
import IndexExplorer.Text.Blank
import IndexExplorer.Text.Case
import IndexExplorer.Text.Charset
import IndexExplorer.Text.Chart
import IndexExplorer.Text.Chart.Big5
import IndexExplorer.Text.Chart.Gb
import IndexExplorer.Text.Chart.HongKong
import IndexExplorer.Text.Chart.JisX0208
import IndexExplorer.Text.Chart.JisX0212
import IndexExplorer.Text.Chart.JisX0213
import IndexExplorer.Text.Chart.KsX1001
import IndexExplorer.Text.Chinese
import IndexExplorer.Text.CodePage
import IndexExplorer.Text.Digit
import IndexExplorer.Text.Escaped
import IndexExplorer.Text.Japanese
import IndexExplorer.Text.Korean
import IndexExplorer.Text.Lines
import IndexExplorer.Text.Lower
import IndexExplorer.Text.Multibyte
import IndexExplorer.Text.Parameter
import IndexExplorer.Text.Percent
import IndexExplorer.Text.Printable
import IndexExplorer.Text.Punycode
import IndexExplorer.Text.Quoted
import IndexExplorer.Text.Reading
import IndexExplorer.Text.Switched
import IndexExplorer.Text.Utf7
import IndexExplorer.Text.Utf8
import IndexExplorer.Text.Wide
import IndexExplorer.Url.Basic
import IndexExplorer.Url.Ip
import IndexExplorer.Url.Join
import IndexExplorer.Url.Parts
import IndexExplorer.Proofs.Session.Events
import IndexExplorer.Proofs.Session.Superseded
import IndexExplorer.Proofs.Session.Burst
import IndexExplorer.Proofs.Service.Agreement
import IndexExplorer.Proofs.Explorer.Address
import IndexExplorer.Proofs.Explorer.Access
import IndexExplorer.Proofs.Json.Numeral
import IndexExplorer.Proofs.Json.Quoted
import IndexExplorer.Proofs.Json.RoundTrip
import IndexExplorer.Proofs.Json.Bytes
import IndexExplorer.Proofs.Query.Document
import IndexExplorer.Proofs.Explorer.Body
import IndexExplorer.Proofs.Discovery.Ask
import IndexExplorer.Proofs.Discovery.Page
import IndexExplorer.Proofs.Discovery.Run
import IndexExplorer.Proofs.Discovery.Complete
import IndexExplorer.Proofs.Exchange.Alike
import IndexExplorer.Proofs.Signature.Secret
import IndexExplorer.Proofs.Explorer.Secret
import IndexExplorer.Proofs.Discovery.Region
import IndexExplorer.Proofs.Exchange.Told
import IndexExplorer.Proofs.Answer.Passes
import IndexExplorer.Proofs.Discovery.Told
import IndexExplorer.Proofs.Answer.Shapes
import IndexExplorer.Proofs.Answer.Tree
import IndexExplorer.Proofs.Gateway.Told
import IndexExplorer.Proofs.Explorer.Told
import IndexExplorer.Proofs.Text.Digit
import IndexExplorer.Proofs.Number.Spelling
import IndexExplorer.Proofs.Number.Script
import IndexExplorer.Proofs.Query.Literal
import IndexExplorer.Proofs.Query.Limit
import IndexExplorer.Proofs.Store.Sections
import IndexExplorer.Proofs.Store.Told
import IndexExplorer.Proofs.Store.Profiles
import IndexExplorer.Proofs.Request.Told
import IndexExplorer.Proofs.Exchange.Status
import IndexExplorer.Proofs.Api.Failures
import IndexExplorer.Proofs.Signature.Transport
import IndexExplorer.Proofs.Url.Rejoined
import IndexExplorer.Proofs.Signature.Placed
import IndexExplorer.Proofs.Explorer.Forward
import IndexExplorer.Proofs.Number.Digits
import IndexExplorer.Proofs.Number.Rounding
import IndexExplorer.Proofs.Number.Shortest
import IndexExplorer.Proofs.Number.Layout
import IndexExplorer.Proofs.Json.Standard
import IndexExplorer.Proofs.Json.Double
import IndexExplorer.Proofs.Query.Distance
import IndexExplorer.Proofs.Query.Finite
import IndexExplorer.Proofs.Query.Circle
import IndexExplorer.Proofs.Signature.Values
import IndexExplorer.Proofs.Signature.Added
import IndexExplorer.Proofs.Signature.Again
import IndexExplorer.Proofs.Url.Query
import IndexExplorer.Proofs.Signature.Query
import IndexExplorer.Proofs.Mapping.Leaves
import IndexExplorer.Proofs.Mapping.Paths
import IndexExplorer.Proofs.Gateway.Nodes
import IndexExplorer.Proofs.Explorer.Pages
import IndexExplorer.Proofs.Request.ContentType
import IndexExplorer.Proofs.Number.Integer
import IndexExplorer.Proofs.Answer.Listing

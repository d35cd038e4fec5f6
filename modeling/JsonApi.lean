import JsonApi.Address
import JsonApi.Attributes
import JsonApi.Body
import JsonApi.Client
import JsonApi.Coercion
import JsonApi.Compression
import JsonApi.Compression.Checksum
import JsonApi.Compression.Inflate
import JsonApi.Document
import JsonApi.Document.Primary
import JsonApi.Document.Reading
import JsonApi.Double
import JsonApi.Double.Reader
import JsonApi.Double.Shortest
import JsonApi.Encoding
import JsonApi.Encoding.Ascii
import JsonApi.Encoding.Base64
import JsonApi.Encoding.Detect
import JsonApi.Encoding.Hexadecimal
import JsonApi.Encoding.Utf8
import JsonApi.Encoding.Wide
import JsonApi.Entries
import JsonApi.Error
import JsonApi.ErrorObject
import JsonApi.Headers
import JsonApi.Host.Composed
import JsonApi.Host.Label
import JsonApi.Host.Punycode
import JsonApi.Host.Table.Combining
import JsonApi.Host.Table.Composition
import JsonApi.Host.Table.Direction
import JsonApi.Host.Table.Joining
import JsonApi.Host.Table.Mark
import JsonApi.Host.Table.Permitted
import JsonApi.Host.Table.Script
import JsonApi.Json
import JsonApi.Json.Coding
import JsonApi.Json.Limits
import JsonApi.Json.Reader
import JsonApi.Json.Shown
import JsonApi.Json.Token
import JsonApi.Json.Writer
import JsonApi.Linkage
import JsonApi.MediaType
import JsonApi.Negotiation
import JsonApi.Pointer
import JsonApi.Proofs.Attributes
import JsonApi.Proofs.Attributes.Canonical
import JsonApi.Proofs.Attributes.Kept
import JsonApi.Proofs.Attributes.Payload
import JsonApi.Proofs.Attributes.Refusal
import JsonApi.Proofs.Attributes.Spelling
import JsonApi.Proofs.Body
import JsonApi.Proofs.Client
import JsonApi.Proofs.Document.Complete
import JsonApi.Proofs.Document.Exits
import JsonApi.Proofs.Document.Forms
import JsonApi.Proofs.Document.Grammar
import JsonApi.Proofs.Document.Items
import JsonApi.Proofs.Document.Offence
import JsonApi.Proofs.Document.Reading
import JsonApi.Proofs.Document.Received
import JsonApi.Proofs.Document.Rendering
import JsonApi.Proofs.Document.RoundTrip
import JsonApi.Proofs.Document.Spelling
import JsonApi.Proofs.Document.Unknown
import JsonApi.Proofs.Document.Wire
import JsonApi.Proofs.Double.Rounding
import JsonApi.Proofs.Double.Shortest
import JsonApi.Proofs.Encoding.Utf8
import JsonApi.Proofs.ErrorDocument
import JsonApi.Proofs.Except
import JsonApi.Proofs.Failure
import JsonApi.Proofs.Headers
import JsonApi.Proofs.Host.Label
import JsonApi.Proofs.Host.Punycode
import JsonApi.Proofs.Json.Ascii
import JsonApi.Proofs.Json.Coding
import JsonApi.Proofs.Json.Dense
import JsonApi.Proofs.Json.Front
import JsonApi.Proofs.Json.Layout
import JsonApi.Proofs.Json.Leaves
import JsonApi.Proofs.Json.Limits
import JsonApi.Proofs.Json.Merged
import JsonApi.Proofs.Json.Number
import JsonApi.Proofs.Json.Numeral
import JsonApi.Proofs.Json.Repeated
import JsonApi.Proofs.Json.RoundTrip
import JsonApi.Proofs.Json.Scanning
import JsonApi.Proofs.Json.Settled
import JsonApi.Proofs.Json.Written
import JsonApi.Proofs.Linkage
import JsonApi.Proofs.MediaType
import JsonApi.Proofs.MediaType.Fields
import JsonApi.Proofs.MediaType.Joined
import JsonApi.Proofs.MediaType.Pieces
import JsonApi.Proofs.MediaType.Written
import JsonApi.Proofs.Pointer
import JsonApi.Proofs.Request.Decision
import JsonApi.Proofs.Request.Exits
import JsonApi.Proofs.Request.Kept
import JsonApi.Proofs.Request.RoundTrip
import JsonApi.Proofs.Request.Stable
import JsonApi.Proofs.Request.Stages
import JsonApi.Proofs.Request.Target
import JsonApi.Proofs.Response
import JsonApi.Proofs.Schema
import JsonApi.Proofs.Schema.Form
import JsonApi.Proofs.Schema.Target
import JsonApi.Proofs.Schema.Unmarshal
import JsonApi.Proofs.Text
import JsonApi.Proofs.Text.Case
import JsonApi.Proofs.Text.Integer
import JsonApi.Proofs.Text.Upper
import JsonApi.Proofs.Transport
import JsonApi.Proofs.Url.Authority
import JsonApi.Proofs.Url.Moved
import JsonApi.Proofs.Url.Normalise
import JsonApi.Proofs.Url.Path
import JsonApi.Proofs.Url.Percent
import JsonApi.Proofs.Url.Refusal
import JsonApi.Proofs.Wording
import JsonApi.Request
import JsonApi.Request.Build
import JsonApi.Resource
import JsonApi.Resource.Path
import JsonApi.Response
import JsonApi.Response.Coding
import JsonApi.Schema
import JsonApi.Schema.Record
import JsonApi.Section
import JsonApi.Settings
import JsonApi.Text
import JsonApi.Text.Blank
import JsonApi.Text.Case
import JsonApi.Text.Case.Table
import JsonApi.Text.Case.Words
import JsonApi.Text.Integer
import JsonApi.Text.Quoted
import JsonApi.Text.Unprintable
import JsonApi.Transport
import JsonApi.Url
import JsonApi.Url.Error
import JsonApi.Url.Percent
import JsonApi.Validation
import JsonApi.Value
import JsonApi.Value.Amount
import JsonApi.Value.Clock
import JsonApi.Value.Date
import JsonApi.Value.Moment
import JsonApi.Value.Spelling
import JsonApi.Violation

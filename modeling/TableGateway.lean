import TableGateway.Proofs.Json.RoundTrip
import TableGateway.Transport
import TableGateway.Proofs.Json.Reading
import TableGateway.Proofs.Key.Identifier
import TableGateway.Proofs.Check.Checked
import TableGateway.Proofs.Filter.Key
import TableGateway.Proofs.Filter.Scheme
import TableGateway.Proofs.Filter.Translation
import TableGateway.Proofs.Filter.Operators
import TableGateway.Proofs.Text.Stripped
import TableGateway.Proofs.Filter.Colons
import TableGateway.Proofs.Form
import TableGateway.Proofs.Gateway.Addressing
import TableGateway.Proofs.Gateway.Refusal
import TableGateway.Proofs.Gateway.Writes
import TableGateway.Proofs.Key.Identity
import TableGateway.Proofs.Value.Setting
import TableGateway.Proofs.Record.Shaping
import TableGateway.Proofs.Query.Several
import TableGateway.Proofs.Query.Lossless
import TableGateway.Proofs.Gateway.Reference
import TableGateway.Proofs.Gateway.Reports
import TableGateway.Proofs.Json.Ascii
import TableGateway.Proofs.Gateway.Bodies
import TableGateway.Proofs.Gateway.Revision
import TableGateway.Proofs.Json.Encoding
import TableGateway.Proofs.Transport.Port
import TableGateway.Proofs.Transport.Headers
import TableGateway.Proofs.Settings.Keys
import TableGateway.Proofs.Gateway.KeyFields
import TableGateway.Proofs.Gateway.Ordering
import TableGateway.Proofs.Query.Precedence
import TableGateway.Proofs.Query.Compound
import TableGateway.Proofs.Query.Joining
import TableGateway.Proofs.Json.Grammar
import TableGateway.Proofs.Json.Tokens
import TableGateway.Proofs.Json.Spelling
import TableGateway.Proofs.Json.Brackets
import TableGateway.Proofs.Key.Acceptance
import TableGateway.Proofs.Query.Reordering
import TableGateway.Proofs.Number.Numeral
import TableGateway.Proofs.Text.Trimmed
import TableGateway.Proofs.Response.Total
import TableGateway.Proofs.Query.Paging
import TableGateway.Proofs.Response.Lookup
import TableGateway.Proofs.Gateway.Totals
import TableGateway.Proofs.Query.Direction

import CloudLookup.Http.Wire
import CloudLookup.Json.Printer
import CloudLookup.Json.Reader
import CloudLookup.Variable
import CloudLookup.Settings
import CloudLookup.Text.Boundary
import CloudLookup.Http.ErrorBody
import CloudLookup.Describe.XmlAnswer
import CloudLookup.Url.Segments
import CloudLookup.Signature.Basic
import CloudLookup.Client.Basic
import CloudLookup.Client.Network
import CloudLookup.Main
import CloudLookup.Proofs.Lookup.Run
import CloudLookup.Proofs.Resolution.Basic
import CloudLookup.Proofs.Resolution.Strictness
import CloudLookup.Proofs.Text.Cutting
import CloudLookup.Proofs.Text.Trim
import CloudLookup.Proofs.Reference.Grammar
import CloudLookup.Proofs.Lookup.Record
import CloudLookup.Proofs.Resolution.Questions
import CloudLookup.Proofs.Json.Members
import CloudLookup.Proofs.Markup.Entity
import CloudLookup.Proofs.Markup.Element
import CloudLookup.Proofs.Markup.Reading
import CloudLookup.Proofs.Client.Preparing
import CloudLookup.Proofs.Text.Utf8
import CloudLookup.Proofs.Text.Boundary
import CloudLookup.Proofs.Describe.XmlAnswer
import CloudLookup.Proofs.Client.Refinement
import CloudLookup.Proofs.Reference.Form
import CloudLookup.Proofs.Variable.Region
import CloudLookup.Proofs.Url.Percent
import CloudLookup.Proofs.Url.Segments
import CloudLookup.Proofs.Client.SearchDomain
import CloudLookup.Proofs.Http.ErrorBody
import CloudLookup.Proofs.Lookup.Failure
import CloudLookup.Proofs.Client.Logging
import CloudLookup.Proofs.Record.Extract
import CloudLookup.Proofs.Resolution.Group
import CloudLookup.Proofs.Resolution.SubKind
import CloudLookup.Proofs.Json.Quoted
import CloudLookup.Proofs.Http.ErrorFormats
import CloudLookup.Proofs.Text.Composition
import CloudLookup.Proofs.Url.Domain
import CloudLookup.Proofs.Url.Host
import CloudLookup.Proofs.Url.Authority
import CloudLookup.Proofs.Url.Path
import CloudLookup.Proofs.Client.Endpoint
import CloudLookup.Proofs.Markup.Truncation
import CloudLookup.Proofs.Record.Place
import CloudLookup.Proofs.Url.Form
import CloudLookup.Proofs.Client.Encoding
import CloudLookup.Proofs.Signature.Covered
import CloudLookup.Proofs.Client.Sending
import CloudLookup.Proofs.Client.Exchange
import CloudLookup.Proofs.Program.Region
import CloudLookup.Proofs.Program.Running
import CloudLookup.Proofs.Variable.Routing
import CloudLookup.Proofs.Json.Parts
import CloudLookup.Proofs.Markup.Reads
import CloudLookup.Proofs.Markup.Grown
import CloudLookup.Proofs.Markup.NullFree
import CloudLookup.Proofs.Lookup.Ensures
import CloudLookup.Proofs.Client.NullFree
import CloudLookup.Proofs.Markup.Token
import CloudLookup.Proofs.Markup.Tag
import CloudLookup.Proofs.Markup.Layout
import CloudLookup.Proofs.Record.Composition
import CloudLookup.Proofs.Resolution.Decisive
import CloudLookup.Proofs.Json.Lexical
import CloudLookup.Proofs.Json.Grammar
import CloudLookup.Proofs.Settings.Loading
import CloudLookup.Proofs.Text.ByteOrder
import CloudLookup.Proofs.Record.Candidates
import CloudLookup.Proofs.Lookup.Origin
import CloudLookup.Proofs.Resolution.Missing
import CloudLookup.Proofs.Markup.Grouping
import CloudLookup.Proofs.Describe.Normalizing
import CloudLookup.Proofs.Markup.Nesting
import CloudLookup.Proofs.Markup.Turns

import TypedRoutes.Assoc
import TypedRoutes.Diagnostic
import TypedRoutes.Fault
import TypedRoutes.Json.Reader
import TypedRoutes.Json.Writer
import TypedRoutes.Matching
import TypedRoutes.Number.Binary64
import TypedRoutes.Number.Decimal
import TypedRoutes.Pattern.Basic
import TypedRoutes.Pattern.Grammar
import TypedRoutes.Pattern.Param
import TypedRoutes.Pattern.Token
import TypedRoutes.Pattern.Vocabulary
import TypedRoutes.Proofs.Assoc
import TypedRoutes.Proofs.Building
import TypedRoutes.Proofs.Conversion
import TypedRoutes.Proofs.Json.Limits
import TypedRoutes.Proofs.Json.Texts
import TypedRoutes.Proofs.Matching
import TypedRoutes.Proofs.Matching.Globals
import TypedRoutes.Proofs.Number.Decimal
import TypedRoutes.Proofs.Path.Componentwise
import TypedRoutes.Proofs.Path.Coverage
import TypedRoutes.Proofs.Path.Ownership
import TypedRoutes.Proofs.Path.Reading
import TypedRoutes.Proofs.Path.Running
import TypedRoutes.Proofs.Path.Segment
import TypedRoutes.Proofs.Path.Verbatim
import TypedRoutes.Proofs.Pattern.Components
import TypedRoutes.Proofs.Pattern.Faults
import TypedRoutes.Proofs.Pattern.FinalSlash
import TypedRoutes.Proofs.Pattern.Grammar
import TypedRoutes.Proofs.Pattern.Outcomes
import TypedRoutes.Proofs.Pattern.Sameness
import TypedRoutes.Proofs.Pattern.Scanning
import TypedRoutes.Proofs.Pattern.Token
import TypedRoutes.Proofs.Record
import TypedRoutes.Proofs.Record.Decoding
import TypedRoutes.Proofs.Record.Hint
import TypedRoutes.Proofs.Regex.Anchoring
import TypedRoutes.Proofs.Regex.Captured
import TypedRoutes.Proofs.Regex.Covering
import TypedRoutes.Proofs.Regex.Extension
import TypedRoutes.Proofs.Regex.Groups
import TypedRoutes.Proofs.Regex.Moves
import TypedRoutes.Proofs.Regex.Reading
import TypedRoutes.Proofs.Regex.Refusals
import TypedRoutes.Proofs.Regex.Running
import TypedRoutes.Proofs.Regex.Scanning
import TypedRoutes.Proofs.Regex.Walk
import TypedRoutes.Proofs.Regex.Ways
import TypedRoutes.Proofs.RouteTable.Answering
import TypedRoutes.Proofs.RouteTable.Globals
import TypedRoutes.Proofs.RouteTable.Refusal
import TypedRoutes.Proofs.RouteTable.Resolution
import TypedRoutes.Proofs.RouteTable.Session
import TypedRoutes.Proofs.Settings.Names
import TypedRoutes.Proofs.Settings.Precedence
import TypedRoutes.Proofs.Settings.Problems
import TypedRoutes.Proofs.Settings.Variables
import TypedRoutes.Proofs.Stages
import TypedRoutes.Proofs.Text.Percent
import TypedRoutes.Proofs.Text.Pieces
import TypedRoutes.Proofs.TokenOrder
import TypedRoutes.Proofs.TypeTable
import TypedRoutes.Proofs.Url.Authority
import TypedRoutes.Proofs.Url.Components
import TypedRoutes.Proofs.Url.Edits
import TypedRoutes.Proofs.Url.Items
import TypedRoutes.Proofs.Url.Parsing
import TypedRoutes.Proofs.ValueType
import TypedRoutes.Proofs.Vocabulary
import TypedRoutes.Record.Basic
import TypedRoutes.Record.FieldType
import TypedRoutes.Regex.Matcher
import TypedRoutes.Regex.Parser
import TypedRoutes.Regex.Search
import TypedRoutes.Regex.Syntax
import TypedRoutes.RouteTable
import TypedRoutes.Settings.Basic
import TypedRoutes.Settings.Glob
import TypedRoutes.Settings.Object
import TypedRoutes.Settings.Sources
import TypedRoutes.Settings.Tree
import TypedRoutes.Text.Case
import TypedRoutes.Text.Class
import TypedRoutes.Text.Identifier
import TypedRoutes.Text.Percent
import TypedRoutes.Text.Pieces
import TypedRoutes.Text.Printable
import TypedRoutes.Text.Quoted
import TypedRoutes.Text.Ranges
import TypedRoutes.Text.Similarity
import TypedRoutes.TypeTable
import TypedRoutes.Url.Address
import TypedRoutes.Url.Authority
import TypedRoutes.Url.Basic
import TypedRoutes.Url.Query
import TypedRoutes.Value.Basic
import TypedRoutes.ValueType

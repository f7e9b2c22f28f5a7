import LayeredConfig.Assembly
import LayeredConfig.Calendar
import LayeredConfig.CommandLine
import LayeredConfig.CommandLine.Command
import LayeredConfig.CommandLine.Words
import LayeredConfig.Config
import LayeredConfig.Context
import LayeredConfig.Conversion.Registry
import LayeredConfig.Conversion.Scalar
import LayeredConfig.Conversion.Target
import LayeredConfig.Conversion.Target.Reader
import LayeredConfig.Conversion.Value
import LayeredConfig.Data
import LayeredConfig.Data.Flat
import LayeredConfig.Data.Json
import LayeredConfig.Document
import LayeredConfig.Document.Json
import LayeredConfig.Document.Toml
import LayeredConfig.Document.Toml.Scalar
import LayeredConfig.Document.Toml.Tables
import LayeredConfig.Document.Yaml
import LayeredConfig.Document.Yaml.Cursor
import LayeredConfig.Document.Yaml.Form
import LayeredConfig.Document.Yaml.Node
import LayeredConfig.Document.Yaml.Token
import LayeredConfig.Document.Yaml.Written
import LayeredConfig.Duration
import LayeredConfig.Entry
import LayeredConfig.Failure
import LayeredConfig.Files
import LayeredConfig.Filter
import LayeredConfig.Filter.Stock
import LayeredConfig.Journal
import LayeredConfig.Ledger
import LayeredConfig.Merge
import LayeredConfig.MetaKeys
import LayeredConfig.Number.Binary64
import LayeredConfig.Number.Decimal
import LayeredConfig.Number.Integer
import LayeredConfig.Number.Power
import LayeredConfig.Path
import LayeredConfig.Pattern
import LayeredConfig.Pattern.Reader
import LayeredConfig.Policy
import LayeredConfig.Sorting
import LayeredConfig.Source
import LayeredConfig.Source.Dotenv
import LayeredConfig.Source.Environment
import LayeredConfig.Source.File
import LayeredConfig.Source.Guarded
import LayeredConfig.Source.Mapping
import LayeredConfig.Text.Blank
import LayeredConfig.Text.Blocks
import LayeredConfig.Text.Case
import LayeredConfig.Text.Cut
import LayeredConfig.Text.Digit
import LayeredConfig.Text.Encoding
import LayeredConfig.Text.Kindred
import LayeredConfig.Text.Printable
import LayeredConfig.Text.Quoted
import LayeredConfig.Text.Ranges
import LayeredConfig.Text.Word
import LayeredConfig.Tokens
import LayeredConfig.World
import LayeredConfig.Main
import LayeredConfig.Proofs.Attribution
import LayeredConfig.Proofs.Settling
import LayeredConfig.Proofs.Steadiness
import LayeredConfig.Proofs.Metadata
import LayeredConfig.Proofs.Selection
import LayeredConfig.Proofs.Agreement
import LayeredConfig.Proofs.Reference
import LayeredConfig.Proofs.StockSources
import LayeredConfig.Proofs.Filtering
import LayeredConfig.Proofs.StockFilters
import LayeredConfig.Proofs.Publication
import LayeredConfig.Proofs.Segments
import LayeredConfig.Proofs.Sequences
import LayeredConfig.Proofs.Collecting
import LayeredConfig.Proofs.Concealment
import LayeredConfig.Proofs.Literals
import LayeredConfig.Proofs.Nesting
import LayeredConfig.Proofs.Loading
import LayeredConfig.Proofs.Precedence
import LayeredConfig.Proofs.Repetition
import LayeredConfig.Proofs.Locality
import LayeredConfig.Proofs.Permanence
import LayeredConfig.Proofs.Instances
import LayeredConfig.Proofs.Separators
import LayeredConfig.Proofs.Fallback
import LayeredConfig.Proofs.Registration
import LayeredConfig.Proofs.Framing
import LayeredConfig.Proofs.Indifference
import LayeredConfig.Proofs.Thinning
import LayeredConfig.Proofs.Enablement
import LayeredConfig.Proofs.Inquiry
import LayeredConfig.Proofs.Recovery
import LayeredConfig.Proofs.Accounting
import LayeredConfig.Proofs.Staleness
import LayeredConfig.Proofs.Bracketing
import LayeredConfig.Proofs.Portability
import LayeredConfig.Proofs.Attempts
import LayeredConfig.Proofs.Rejoining
import LayeredConfig.Proofs.Coherence
import LayeredConfig.Proofs.Admission
import LayeredConfig.Proofs.Delimiting
import LayeredConfig.Proofs.Naming
import LayeredConfig.Proofs.Itemization
import LayeredConfig.Proofs.Chains
import LayeredConfig.Proofs.Numerals
import LayeredConfig.Proofs.Rounding
import LayeredConfig.Proofs.Durations
import LayeredConfig.Proofs.Typing
import LayeredConfig.Proofs.Freezing
import LayeredConfig.Proofs.Pieces
import LayeredConfig.Proofs.Variables
import LayeredConfig.Proofs.Remarks
import LayeredConfig.Proofs.Walks
import LayeredConfig.Proofs.Ascent
import LayeredConfig.Proofs.Ordinals
import LayeredConfig.Proofs.Spellings
import LayeredConfig.Proofs.Flattening
import LayeredConfig.Proofs.Members
import LayeredConfig.Proofs.Trails

import Jp2Render.Activity
import Jp2Render.Arithmetic
import Jp2Render.Backend.Basic
import Jp2Render.Backend.Graph
import Jp2Render.Backend.Processing
import Jp2Render.Backend.Raster
import Jp2Render.Binary64.Basic
import Jp2Render.Binary64.Decimal
import Jp2Render.Binary64.Trigonometry
import Jp2Render.Bytes
import Jp2Render.Command
import Jp2Render.CommandLine.Argument
import Jp2Render.CommandLine.Parse
import Jp2Render.CommandLine.Run
import Jp2Render.Configuration.Basic
import Jp2Render.Configuration.Rules
import Jp2Render.Configuration.Settings
import Jp2Render.Decoder
import Jp2Render.Dimensions
import Jp2Render.Failure
import Jp2Render.Failure.Kind
import Jp2Render.FaultText
import Jp2Render.FileTree
import Jp2Render.Header
import Jp2Render.Journal
import Jp2Render.Logging.Basic
import Jp2Render.Logging.Hierarchy
import Jp2Render.Main
import Jp2Render.Memory
import Jp2Render.OutputFormat
import Jp2Render.Path
import Jp2Render.Picture.Basic
import Jp2Render.Picture.Bicubic
import Jp2Render.Picture.Encoded
import Jp2Render.Picture.Fault
import Jp2Render.Picture.Grid
import Jp2Render.Picture.Held
import Jp2Render.Picture.Lanczos
import Jp2Render.Picture.Level
import Jp2Render.Picture.Library
import Jp2Render.Picture.Linear
import Jp2Render.Picture.Netpbm
import Jp2Render.Picture.Netpbm.Fault
import Jp2Render.Picture.Netpbm.Header
import Jp2Render.Picture.Netpbm.Samples
import Jp2Render.Picture.Raw
import Jp2Render.Process.Behaviour
import Jp2Render.Process.Outcome
import Jp2Render.Process.Run
import Jp2Render.Process.Stream
import Jp2Render.Raster
import Jp2Render.Reduction
import Jp2Render.Region
import Jp2Render.Request
import Jp2Render.RequestText
import Jp2Render.Rotation
import Jp2Render.Service
import Jp2Render.Shown
import Jp2Render.Size
import Jp2Render.SourceFormat
import Jp2Render.SystemError
import Jp2Render.Text.Blank
import Jp2Render.Text.Case
import Jp2Render.Text.Digit
import Jp2Render.Text.Fields
import Jp2Render.Text.Numeral
import Jp2Render.Text.Printable
import Jp2Render.Text.Quoted
import Jp2Render.Text.Utf8
import Jp2Render.Toml.Blank
import Jp2Render.Toml.Document
import Jp2Render.Toml.Fault
import Jp2Render.Toml.Moment
import Jp2Render.Toml.Number
import Jp2Render.Toml.Quotation
import Jp2Render.Toml.Reading
import Jp2Render.Toml.Value
import Jp2Render.Xml.Charset
import Jp2Render.Xml.Content
import Jp2Render.Xml.Declaration
import Jp2Render.Xml.Doctype
import Jp2Render.Xml.Document
import Jp2Render.Xml.Element
import Jp2Render.Xml.Encoding
import Jp2Render.Xml.Markup
import Jp2Render.Xml.NameCharacter
import Jp2Render.Xml.Namespace
import Jp2Render.Xml.PrologToken
import Jp2Render.Xml.Refusal
import Jp2Render.Xml.Scan
import Jp2Render.Xml.Value
import Jp2Render.Proofs.Draining
import Jp2Render.Proofs.Supervision
import Jp2Render.Proofs.Binary64.Rounding
import Jp2Render.Proofs.Binary64.Integers
import Jp2Render.Proofs.Sequencing
import Jp2Render.Proofs.Turning
import Jp2Render.Proofs.Backend.Agreement
import Jp2Render.Proofs.Serving
import Jp2Render.Proofs.Arithmetic
import Jp2Render.Proofs.Binary64.Range
import Jp2Render.Proofs.Escapes.Faults
import Jp2Render.Proofs.Escapes.Header
import Jp2Render.Proofs.Escapes.Plan
import Jp2Render.Proofs.Escapes.Raster
import Jp2Render.Proofs.Escapes.Stages
import Jp2Render.Proofs.Escapes.Target
import Jp2Render.Proofs.Escapes.RasterStages
import Jp2Render.Proofs.Escapes.GraphStages
import Jp2Render.Proofs.Escapes.Reporting
import Jp2Render.Proofs.Escapes.Render
import Jp2Render.Proofs.Binary64.Powers
import Jp2Render.Proofs.Reduction.Target
import Jp2Render.Proofs.Reduction.Plan
import Jp2Render.Proofs.Commands
import Jp2Render.Proofs.Decoding
import Jp2Render.Proofs.Delivery
import Jp2Render.Proofs.FileTree.Walking
import Jp2Render.Proofs.FileTree.Growth
import Jp2Render.Proofs.Blame
import Jp2Render.Proofs.Endings
import Jp2Render.Proofs.Text.Utf8
import Jp2Render.Proofs.Toml.Reading
import Jp2Render.Proofs.Configuration.Loading
import Jp2Render.Proofs.Configuration.Merging
import Jp2Render.Proofs.Configuration.Rules
import Jp2Render.Proofs.Header.Search
import Jp2Render.Proofs.Header.Sides
import Jp2Render.Proofs.Backend.Interchange
import Jp2Render.Proofs.Picture.Level
import Jp2Render.Proofs.Picture.EightBit
import Jp2Render.Proofs.Binary64.Values
import Jp2Render.Proofs.Reduction.Greatest
import Jp2Render.Proofs.Binary64.Decimal
import Jp2Render.Proofs.Region.Argument
import Jp2Render.Proofs.Region.Extent
import Jp2Render.Proofs.Netpbm.Files
import Jp2Render.Proofs.Netpbm.Samples
import Jp2Render.Proofs.Picture.Brightness
import Jp2Render.Proofs.Netpbm.Printed
import Jp2Render.Proofs.Scaling.Lengths
import Jp2Render.Proofs.Scaling.Delivered
import Jp2Render.Proofs.Scaling.Percent
import Jp2Render.Proofs.Turning.WholeTurns
import Jp2Render.Proofs.Turning.Sampling
import Jp2Render.Proofs.Commands.Drafting
import Jp2Render.Proofs.Path
import Jp2Render.Proofs.Commands.Unambiguous
import Jp2Render.Proofs.Text.Numerals
import Jp2Render.Proofs.RequestText.Forms
import Jp2Render.Proofs.RequestText.Lengths
import Jp2Render.Proofs.Logging.Hierarchy
import Jp2Render.Proofs.Logging.Levels
import Jp2Render.Proofs.FileTree.Directories
import Jp2Render.Proofs.FileTree.Linking
import Jp2Render.Proofs.Reduction.Rounds

import PgBinding.Buffer
import PgBinding.Cli.Arguments
import PgBinding.Cli.Commands
import PgBinding.Cli.Config
import PgBinding.Cli.Failure
import PgBinding.Cli.Help
import PgBinding.Cli.Interface
import PgBinding.Cli.Invocation
import PgBinding.Cli.Report
import PgBinding.Cli.Run
import PgBinding.Engine.Basic
import PgBinding.Engine.Global
import PgBinding.Engine.Journal
import PgBinding.Engine.Library
import PgBinding.Engine.Scripted
import PgBinding.Error
import PgBinding.Float64.Bits
import PgBinding.Float64.Shortest
import PgBinding.Json.Read
import PgBinding.Json.Value
import PgBinding.Json.Write
import PgBinding.Log
import PgBinding.Main
import PgBinding.Materialize
import PgBinding.Options
import PgBinding.Parser.Deparse
import PgBinding.Parser.Read
import PgBinding.Parser.Run
import PgBinding.Scan.Token
import PgBinding.Serialized
import PgBinding.Span
import PgBinding.Text.Alnum
import PgBinding.Text.Blank
import PgBinding.Text.Debug
import PgBinding.Text.Escape
import PgBinding.Text.Hex
import PgBinding.Text.LineBreak
import PgBinding.Text.Lower
import PgBinding.Text.Similarity
import PgBinding.Text.Utf8
import PgBinding.Text.Width
import PgBinding.Text.Width.Unicode15
import PgBinding.Text.Width.Unicode17
import PgBinding.Text.Wrap
import PgBinding.Toml.Decode
import PgBinding.Toml.Document
import PgBinding.Toml.Error
import PgBinding.Toml.Grammar
import PgBinding.Toml.Read
import PgBinding.Toml.Reading
import PgBinding.Toy.Engine
import PgBinding.Toy.Grammar
import PgBinding.Tree.Decode
import PgBinding.Tree.Encode
import PgBinding.Tree.Kind
import PgBinding.Tree.Node
import PgBinding.Tree.Parsed
import PgBinding.Tree.View
import PgBinding.View.Engine
import PgBinding.View.Error
import PgBinding.Wire.Basic
import PgBinding.Wire.Field
import PgBinding.Proofs.Operation
import PgBinding.Proofs.Release
import PgBinding.Proofs.Precedence
import PgBinding.Proofs.WireCodec
import PgBinding.Proofs.DecoderRounds
import PgBinding.Proofs.NodeCodec
import PgBinding.Proofs.PayloadCodec
import PgBinding.Proofs.InputForms
import PgBinding.Proofs.TextDecoding
import PgBinding.Proofs.Splitting
import PgBinding.Proofs.DeparseComments
import PgBinding.Proofs.CheckedLengths
import PgBinding.Proofs.CommentExtraction
import PgBinding.Proofs.OptionsWord
import PgBinding.Proofs.ErrorReports
import PgBinding.Proofs.LibraryResolution
import PgBinding.Proofs.ProcessLibrary
import PgBinding.Proofs.DecoderFrame
import PgBinding.Proofs.DecoderFuel
import PgBinding.Proofs.Concatenation
import PgBinding.Proofs.ConfigSchema
import PgBinding.Proofs.ToyTexts
import PgBinding.Proofs.ToyLedger
import PgBinding.Proofs.ToySplitting
import PgBinding.Proofs.ToyComments
import PgBinding.Proofs.ToyNormalizing
import PgBinding.Proofs.ToyRoundTrip
import PgBinding.Proofs.ToyScanning

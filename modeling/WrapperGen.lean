import WrapperGen.Interface.Form
import WrapperGen.Main
import WrapperGen.Session
import WrapperGen.Proofs.Interface.Concatenation
import WrapperGen.Proofs.Interface.LineGrammar
import WrapperGen.Proofs.Interface.Spans
import WrapperGen.Proofs.Interface.WellFormed
import WrapperGen.Proofs.Stub.Admissibility
import WrapperGen.Proofs.Stub.Enumerations
import WrapperGen.Proofs.Text.Utf8
import WrapperGen.Proofs.Interface.Reordering
import WrapperGen.Proofs.Interface.Written
import WrapperGen.Proofs.Header.LineOrder
import WrapperGen.Proofs.Stub.Unbroken
import WrapperGen.Proofs.Stub.Parameters
import WrapperGen.Proofs.Writer
import WrapperGen.Proofs.Header.Frame
import WrapperGen.Proofs.Diagnostic.Location
import WrapperGen.Proofs.Failing
import WrapperGen.Proofs.FileTree.Walk
import WrapperGen.Proofs.FileTree.Change
import WrapperGen.Proofs.Path
import WrapperGen.Proofs.Session
import WrapperGen.Proofs.Command.Questions
import WrapperGen.Proofs.Command.Preparation
import WrapperGen.Proofs.Command.Writing
import WrapperGen.Proofs.Command.Generation
import WrapperGen.Proofs.Command.Agreement
import WrapperGen.Proofs.Json.Strings
import WrapperGen.Proofs.Json.Spelling
import WrapperGen.Proofs.Json.Grammar
import WrapperGen.Proofs.Json.Skipping
import WrapperGen.Proofs.Json.Readers
import WrapperGen.Proofs.Json.Members
import WrapperGen.Proofs.Json.Edits
import WrapperGen.Proofs.Json.Printed
import WrapperGen.Proofs.Json.Records
import WrapperGen.Proofs.Config.Targets
import WrapperGen.Proofs.Config.RoundTrip
import WrapperGen.Proofs.Config.Edits
import WrapperGen.Proofs.Header.Provenance
import WrapperGen.Proofs.Text.Returns
import WrapperGen.Proofs.Interface.Returns
import WrapperGen.Proofs.Header.LineEnds
import WrapperGen.Proofs.Interface.Form
import WrapperGen.Proofs.FileTree.Places
import WrapperGen.Proofs.FileTree.Ways
import WrapperGen.Proofs.Command.Admission
import WrapperGen.Proofs.Command.Repetition
import WrapperGen.Proofs.Command.Ownership
import WrapperGen.Proofs.Command.Overrides
import WrapperGen.Proofs.Command.Printing
import WrapperGen.Proofs.Command.Relocation
import WrapperGen.Proofs.Diagnostic.Lines
import WrapperGen.Proofs.Json.Printable
import WrapperGen.Proofs.Command.Records
import WrapperGen.Proofs.Command.Reports
import WrapperGen.Proofs.Text.Replacing
import WrapperGen.Proofs.Template
import WrapperGen.Proofs.Text.Decoding
import WrapperGen.Proofs.Diagnostic.Colour
import WrapperGen.Proofs.Writer.Indentation
import WrapperGen.Proofs.Text.Blocks
import WrapperGen.Proofs.Writer.Blocks
import WrapperGen.Proofs.TypeTable.Extension

import SexprAsm.CommandLine.Arguments
import SexprAsm.CommandLine.FileTree
import SexprAsm.CommandLine.Host
import SexprAsm.CommandLine.Path
import SexprAsm.CommandLine.Run
import SexprAsm.CommandLine.Switch
import SexprAsm.CommandLine.Usage
import SexprAsm.Compilation
import SexprAsm.Diagnostic
import SexprAsm.Listing
import SexprAsm.Listing.Generator
import SexprAsm.Listing.Visit
import SexprAsm.Log
import SexprAsm.Main
import SexprAsm.Node
import SexprAsm.Node.Dump
import SexprAsm.Node.Reader
import SexprAsm.Node.TreeReader
import SexprAsm.Proofs.CharClass
import SexprAsm.Proofs.DepthLimit
import SexprAsm.Proofs.EndToEnd
import SexprAsm.Proofs.Flatten
import SexprAsm.Proofs.Layout
import SexprAsm.Proofs.Lexeme
import SexprAsm.Proofs.ListingShape
import SexprAsm.Proofs.Postorder
import SexprAsm.Proofs.Reading
import SexprAsm.Proofs.StackMachine
import SexprAsm.Proofs.Transducer
import SexprAsm.Reading
import SexprAsm.Text.Blank
import SexprAsm.Text.CodeRange
import SexprAsm.Text.Newline
import SexprAsm.Text.Numeral
import SexprAsm.Text.Printable
import SexprAsm.Text.Printable.Table
import SexprAsm.Text.Quoted
import SexprAsm.Text.Uppercase
import SexprAsm.Text.Uppercase.Table
import SexprAsm.Text.Utf8
import SexprAsm.Token
import SexprAsm.Token.Scanner
import SexprAsm.Proofs.Grammar
import SexprAsm.Proofs.ValidPrefix
import SexprAsm.Proofs.LimitAgreement
import SexprAsm.Proofs.ScanFaults
import SexprAsm.Proofs.ExitCode
import SexprAsm.Proofs.Concatenation
import SexprAsm.Proofs.LimitFilter
import SexprAsm.Proofs.IgnoredTexts
import SexprAsm.Proofs.ArgumentKeep
import SexprAsm.Proofs.FileFrame
import SexprAsm.Proofs.Traversal
import SexprAsm.Proofs.Styles
import SexprAsm.Proofs.FileAgreement
import SexprAsm.Proofs.LineEnds
import SexprAsm.Proofs.Utf8RoundTrip
import SexprAsm.Proofs.SourceArgument
import SexprAsm.Proofs.SourceChannel
import SexprAsm.Proofs.ListingFormat
import SexprAsm.Proofs.Dumps
import SexprAsm.Proofs.PaddedListing
import SexprAsm.Proofs.ReaderProgress
import SexprAsm.Proofs.FormLocality
import SexprAsm.Proofs.ConsoleListing
import SexprAsm.Proofs.ScanPositions

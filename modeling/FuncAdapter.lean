import FuncAdapter.Text.CodeRange
import FuncAdapter.Text.Printable
import FuncAdapter.Text.DecimalDigit
import FuncAdapter.Text.CaseTable
import FuncAdapter.Text.LetterCase
import FuncAdapter.Text.Join
import FuncAdapter.Text.Quoted
import FuncAdapter.Text.Utf8
import FuncAdapter.Table
import FuncAdapter.Document.Basic
import FuncAdapter.Number.Shortest
import FuncAdapter.Number.Literal
import FuncAdapter.Document.Display
import FuncAdapter.Document.Malformed
import FuncAdapter.Syntax.Expr
import FuncAdapter.Syntax.Decl
import FuncAdapter.Syntax.Source
import FuncAdapter.Syntax.Display
import FuncAdapter.Syntax.Encoding
import FuncAdapter.Program.Basic
import FuncAdapter.Program.Encoding
import FuncAdapter.Program.Target
import FuncAdapter.Naming.TypeName
import FuncAdapter.Naming.Distinct
import FuncAdapter.Adapter
import FuncAdapter.MessagePack.BigEndian
import FuncAdapter.MessagePack.Writer
import FuncAdapter.MessagePack.Reader
import FuncAdapter.Number.Rounded
import FuncAdapter.Json.Fault
import FuncAdapter.Json.Reader
import FuncAdapter.FileSystem.Path
import FuncAdapter.FileSystem.Tree
import FuncAdapter.Snapshot
import FuncAdapter.Log
import FuncAdapter.Scan
import FuncAdapter.CommandLine.Arguments
import FuncAdapter.CommandLine.Usage
import FuncAdapter.CommandLine.Run
import FuncAdapter.Main
import FuncAdapter.Proofs.Text.LetterCase
import FuncAdapter.Proofs.Text.Lowering
import FuncAdapter.Proofs.Text.Utf8
import FuncAdapter.Proofs.Text.Join
import FuncAdapter.Proofs.Naming.TypeName
import FuncAdapter.Proofs.Naming.Unexported
import FuncAdapter.Proofs.Naming.Renumbering
import FuncAdapter.Proofs.Naming.Convergence
import FuncAdapter.Proofs.Naming.Stability
import FuncAdapter.Proofs.Naming.Numerals
import FuncAdapter.Proofs.Naming.Limits
import FuncAdapter.Proofs.Naming.Ladder
import FuncAdapter.Proofs.Naming.Spine
import FuncAdapter.Proofs.Adapter.Forwarding
import FuncAdapter.Proofs.Adapter.Reordering
import FuncAdapter.Proofs.Adapter.Drafts
import FuncAdapter.Proofs.Adapter.Receiver
import FuncAdapter.Proofs.Adapter.Results
import FuncAdapter.Proofs.Adapter.Identifiers
import FuncAdapter.Proofs.Adapter.KeptNames
import FuncAdapter.Proofs.Syntax.RoundTrip
import FuncAdapter.Proofs.Syntax.GoType
import FuncAdapter.Proofs.Syntax.Unambiguous
import FuncAdapter.Proofs.Syntax.Grammar
import FuncAdapter.Proofs.Program.RoundTrip
import FuncAdapter.Proofs.Program.Listing
import FuncAdapter.Proofs.Program.Grammar
import FuncAdapter.Proofs.Adapter.Location
import FuncAdapter.Proofs.Adapter.Layout
import FuncAdapter.Proofs.Adapter.Lookup
import FuncAdapter.Proofs.MessagePack.RoundTrip
import FuncAdapter.Proofs.MessagePack.Delimited
import FuncAdapter.Proofs.FileSystem.Tree
import FuncAdapter.Proofs.FileSystem.Contents
import FuncAdapter.Proofs.Snapshot.RoundTrip
import FuncAdapter.Proofs.Snapshot.Truncation
import FuncAdapter.Proofs.Snapshot.Names
import FuncAdapter.Proofs.Snapshot.Files
import FuncAdapter.Proofs.Scan
import FuncAdapter.Proofs.Scan.Outcome
import FuncAdapter.Proofs.CommandLine.Arguments
import FuncAdapter.Proofs.CommandLine.Interleavings
import FuncAdapter.Proofs.CommandLine.Snapshots
import FuncAdapter.Proofs.CommandLine.Endings
import FuncAdapter.Proofs.CommandLine.Effects
import FuncAdapter.Proofs.CommandLine.Interleavings
import FuncAdapter.Proofs.Naming.Unexported

import RSource.Arena.Flaw
import RSource.Builder.Expression
import RSource.Call.Active
import RSource.Command.Program
import RSource.Document.Live
import RSource.Grammar.Parse
import RSource.Help
import RSource.Json.Read
import RSource.Json.Write
import RSource.Listing
import RSource.Main
import RSource.Package.Description
import RSource.Package.Library
import RSource.Package.Namespace
import RSource.Sample.Library
import RSource.Sample.Script
import RSource.Settings
import RSource.Signature.Formals
import RSource.Token.Relex
import RSource.Proofs.Builder.Expression
import RSource.Proofs.Call.Active
import RSource.Proofs.Call.Binding
import RSource.Proofs.Call.Rearrangement
import RSource.Proofs.Call.Site
import RSource.Proofs.Call.Slots
import RSource.Proofs.Document.Folding
import RSource.Proofs.Document.History
import RSource.Proofs.Document.Interleaving
import RSource.Proofs.Document.Turns
import RSource.Proofs.FileTree.Proper
import RSource.Proofs.FileTree.Resolve
import RSource.Proofs.Grammar.Clean
import RSource.Proofs.Grammar.Contents
import RSource.Proofs.Grammar.Copy.Contents
import RSource.Proofs.Grammar.Copy.Expression
import RSource.Proofs.Grammar.Copy.Guard
import RSource.Proofs.Grammar.Copy.Place
import RSource.Proofs.Grammar.Coverage
import RSource.Proofs.Grammar.Excerpt
import RSource.Proofs.Grammar.Form
import RSource.Proofs.Grammar.Growth
import RSource.Proofs.Grammar.Lexemes
import RSource.Proofs.Grammar.LineBreak.Build
import RSource.Proofs.Grammar.LineBreak.Gap
import RSource.Proofs.Grammar.Locality
import RSource.Proofs.Grammar.OperatorTree
import RSource.Proofs.Grammar.Passage
import RSource.Proofs.Grammar.Place
import RSource.Proofs.Grammar.Precedence
import RSource.Proofs.Grammar.Shape
import RSource.Proofs.Grammar.Slots
import RSource.Proofs.Grammar.Soundness
import RSource.Proofs.Grammar.Written
import RSource.Proofs.OrderedMap
import RSource.Proofs.Package.Description
import RSource.Proofs.Package.Fresh
import RSource.Proofs.Package.Interleaving
import RSource.Proofs.Package.Lookup
import RSource.Proofs.Package.Namespace
import RSource.Proofs.Package.Provenance
import RSource.Proofs.Package.QualifiedName
import RSource.Proofs.Package.Registration
import RSource.Proofs.Package.Rescan
import RSource.Proofs.Package.Scan
import RSource.Proofs.Package.Session
import RSource.Proofs.Package.Transparency
import RSource.Proofs.Signature.Default
import RSource.Proofs.Signature.Depth
import RSource.Proofs.Signature.Label
import RSource.Proofs.Signature.Relocate
import RSource.Proofs.Text.Encoding
import RSource.Proofs.Text.Lines
import RSource.Proofs.Text.Slice
import RSource.Proofs.Token.Barrier
import RSource.Proofs.Token.Change
import RSource.Proofs.Token.Cut
import RSource.Proofs.Token.Edge
import RSource.Proofs.Token.LineEnd
import RSource.Proofs.Token.Relex
import RSource.Proofs.Token.Scan
import RSource.Proofs.Token.Stream
import RSource.Proofs.Token.Window
import RSource.Proofs.Token.Word
import RSource.Proofs.Tree.Nodes
import RSource.Proofs.Tree.Path
import RSource.Proofs.Tree.Relocate

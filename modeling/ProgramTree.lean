import ProgramTree.Chain.Basic
import ProgramTree.Chain.Cursor
import ProgramTree.Datum.Basic
import ProgramTree.Datum.Layout
import ProgramTree.Diagnostic
import ProgramTree.Fault
import ProgramTree.Operator
import ProgramTree.Outline.Basic
import ProgramTree.Outline.Delivery
import ProgramTree.Outline.Merge
import ProgramTree.Outline.Render
import ProgramTree.Proofs.AlternativeLines
import ProgramTree.Proofs.AlternativeOutline
import ProgramTree.Proofs.Appending
import ProgramTree.Proofs.Composition
import ProgramTree.Proofs.Copy
import ProgramTree.Proofs.CursorCalls
import ProgramTree.Proofs.DatumReading
import ProgramTree.Proofs.DatumText
import ProgramTree.Proofs.Delivery
import ProgramTree.Proofs.DescribedText
import ProgramTree.Proofs.Equality
import ProgramTree.Proofs.Height
import ProgramTree.Proofs.Indentation
import ProgramTree.Proofs.LevelLimit
import ProgramTree.Proofs.LineCount
import ProgramTree.Proofs.MergedOutline
import ProgramTree.Proofs.Nesting
import ProgramTree.Proofs.OutlineText
import ProgramTree.Proofs.Paths
import ProgramTree.Proofs.PrintedChains
import ProgramTree.Proofs.PrintedOutline
import ProgramTree.Proofs.PrintedRows
import ProgramTree.Proofs.PrintedText
import ProgramTree.Proofs.PrinterWalk
import ProgramTree.Proofs.Printing
import ProgramTree.Proofs.Reindentation
import ProgramTree.Proofs.Relinking
import ProgramTree.Proofs.Teardown
import ProgramTree.Proofs.TreeInduction
import ProgramTree.Proofs.TreeSums
import ProgramTree.Proofs.UniqueReading
import ProgramTree.Sink
import ProgramTree.Text.CodePointRange
import ProgramTree.Text.DefaultIgnorable
import ProgramTree.Text.GraphemeExtend
import ProgramTree.Text.Invisible
import ProgramTree.Text.Lines
import ProgramTree.Text.Nonprinting
import ProgramTree.Text.Quoted
import ProgramTree.Tree.Basic
import ProgramTree.Tree.Context
import ProgramTree.Tree.Copy
import ProgramTree.Tree.Describe
import ProgramTree.Tree.Equality
import ProgramTree.Tree.Inspect
import ProgramTree.Tree.Measure
import ProgramTree.Tree.Teardown
import ProgramTree.Workspace.Basic
import ProgramTree.Workspace.Command

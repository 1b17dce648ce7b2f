import SourceOutline.CommandLine.Run
import SourceOutline.Decimal.Shortest
import SourceOutline.Document.Feed
import SourceOutline.Main
import SourceOutline.Workspace
import SourceOutline.Value.Number
import SourceOutline.Value.Written
import SourceOutline.Draft.Basic
import SourceOutline.Draft.Outline
import SourceOutline.Draft.Command
import SourceOutline.Script.Document
import SourceOutline.Script.View
import SourceOutline.Script.Order
import SourceOutline.Script.Session
import SourceOutline.Proofs.Config.Checked
import SourceOutline.Proofs.Document.Position
import SourceOutline.Proofs.Fold.Within
import SourceOutline.Proofs.Outline
import SourceOutline.Proofs.Workspace.Run
import SourceOutline.Proofs.Decoration.Derived
import SourceOutline.Proofs.Decoration.Current
import SourceOutline.Proofs.Session.Frame
import SourceOutline.Proofs.Session.UpToDate
import SourceOutline.Proofs.Workspace.Rendering
import SourceOutline.Proofs.Edit.Decided
import SourceOutline.Proofs.Edit.Insertion
import SourceOutline.Proofs.Edit.Fits
import SourceOutline.Proofs.Edit.Atomic
import SourceOutline.Proofs.Fold.Cycle
import SourceOutline.Proofs.Navigation
import SourceOutline.Proofs.Session.Inside
import SourceOutline.Proofs.Workspace.Inside
import SourceOutline.Proofs.Text.Unbroken
import SourceOutline.Proofs.Document.Reopen
import SourceOutline.Proofs.Edit.Storable
import SourceOutline.Proofs.Workspace.Reopening
import SourceOutline.Proofs.Subtree
import SourceOutline.Proofs.Fold.Shown
import SourceOutline.Proofs.Session.Memory
import SourceOutline.Proofs.Fold.Overview
import SourceOutline.Proofs.Fold.Advance
import SourceOutline.Proofs.Session.Cycling
import SourceOutline.Proofs.Document.Described
import SourceOutline.Proofs.Decoration.Skipped
import SourceOutline.Proofs.Decoration.Switched
import SourceOutline.Proofs.Text.Trimmed
import SourceOutline.Proofs.Heading.Written
import SourceOutline.Proofs.Edit.Keyword
import SourceOutline.Proofs.Edit.ReadBack
import SourceOutline.Proofs.Edit.Recorded
import SourceOutline.Proofs.FileTree.Replaced
import SourceOutline.Proofs.CommandLine.Target
import SourceOutline.Proofs.Heading.Shifted
import SourceOutline.Proofs.Edit.Shift
import SourceOutline.Proofs.Edit.Relevelled
import SourceOutline.Proofs.Edit.Undone
import SourceOutline.Proofs.Edit.Ring
import SourceOutline.Proofs.Heading.Cut
import SourceOutline.Proofs.Edit.Spot
import SourceOutline.Proofs.Edit.Added
import SourceOutline.Proofs.Edit.Finished
import SourceOutline.Proofs.Edit.Sibling
import SourceOutline.Proofs.Edit.Parent
import SourceOutline.Proofs.Edit.Conserved
import SourceOutline.Proofs.Moment
import SourceOutline.Proofs.Edit.Stamped
import SourceOutline.Proofs.Region
import SourceOutline.Proofs.Session.Followed
import SourceOutline.Proofs.Document.Normalized
import SourceOutline.Proofs.Navigation.Ahead
import SourceOutline.Proofs.Session.Moving
import SourceOutline.Proofs.Label
import SourceOutline.Proofs.Fold.Children
import SourceOutline.Proofs.Config.Published
import SourceOutline.Proofs.Config.Nearest
import SourceOutline.Proofs.Path.Written
import SourceOutline.Proofs.FileTree.Walk
import SourceOutline.Proofs.FileTree.Resolved
import SourceOutline.Proofs.SourceFile.Accepted
import SourceOutline.Proofs.Document.Offset
import SourceOutline.Proofs.Subtree.Nested
import SourceOutline.Proofs.Decoration.Displayed
import SourceOutline.Proofs.Script
import SourceOutline.Proofs.Decimal.Shortest

import Redline.Main
import Redline.Patch.Replay
import Redline.Session.Host
import Redline.Shell.Run
import Redline.Surface.Memory
import Redline.Surface.Recorder
import Redline.Proofs.Surface.Watched
import Redline.Proofs.Text.Lines
import Redline.Proofs.Text.Trim
import Redline.Proofs.Text.Path
import Redline.Proofs.Text.Truncation
import Redline.Proofs.Diff.Cover
import Redline.Proofs.Diff.Settle
import Redline.Proofs.Diff.Group
import Redline.Proofs.Diff.Step
import Redline.Proofs.Diff.Bound
import Redline.Proofs.Diff.Named
import Redline.Proofs.Diff.Order
import Redline.Proofs.Diff.Alternate
import Redline.Proofs.Diff.Cut
import Redline.Proofs.Patch.Header
import Redline.Proofs.Patch.RoundTrip
import Redline.Proofs.Patch.Hunk
import Redline.Proofs.Patch.Replay
import Redline.Proofs.Patch.Unified
import Redline.Proofs.Patch.Ending
import Redline.Proofs.Patch.Span
import Redline.Proofs.Session.Log
import Redline.Proofs.Session.Outcomes
import Redline.Proofs.Session.Submission
import Redline.Proofs.Session.Committed
import Redline.Proofs.Session.Proposal
import Redline.Proofs.Session.Surface
import Redline.Proofs.Session.Shown
import Redline.Proofs.Session.Arrival
import Redline.Proofs.Session.Gathered
import Redline.Proofs.Session.Original
import Redline.Proofs.Session.Frame
import Redline.Proofs.Session.Verdict
import Redline.Proofs.Session.FileKind
import Redline.Proofs.Session.Reported
import Redline.Proofs.Session.Tracking
import Redline.Proofs.Session.Entry
import Redline.Proofs.Host.Run
import Redline.Proofs.Host.Conservation
import Redline.Proofs.Host.Wakeup
import Redline.Proofs.Host.Draining
import Redline.Proofs.Host.Delivery
import Redline.Proofs.ChangeSet.Memory
import Redline.Proofs.ChangeSet.Overwrite
import Redline.Proofs.ChangeSet.Protocol
import Redline.Proofs.Context.Store
import Redline.Proofs.Reply.Grammar
import Redline.Proofs.Turn.Build
import Redline.Proofs.FileTree.Node
import Redline.Proofs.FileTree.Walk
import Redline.Proofs.FileTree.Route
import Redline.Proofs.FileTree.Entry
import Redline.Proofs.FileTree.Grown
import Redline.Proofs.FileTree.Write
import Redline.Proofs.FileTree.Change
import Redline.Proofs.FileTree.Touched
import Redline.Proofs.FileTree.Make
import Redline.Proofs.FileTree.Spelling
import Redline.Proofs.FileTree.Lacking
import Redline.Proofs.Workspace.Anchor
import Redline.Proofs.Workspace.Restore
import Redline.Proofs.Workspace.Progress
import Redline.Proofs.Workspace.Batch
import Redline.Proofs.Workspace.Reading
import Redline.Proofs.Workspace.Confined
import Redline.Proofs.Workspace.Within
import Redline.Proofs.Workspace.WellFormed
import Redline.Proofs.Workspace.Replace
import Redline.Proofs.Workspace.Focus
import Redline.Proofs.Json.Written
import Redline.Proofs.Backend.Wire
import Redline.Proofs.Http.Endpoint
import Redline.Proofs.Http.Config
import Redline.Proofs.Console.Writing

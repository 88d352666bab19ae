import DialogueTree.Document.Builder
import DialogueTree.Main
import DialogueTree.Disk.FileTree
import DialogueTree.Scenario.Files
import DialogueTree.Proofs.Outcome
import DialogueTree.Proofs.Reader.Walk
import DialogueTree.Proofs.Reader.Calls
import DialogueTree.Proofs.Reader.Rest
import DialogueTree.Proofs.Reader.Resumption
import DialogueTree.Proofs.Document.WellFormed
import DialogueTree.Proofs.Reader.Pass
import DialogueTree.Proofs.Reader.Soundness
import DialogueTree.Proofs.Reader.Standing
import DialogueTree.Proofs.Reader.Sharing
import DialogueTree.Proofs.Reader.Question
import DialogueTree.Proofs.Decimal.Numeral
import DialogueTree.Proofs.Json.Tokens
import DialogueTree.Proofs.Json.Strings
import DialogueTree.Proofs.Json.RoundTrip
import DialogueTree.Proofs.Format.Fields
import DialogueTree.Proofs.Format.Node
import DialogueTree.Proofs.Format.Document
import DialogueTree.Proofs.Format.Snapshot
import DialogueTree.Proofs.Disk.FileTree
import DialogueTree.Proofs.Disk.Writing
import DialogueTree.Proofs.Disk.Programs
import DialogueTree.Proofs.Disk.TreeFiles
import DialogueTree.Proofs.Disk.Absolute
import DialogueTree.Proofs.Player.Save
import DialogueTree.Proofs.Library.Sources
import DialogueTree.Proofs.Player.Catalogue
import DialogueTree.Proofs.Player.Tour
import DialogueTree.Proofs.Player.Agent
import DialogueTree.Proofs.Player.Saving
import DialogueTree.Proofs.Decimal.Double
import DialogueTree.Proofs.Decimal.Range
import DialogueTree.Proofs.Decimal.Layout
import DialogueTree.Proofs.Reader.Hops
import DialogueTree.Proofs.Reader.Rollback
import DialogueTree.Proofs.Reader.Scope
import DialogueTree.Proofs.Document.Mirror
import DialogueTree.Proofs.Document.Arrangement
import DialogueTree.Proofs.Reader.Arrangement
import DialogueTree.Proofs.Reader.Locality
import DialogueTree.Proofs.Reader.Independence
import DialogueTree.Proofs.Document.Choices
import DialogueTree.Proofs.Reader.Frame
import DialogueTree.Proofs.Format.Case
import DialogueTree.Proofs.Scenario.Run
import DialogueTree.Proofs.Scenario.Replay
import DialogueTree.Proofs.Scenario.Verdict
import DialogueTree.Proofs.Player.Play
import DialogueTree.Proofs.Player.Rejection
import DialogueTree.Proofs.Text.Strip
import DialogueTree.Proofs.Template.Expansion
import DialogueTree.Proofs.Reader.InPlace
import DialogueTree.Proofs.Reader.Change
import DialogueTree.Proofs.Reader.Logic
import DialogueTree.Proofs.Reader.Notice
import DialogueTree.Proofs.Reader.Answers
import DialogueTree.Proofs.Store.Register
import DialogueTree.Proofs.Player.Announcement
import DialogueTree.Proofs.Document.Building
import DialogueTree.Proofs.Library.Building

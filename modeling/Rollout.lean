import Rollout.Text.Blank
import Rollout.Decimal.Binary64
import Rollout.Decimal.Shortest
import Rollout.Dict
import Rollout.Json.Basic
import Rollout.Json.Printer
import Rollout.Json.Fault
import Rollout.Json.Lexeme
import Rollout.Json.Reader
import Rollout.Json.Mismatch
import Rollout.Document
import Rollout.Document.OfJson
import Rollout.Document.OfText
import Rollout.Host.Address
import Rollout.Path
import Rollout.Roster
import Rollout.Config
import Rollout.Config.Error
import Rollout.Config.View
import Rollout.Document.Compile
import Rollout.Batch
import Rollout.Batch.Pool
import Rollout.Fleet.History
import Rollout.Fleet.Status
import Rollout.Ssh.Answer
import Rollout.Terminal.Layout
import Rollout.FileTree
import Rollout.Ssh.Script
import Rollout.Workspace
import Rollout.Command.History
import Rollout.Command.Init
import Rollout.Command.Lint
import Rollout.Command.List
import Rollout.Command.Show
import Rollout.Command.Status
import Rollout.CommandLine.Grammar
import Rollout.CommandLine.Parse
import Rollout.CommandLine.Run
import Rollout.CommandLine.Footprint
import Rollout.Main
import Rollout.Proofs.Decimal.Rounding
import Rollout.Proofs.Decimal.Shortest
import Rollout.Proofs.Json.Float
import Rollout.Proofs.Batch.Outcomes
import Rollout.Proofs.Batch.Progress
import Rollout.Proofs.Batch.Supply
import Rollout.Proofs.Batch.Workers
import Rollout.Proofs.Batch.Sequence
import Rollout.Proofs.Fleet.Sweep
import Rollout.Proofs.Dict
import Rollout.Proofs.Fleet.Gathering
import Rollout.Proofs.Fleet.History
import Rollout.Proofs.Fleet.Jobs
import Rollout.Proofs.Fleet.Comparison
import Rollout.Proofs.FileTree.Changes
import Rollout.Proofs.FileTree.Straying
import Rollout.Proofs.Command.Init
import Rollout.Proofs.Document.Compile
import Rollout.Proofs.Document.Shorthand
import Rollout.Proofs.Path
import Rollout.Proofs.Path.Lexical
import Rollout.Proofs.Config.Compiled
import Rollout.Proofs.Config.View
import Rollout.Proofs.Config.Origin
import Rollout.Proofs.Document.Variables
import Rollout.Proofs.Document.Problems
import Rollout.Proofs.Config.Lookup
import Rollout.Proofs.Command.FailedInit
import Rollout.Proofs.Command.Listing
import Rollout.Proofs.Ssh.Shell
import Rollout.Proofs.Ssh.Arguments
import Rollout.Proofs.Ssh.History
import Rollout.Proofs.Command.FirstConfig
import Rollout.Proofs.Config.Absolute
import Rollout.Proofs.Config.Passwords
import Rollout.Proofs.Fleet.Accounting
import Rollout.Proofs.Fleet.Shown
import Rollout.Proofs.Json.Tree
import Rollout.Proofs.Document.Reading
import Rollout.Proofs.Config.Loading
import Rollout.Proofs.Batch.Sparing
import Rollout.Proofs.Ssh.Status
import Rollout.Proofs.Command.Lint
import Rollout.Proofs.Document.Tidied
import Rollout.Proofs.Text.Order
import Rollout.Proofs.Command.Documents
import Rollout.Proofs.Terminal.Table

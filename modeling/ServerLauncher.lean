import ServerLauncher.Action
import ServerLauncher.Cache
import ServerLauncher.Cache.Store
import ServerLauncher.Command
import ServerLauncher.Command.Arguments
import ServerLauncher.Command.Breakdown
import ServerLauncher.Decimal.Binary64
import ServerLauncher.Decimal.Shortest
import ServerLauncher.Environment
import ServerLauncher.Feed
import ServerLauncher.FileTree.Access
import ServerLauncher.FileTree.Basic
import ServerLauncher.FileTree.Change
import ServerLauncher.FileTree.Error
import ServerLauncher.FileTree.Walk
import ServerLauncher.Json.Cursor
import ServerLauncher.Json.Fault
import ServerLauncher.Json.Number
import ServerLauncher.Json.Record
import ServerLauncher.Json.Skip
import ServerLauncher.Json.Text
import ServerLauncher.Log.Directive
import ServerLauncher.Log.Filter
import ServerLauncher.Log.Pattern
import ServerLauncher.Main
import ServerLauncher.Path
import ServerLauncher.Process.Machine
import ServerLauncher.Process.Server
import ServerLauncher.Process.Status
import ServerLauncher.Proofs.Directories
import ServerLauncher.Proofs.Naming
import ServerLauncher.Proofs.Steps
import ServerLauncher.Proofs.Tree
import ServerLauncher.Proofs.Utf8
import ServerLauncher.Proofs.Version
import ServerLauncher.Proofs.Walk
import ServerLauncher.Release
import ServerLauncher.Release.Document
import ServerLauncher.ReleaseApi
import ServerLauncher.Resolution
import ServerLauncher.Settings
import ServerLauncher.Settings.Document
import ServerLauncher.Settings.File
import ServerLauncher.Shell.Arithmetic
import ServerLauncher.Shell.Builtin
import ServerLauncher.Shell.Expand
import ServerLauncher.Shell.Pattern
import ServerLauncher.Shell.Print
import ServerLauncher.Shell.Programs
import ServerLauncher.Shell.Run
import ServerLauncher.Shell.Script
import ServerLauncher.Shell.Session
import ServerLauncher.Shell.Syntax
import ServerLauncher.Shell.Test
import ServerLauncher.Shell.Token
import ServerLauncher.Shell.Tool
import ServerLauncher.Shell.Tool.Files
import ServerLauncher.Shell.Tool.Lines
import ServerLauncher.Shell.Tool.Sums
import ServerLauncher.Shell.Tool.Words
import ServerLauncher.Target
import ServerLauncher.Text.Alphanumeric
import ServerLauncher.Text.CodeTable
import ServerLauncher.Text.Composed
import ServerLauncher.Text.Digits
import ServerLauncher.Text.Mark
import ServerLauncher.Text.Printable
import ServerLauncher.Text.Quoted
import ServerLauncher.Text.Utf8
import ServerLauncher.Version
import ServerLauncher.Web
import ServerLauncher.Web.Chunks
import ServerLauncher.Web.Domain
import ServerLauncher.Web.Domain.Direction
import ServerLauncher.Web.Domain.Joining
import ServerLauncher.Web.Domain.Mapping
import ServerLauncher.Web.Domain.Punycode
import ServerLauncher.Web.Head
import ServerLauncher.Web.Host
import ServerLauncher.Web.Parse
import ServerLauncher.Web.Request
import ServerLauncher.Web.Response
import ServerLauncher.Web.Status
import ServerLauncher.Web.Url
import ServerLauncher.Proofs.StoreStep
import ServerLauncher.Proofs.Writers
import ServerLauncher.Proofs.Storing
import ServerLauncher.Proofs.Notices
import ServerLauncher.Proofs.Refresh
import ServerLauncher.Proofs.Resolving
import ServerLauncher.Proofs.Agreement
import ServerLauncher.Proofs.Settling
import ServerLauncher.Proofs.Growing
import ServerLauncher.Proofs.Components
import ServerLauncher.Proofs.Table
import ServerLauncher.Proofs.Converging
import ServerLauncher.Proofs.WebFeed
import ServerLauncher.Proofs.SelfUpdate
import ServerLauncher.Proofs.Grammar
import ServerLauncher.Proofs.Canonical
import ServerLauncher.Proofs.ReadingOrder
import ServerLauncher.Proofs.Messages
import ServerLauncher.Proofs.Classifying
import ServerLauncher.Proofs.Precedence
import ServerLauncher.Proofs.Neighbours
import ServerLauncher.Proofs.Output
import ServerLauncher.Proofs.Updating
import ServerLauncher.Proofs.Selecting
import ServerLauncher.Proofs.Rendering
import ServerLauncher.Proofs.Tokens
import ServerLauncher.Proofs.Skipping
import ServerLauncher.Proofs.Reading
import ServerLauncher.Proofs.Records
import ServerLauncher.Proofs.ReleaseDocuments
import ServerLauncher.Proofs.SettingsDocuments
import ServerLauncher.Proofs.SettingsFile
import ServerLauncher.Proofs.AssetNames
import ServerLauncher.Proofs.Unsupported
import ServerLauncher.Proofs.Running
import ServerLauncher.Proofs.HandOver
import ServerLauncher.Proofs.Independence

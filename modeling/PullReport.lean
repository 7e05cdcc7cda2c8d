import PullReport.Patch.Diff
import PullReport.Report.Terminal
import PullReport.Report.Markdown
import PullReport.Login.Poll
import PullReport.Settings.Resolve
import PullReport.Settings.Workflow
import PullReport.GitHub.Client
import PullReport.Command.Arguments
import PullReport.Main
import PullReport.Proofs.References.Reconciliation
import PullReport.Proofs.References.Tag
import PullReport.Proofs.References.Classes
import PullReport.Proofs.References.Block
import PullReport.Proofs.GitHub.Paging
import PullReport.Proofs.Program.Stages
import PullReport.Proofs.Program.RemoteRuns
import PullReport.Proofs.Text.LineEnds
import PullReport.Proofs.Diff.Layout
import PullReport.Proofs.Patch.Returns
import PullReport.Proofs.Analysis.Edits
import PullReport.Proofs.Diff.Returns
import PullReport.Proofs.Login.Timetable
import PullReport.Proofs.Analysis.Mirror
import PullReport.Proofs.Analysis.Relevance
import PullReport.Proofs.Program.Agreement
import PullReport.Proofs.Json.Quotation
import PullReport.Proofs.Program.Comment
import PullReport.Proofs.FileTree.Sound
import PullReport.Proofs.Text.Base64
import PullReport.Proofs.FileTree.Directories
import PullReport.Proofs.TokenStore.Register
import PullReport.Proofs.Login.Interruptions
import PullReport.Proofs.Patch.Declaration
import PullReport.Proofs.Diff.Paths
import PullReport.Proofs.TokenStore.Keeping
import PullReport.Proofs.Settings.Tokens
import PullReport.Proofs.Settings.Workflow
import PullReport.Proofs.Program.Tokens
import PullReport.Proofs.Url.Segments
import PullReport.Proofs.Url.Server
import PullReport.Proofs.GitHub.Addresses
import PullReport.Proofs.Program.LoginRuns
import PullReport.Proofs.Analysis.TestLines
import PullReport.Proofs.References.WrittenTags
import PullReport.Proofs.Patch.NestedTypes
import PullReport.Proofs.GitHub.Requests
import PullReport.Proofs.TokenStore.Contents
import PullReport.Proofs.GitHub.Listing
import PullReport.Proofs.Report.Unambiguous
import PullReport.Proofs.Report.Renderings
import PullReport.Proofs.Diff.Recut
import PullReport.Proofs.References.Surroundings
import PullReport.Proofs.References.FurtherAttributes

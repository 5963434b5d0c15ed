import ReleasePipeline.Json.Document
import ReleasePipeline.LogBuffer
import ReleasePipeline.Main
import ReleasePipeline.Rehearsal.World
import ReleasePipeline.Proofs.Pipeline.Watch
import ReleasePipeline.Proofs.Pipeline.Ending
import ReleasePipeline.Proofs.Pipeline.Run
import ReleasePipeline.Proofs.Publish.Shelf
import ReleasePipeline.Proofs.Publish.AllOrNothing
import ReleasePipeline.Proofs.Pipeline.Aggregate
import ReleasePipeline.Proofs.Json.Tokens
import ReleasePipeline.Proofs.Json.Values
import ReleasePipeline.Proofs.Json.Forms
import ReleasePipeline.Proofs.RunId
import ReleasePipeline.Proofs.Time.Calendar
import ReleasePipeline.Proofs.Time.Rfc3339
import ReleasePipeline.Proofs.Json.Reports
import ReleasePipeline.Proofs.Path
import ReleasePipeline.Proofs.Config.Validation
import ReleasePipeline.Proofs.FileSystem
import ReleasePipeline.Proofs.Outputs
import ReleasePipeline.Proofs.Pipeline.Split
import ReleasePipeline.Proofs.Publish.Order
import ReleasePipeline.Proofs.Publish.Republish
import ReleasePipeline.Proofs.Execution.Shape
import ReleasePipeline.Proofs.Pipeline.Provenance
import ReleasePipeline.Proofs.Execution.Places
import ReleasePipeline.Proofs.Execution.Interference
import ReleasePipeline.Proofs.Pipeline.Subject
import ReleasePipeline.Proofs.Publish.Selection
import ReleasePipeline.Proofs.Json.RoundTrip
import ReleasePipeline.Proofs.Pipeline.Schedule
import ReleasePipeline.Proofs.Confinement
import ReleasePipeline.Proofs.ReportStore.LastSaved
import ReleasePipeline.Proofs.Execution.Journal
import ReleasePipeline.Proofs.Hosting.Listing
import ReleasePipeline.Proofs.Execution.Planned
import ReleasePipeline.Proofs.Cli.DryRun
import ReleasePipeline.Proofs.Cli.Credential
import ReleasePipeline.Proofs.Json.Prefix
import ReleasePipeline.Proofs.ReportStore.Torn
import ReleasePipeline.Proofs.Folders
import ReleasePipeline.Proofs.Pipeline.Artifact
import ReleasePipeline.Proofs.Config.Environment
import ReleasePipeline.Proofs.Config.FirstFault
import ReleasePipeline.Proofs.Publish.PlainSelection
import ReleasePipeline.Proofs.Progress
import ReleasePipeline.Proofs.Hosting.Repository
import ReleasePipeline.Proofs.ReleaseName
import ReleasePipeline.Proofs.OutputTail
import ReleasePipeline.Proofs.LogBuffer

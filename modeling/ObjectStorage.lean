import ObjectStorage.CommandLine.Written
import ObjectStorage.Execution
import ObjectStorage.FileTree
import ObjectStorage.Json.Reader
import ObjectStorage.Main
import ObjectStorage.MemoryStore
import ObjectStorage.S3.Assembly
import ObjectStorage.S3.Http
import ObjectStorage.ScriptedStore
import ObjectStorage.Proofs.Upload.Layout
import ObjectStorage.Proofs.S3.Parts
import ObjectStorage.Proofs.S3.Course
import ObjectStorage.Proofs.S3.Protocol
import ObjectStorage.Proofs.S3.Holdings
import ObjectStorage.Proofs.S3.Content
import ObjectStorage.Proofs.Listing.Walk
import ObjectStorage.Proofs.Listing.Pull
import ObjectStorage.Proofs.Listing.Stream
import ObjectStorage.Proofs.Listing.Consumer
import ObjectStorage.Proofs.Listing.Written
import ObjectStorage.Proofs.Text.ByteOrder
import ObjectStorage.Proofs.MemoryStore.Changes
import ObjectStorage.Proofs.MemoryStore.Pages
import ObjectStorage.Proofs.MemoryStore.Refinement
import ObjectStorage.Proofs.MemoryStore.Contention
import ObjectStorage.Proofs.MemoryStore.Fetches
import ObjectStorage.Proofs.Listing.Offered
import ObjectStorage.Proofs.Execution.Agreement
import ObjectStorage.Proofs.CommandLine.Values
import ObjectStorage.Proofs.Execution.Dispatch
import ObjectStorage.Proofs.Upload.Tiling
import ObjectStorage.Proofs.Execution.Presentation
import ObjectStorage.Proofs.Text.Glyphs
import ObjectStorage.Proofs.Json.Quoted
import ObjectStorage.Proofs.Json.RoundTrip
import ObjectStorage.Proofs.Json.Lines
import ObjectStorage.Proofs.Execution.JsonLines
import ObjectStorage.Proofs.CommandLine.Spelling
import ObjectStorage.Proofs.CommandLine.Placement
import ObjectStorage.Proofs.Upload.Growth
import ObjectStorage.Proofs.S3.Numbers
import ObjectStorage.Proofs.Listing.Pacing
import ObjectStorage.Proofs.Listing.Closed
import ObjectStorage.Proofs.Text.Lines
import ObjectStorage.Proofs.Timestamp.Calendar
import ObjectStorage.Proofs.Timestamp.Reader
import ObjectStorage.Proofs.Listing.ReadBack
import ObjectStorage.Proofs.Connection.Region
import ObjectStorage.Proofs.CommandLine.Escape
import ObjectStorage.Proofs.Execution.UnknownVerb
import ObjectStorage.Proofs.S3.Trouble
import ObjectStorage.Proofs.Execution.Failures
import ObjectStorage.Proofs.Connection.Endpoint
import ObjectStorage.Proofs.MemoryStore.Resumption

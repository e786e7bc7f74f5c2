import ResourceFeed.Client.Session
import ResourceFeed.Feed.Saved
import ResourceFeed.Main
import ResourceFeed.Proofs.Query.Folding
import ResourceFeed.Proofs.Client.Cursor
import ResourceFeed.Proofs.Client.Operations
import ResourceFeed.Proofs.Client.SharedVersions
import ResourceFeed.Proofs.Client.Streaming
import ResourceFeed.Proofs.Feed.Address
import ResourceFeed.Proofs.Query.Spelling
import ResourceFeed.Proofs.Client.Paging
import ResourceFeed.Proofs.Query.Nodes
import ResourceFeed.Proofs.Query.Pushing
import ResourceFeed.Proofs.Query.Unambiguous
import ResourceFeed.Proofs.Query.Layers
import ResourceFeed.Proofs.Query.NormalForm
import ResourceFeed.Proofs.Query.HostEvents
import ResourceFeed.Proofs.Query.Performing
import ResourceFeed.Proofs.Client.Projection
import ResourceFeed.Proofs.Client.Plans
import ResourceFeed.Proofs.Client.Atomicity
import ResourceFeed.Proofs.Client.Desk
import ResourceFeed.Proofs.Client.KnownVersions
import ResourceFeed.Proofs.Client.Separation
import ResourceFeed.Proofs.Client.Convergence
import ResourceFeed.Proofs.Client.Lifecycle
import ResourceFeed.Proofs.Client.Synchronised
import ResourceFeed.Proofs.Version.Recency
import ResourceFeed.Proofs.Calendar.Date
import ResourceFeed.Proofs.Calendar.Text
import ResourceFeed.Proofs.Resource.Readback
import ResourceFeed.Proofs.Resource.Materialized
import ResourceFeed.Proofs.Feed.Continuation
import ResourceFeed.Proofs.Feed.Parameters
import ResourceFeed.Proofs.Client.FirstPage
import ResourceFeed.Proofs.Client.Creation
import ResourceFeed.Proofs.Client.Collecting
import ResourceFeed.Proofs.Resource.Hidden
import ResourceFeed.Proofs.Client.Unsent
import ResourceFeed.Proofs.CommandLine.Changing
import ResourceFeed.Proofs.CommandLine.Literals
import ResourceFeed.Proofs.Text.Utf8
import ResourceFeed.Proofs.Json.WellFormed
import ResourceFeed.Proofs.Json.Tokens
import ResourceFeed.Proofs.Json.Numerals
import ResourceFeed.Proofs.Json.Printing
import ResourceFeed.Proofs.Feed.Codec
import ResourceFeed.Proofs.Client.ReadPaths
import ResourceFeed.Proofs.Query.Arithmetic
import ResourceFeed.Proofs.Query.Conjunction
import ResourceFeed.Proofs.Query.Building
import ResourceFeed.Proofs.Query.Failing
import ResourceFeed.Proofs.Client.Opening
import ResourceFeed.Proofs.Client.Reshaping
import ResourceFeed.Proofs.Query.Selecting
import ResourceFeed.Proofs.Value.Conversion
import ResourceFeed.Proofs.Feed.Setting
import ResourceFeed.Proofs.Calendar.Milliseconds
import ResourceFeed.Proofs.Resource.Holding
import ResourceFeed.Proofs.Resource.Resolution

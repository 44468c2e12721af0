import AggregateGateway.Catalog.Aggregate
import AggregateGateway.Catalog.Endpoints
import AggregateGateway.Catalog.Event
import AggregateGateway.Catalog.Failure
import AggregateGateway.Catalog.Health
import AggregateGateway.Catalog.Inquiry
import AggregateGateway.Catalog.Record
import AggregateGateway.Catalog.StandIn
import AggregateGateway.Config
import AggregateGateway.Gateway.Api
import AggregateGateway.Gateway.Deployment
import AggregateGateway.Gateway.Read
import AggregateGateway.Gateway.Rehearsal
import AggregateGateway.Gateway.Remote
import AggregateGateway.Gateway.Write
import AggregateGateway.Http.DomainName
import AggregateGateway.Http.DomainName.Composition
import AggregateGateway.Http.DomainName.Direction
import AggregateGateway.Http.DomainName.Joining
import AggregateGateway.Http.DomainName.Mapping
import AggregateGateway.Http.DomainName.Punycode
import AggregateGateway.Http.Echo
import AggregateGateway.Http.Extract
import AggregateGateway.Http.Host
import AggregateGateway.Http.MediaType
import AggregateGateway.Http.Message
import AggregateGateway.Http.Problem
import AggregateGateway.Http.Query
import AggregateGateway.Http.Router
import AggregateGateway.Http.Status
import AggregateGateway.Http.Target
import AggregateGateway.Http.Url
import AggregateGateway.Http.Uuid
import AggregateGateway.Json.Codec
import AggregateGateway.Json.Fault
import AggregateGateway.Json.Record
import AggregateGateway.Json.Skip
import AggregateGateway.Json.Token
import AggregateGateway.Metrics
import AggregateGateway.Proofs.Resilience.BreakerCases
import AggregateGateway.Proofs.Resilience.BreakerTraffic
import AggregateGateway.Publish.Archive
import AggregateGateway.Publish.Channel
import AggregateGateway.Publish.Hash
import AggregateGateway.Publish.Pool
import AggregateGateway.Publish.Rehearsal
import AggregateGateway.Publish.Sizing
import AggregateGateway.Resilience.Breaker
import AggregateGateway.Resilience.Policy
import AggregateGateway.Resilience.Retry
import AggregateGateway.Text.Blank
import AggregateGateway.Text.Bytes
import AggregateGateway.Text.Marks
import AggregateGateway.Text.Numeral
import AggregateGateway.Text.Printable
import AggregateGateway.Text.Quoted
import AggregateGateway.Text.Ranges
import AggregateGateway.Text.Shortest
import AggregateGateway.Text.Utf8
import AggregateGateway.Time.Calendar
import AggregateGateway.Time.Clock
import AggregateGateway.Time.Rfc3339
import AggregateGateway.Time.Span
import AggregateGateway.Proofs.Resilience.SlidingWindow
import AggregateGateway.Proofs.Resilience.TrialPermits
import AggregateGateway.Proofs.Resilience.StaleOutcomes
import AggregateGateway.Proofs.Publish.PoolTraffic
import AggregateGateway.Proofs.Publish.SubmissionOrder
import AggregateGateway.Proofs.Publish.Schedules
import AggregateGateway.Proofs.Resilience.OpenPeriod
import AggregateGateway.Proofs.Resilience.HalfOpenPeriod
import AggregateGateway.Proofs.Publish.Acknowledgements
import AggregateGateway.Proofs.Publish.QueuedJobs
import AggregateGateway.Proofs.Gateway.Outcome
import AggregateGateway.Proofs.Gateway.Creation
import AggregateGateway.Proofs.Gateway.QueueShare
import AggregateGateway.Proofs.Resilience.PolicyTraffic
import AggregateGateway.Proofs.Resilience.ExecutionSteps
import AggregateGateway.Proofs.Resilience.OneCall
import AggregateGateway.Proofs.Resilience.Progress
import AggregateGateway.Proofs.Resilience.ScheduledTraffic
import AggregateGateway.Proofs.Resilience.LoneExecution
import AggregateGateway.Proofs.Metrics.Counters
import AggregateGateway.Proofs.Gateway.AggregateRead
import AggregateGateway.Proofs.Publish.Accounting
import AggregateGateway.Proofs.Publish.Receipts
import AggregateGateway.Proofs.Gateway.WriteBlocks
import AggregateGateway.Proofs.Publish.Independence
import AggregateGateway.Proofs.Catalog.Envelopes
import AggregateGateway.Proofs.Gateway.Requests
import AggregateGateway.Proofs.Gateway.Announcements
import AggregateGateway.Proofs.Resilience.CallAccounting
import AggregateGateway.Proofs.Publish.Draining
import AggregateGateway.Proofs.Publish.Shutdown
import AggregateGateway.Proofs.Gateway.Tickets
import AggregateGateway.Proofs.Gateway.CreatedViews
import AggregateGateway.Proofs.Resilience.TimedCalls
import AggregateGateway.Proofs.Gateway.GuardedRead
import AggregateGateway.Proofs.Gateway.SecondaryReads
import AggregateGateway.Proofs.Resilience.UnseenCalls
import AggregateGateway.Proofs.Resilience.RetrySeries
import AggregateGateway.Proofs.Gateway.ItemReads
import AggregateGateway.Proofs.Json.Lists
import AggregateGateway.Proofs.Catalog.Aggregates
import AggregateGateway.Proofs.Http.Problems
import AggregateGateway.Proofs.Gateway.AggregateRequests
import AggregateGateway.Proofs.Publish.Occupancy
import AggregateGateway.Proofs.Resilience.RetryLoop
import AggregateGateway.Proofs.Text.Utf8
import AggregateGateway.Proofs.Json.WrittenText
import AggregateGateway.Proofs.Gateway.ProblemHops
import AggregateGateway.Proofs.Gateway.Documents
import AggregateGateway.Proofs.Gateway.Dependencies
import AggregateGateway.Proofs.Text.Numerals
import AggregateGateway.Proofs.Configuration.Variables
import AggregateGateway.Proofs.Configuration.Validation
import AggregateGateway.Proofs.Http.Spellings
import AggregateGateway.Proofs.Gateway.Correlation

import TransitHub.Config.Application
import TransitHub.Config.FileTree
import TransitHub.Config.Hub
import TransitHub.Config.Source
import TransitHub.DataKind
import TransitHub.Decode.Document
import TransitHub.Decode.Error
import TransitHub.Decode.Record
import TransitHub.Entity.EstimatedJourney
import TransitHub.Entity.FacilityCondition
import TransitHub.Entity.InfoMessage
import TransitHub.Entity.Kinds
import TransitHub.Entity.Profile
import TransitHub.Entity.Situation
import TransitHub.Entity.StopVisit
import TransitHub.Entity.VehicleActivity
import TransitHub.EntityFilter
import TransitHub.Expiration
import TransitHub.Feed
import TransitHub.Hub.Background
import TransitHub.Hub.Basic
import TransitHub.Hub.Feeds
import TransitHub.Json.Basic
import TransitHub.Json.Printer
import TransitHub.Json5.Basic
import TransitHub.Json5.Reader
import TransitHub.Json5.Token
import TransitHub.Log.Event
import TransitHub.Metrics
import TransitHub.Number.Binary64
import TransitHub.Number.Shortest
import TransitHub.Paging
import TransitHub.PeriodicLoop
import TransitHub.Proofs.Store.Liveness
import TransitHub.Proofs.Store.Upsert
import TransitHub.Push.Dispatcher
import TransitHub.Push.FailureStreaks
import TransitHub.Push.HeartbeatSchedule
import TransitHub.Push.Outbound
import TransitHub.Push.Payload
import TransitHub.Push.Registry
import TransitHub.Push.Subscription
import TransitHub.Push.Transport
import TransitHub.Push.WorkerPool
import TransitHub.RecordKey
import TransitHub.Store.EntityStore
import TransitHub.Store.Summary
import TransitHub.Store.TtlStore
import TransitHub.Text.Blank
import TransitHub.Text.Decimal
import TransitHub.Text.Letters
import TransitHub.Time.Calendar
import TransitHub.Time.Span
import TransitHub.Time.Timestamp
import TransitHub.Time.Written
import TransitHub.Tracking.ChangeBuffer
import TransitHub.Tracking.ChangeTracker
import TransitHub.Proofs.Store.Checksums
import TransitHub.Proofs.Store.Run
import TransitHub.Proofs.Store.Uncached
import TransitHub.Proofs.Tracking.Operations
import TransitHub.Proofs.Feed.Run
import TransitHub.Proofs.Feed.Step
import TransitHub.Proofs.Feed.Session
import TransitHub.Proofs.EntityFilter
import TransitHub.Proofs.Feed.Mirror
import TransitHub.Proofs.Push.Snapshot
import TransitHub.Proofs.Tracking.Pages
import TransitHub.Proofs.Feed.Paging
import TransitHub.Proofs.Feed.Redelivery
import TransitHub.Proofs.Store.Report
import TransitHub.Proofs.Store.Convergence
import TransitHub.Proofs.Registry.Directory
import TransitHub.Proofs.Registry.Acceptance
import TransitHub.Proofs.Registry.Lifetime
import TransitHub.Proofs.Registry.Failing
import TransitHub.Proofs.Registry.Standing
import TransitHub.Proofs.Push.Job
import TransitHub.Proofs.Hub.Run
import TransitHub.Proofs.Push.Delivery
import TransitHub.Proofs.Hub.Reached
import TransitHub.Proofs.Push.Turns
import TransitHub.Proofs.Hub.Calls
import TransitHub.Proofs.Push.FanOut
import TransitHub.Proofs.Hub.Records
import TransitHub.Proofs.Push.Immediate
import TransitHub.Proofs.Hub.Smooth
import TransitHub.Proofs.Json.Text
import TransitHub.Proofs.Json.Exchange
import TransitHub.Proofs.Json.Reading
import TransitHub.Proofs.Push.Mirror
import TransitHub.Proofs.Push.Interleaving
import TransitHub.Proofs.Push.Run
import TransitHub.Proofs.Push.Cancellation
import TransitHub.Proofs.Tracking.Alike
import TransitHub.Proofs.Feed.Alike
import TransitHub.Proofs.Feed.Isolation
import TransitHub.Proofs.Store.Slot
import TransitHub.Proofs.Store.Repeat
import TransitHub.Proofs.Push.Journal
import TransitHub.Proofs.Hub.Malformed
import TransitHub.Proofs.Store.PlainMap
import TransitHub.Proofs.Feed.Remembrance
import TransitHub.Proofs.Store.Ledger
import TransitHub.Proofs.Registry.Requests
import TransitHub.Proofs.Store.Validity
import TransitHub.Proofs.Time.Reading
import TransitHub.Proofs.Entity.Fingerprint
import TransitHub.Proofs.Entity.Identity
import TransitHub.Proofs.Entity.Reread
import TransitHub.Proofs.Push.Submissions
import TransitHub.Proofs.Push.Scans
import TransitHub.Proofs.Push.Heartbeats
import TransitHub.Proofs.Expiration
import TransitHub.Proofs.Store.Selection
import TransitHub.Proofs.Feed.Absence
import TransitHub.Proofs.Hub.Clearing
import TransitHub.Proofs.Decode.Inverse
import TransitHub.Proofs.Decode.Model
import TransitHub.Proofs.Push.Origins
import TransitHub.Proofs.Hub.Brought
import TransitHub.Proofs.Hub.Relay
import TransitHub.Proofs.Hub.Loops

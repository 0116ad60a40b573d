import Courier.Table
import Courier.Text.LowerCase
import Courier.Text.Quoted
import Courier.Text.Hexadecimal
import Courier.Binary64.Shortest
import Courier.Json.Reader
import Courier.Json.Writer
import Courier.Json.Decode
import Courier.Duration
import Courier.NotificationId
import Courier.Timestamp
import Courier.Wire
import Courier.Retry
import Courier.Routing
import Courier.Idempotency
import Courier.RateLimiter
import Courier.Delivery
import Courier.Intake
import Courier.Settings.Decode
import Courier.Config.Value
import Courier.Config.Path
import Courier.Config.Convert
import Courier.Config.Toml
import Courier.Config.Json
import Courier.Config.Layers
import Courier.Consumer.Ready
import Courier.World.Script
import Courier.World.Handler
import Courier.World.Run
import Courier.Pipeline
import Courier.Main
import Courier.Proofs.Consumer.Run
import Courier.Proofs.Consumer.Balance
import Courier.Proofs.Consumer.Journey
import Courier.Proofs.Consumer.Ledger
import Courier.Proofs.Consumer.Census
import Courier.Proofs.Consumer.Conservation
import Courier.Proofs.Consumer.Retries
import Courier.Proofs.RateLimiter.Run
import Courier.Proofs.RateLimiter.History
import Courier.Proofs.RateLimiter.Window
import Courier.Proofs.Consumer.Progress
import Courier.Proofs.Consumer.Capacity
import Courier.Proofs.Consumer.Convergence
import Courier.Proofs.Intake.Run
import Courier.Proofs.Intake.Deduplication
import Courier.Proofs.Text.Marks
import Courier.Proofs.Intake.Keys
import Courier.Proofs.Intake.Admission
import Courier.Proofs.Intake.Reissue
import Courier.Proofs.Broker.Offers
import Courier.Proofs.Intake.Effects
import Courier.Proofs.Metrics.Totals
import Courier.Proofs.Metrics.Labels
import Courier.Proofs.RateLimiter.FullLog
import Courier.Proofs.Intake.Queueing
import Courier.Proofs.Intake.Rejection
import Courier.Proofs.Broker.Publications
import Courier.Proofs.Intake.Strides
import Courier.Proofs.Intake.Desk
import Courier.Proofs.Intake.PersistFirst
import Courier.Proofs.Consumer.Unsignalled
import Courier.Proofs.Consumer.Flow
import Courier.Proofs.Consumer.Quiescence
import Courier.Proofs.Consumer.Stopping
import Courier.Proofs.Consumer.Handling
import Courier.Proofs.Delivery.Records
import Courier.Proofs.Delivery.Strides
import Courier.Proofs.Delivery.Tally
import Courier.Proofs.Delivery.Counting
import Courier.Proofs.Delivery.Crowd
import Courier.Proofs.Delivery.Outlet
import Courier.Proofs.Delivery.Agreement
import Courier.Proofs.Broker.Evolution
import Courier.Proofs.Broker.Listings
import Courier.Proofs.Broker.Totals
import Courier.Proofs.Broker.Readings
import Courier.Proofs.Intake.Evolution
import Courier.Proofs.Intake.Sweep
import Courier.Proofs.Intake.Reports
import Courier.Proofs.Intake.Readings
import Courier.Proofs.Pipeline.Hosting
import Courier.Proofs.Pipeline.Consumers
import Courier.Proofs.World.Work
import Courier.Proofs.World.Hosting
import Courier.Proofs.Pipeline.Idleness
import Courier.Proofs.Pipeline.Balance
import Courier.Proofs.Pipeline.Measurements
import Courier.Proofs.RateLimiter.Isolation
import Courier.Proofs.RateLimiter.Refusals
import Courier.Proofs.RateLimiter.Bursts
import Courier.Proofs.RateLimiter.Cleanup
import Courier.Proofs.Retry.Backoff
import Courier.Proofs.Consumer.Contents
import Courier.Proofs.Consumer.Places
import Courier.Proofs.Simulation.Shares
import Courier.Proofs.Simulation.Publishers
import Courier.Proofs.Simulation.Completion
import Courier.Proofs.Simulation.Tallies
import Courier.Proofs.Text.Digits
import Courier.Proofs.Json.Strings
import Courier.Proofs.Json.Numbers
import Courier.Proofs.Json.RoundTrip
import Courier.Proofs.Json.Records
import Courier.Proofs.Wire.Texts
import Courier.Proofs.Wire.RoundTrip
import Courier.Proofs.Broker.Registry
import Courier.Proofs.Repository.History
import Courier.Proofs.Delivery.Outages
import Courier.Proofs.Shutdown.Timetable
import Courier.Proofs.Config.Lookup
import Courier.Proofs.RateLimiter.AnyClock
import Courier.Proofs.Settings.Topics
import Courier.Proofs.Config.Layering

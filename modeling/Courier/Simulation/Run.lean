import Courier.Log.Record
import Courier.Pipeline
import Courier.Simulation.Traffic

/-! # Simulation

Sends the traffic of a simulation through a pipeline with simulated senders,
waits for the consumers, shuts down, and reports in log records.
-/

namespace Courier.Simulation

/-- How the requests ended. -/
structure Tally where
  queued : Nat
  duplicates : Nat
  noChannels : Nat
  rateLimited : Nat
  errors : Nat
  deriving DecidableEq, Inhabited, Repr

namespace Tally

def zero : Tally := ⟨0, 0, 0, 0, 0⟩

def count (t : Tally) : Except RequestError QueueOutcome → Tally
  | .ok (.queued _ _) => { t with queued := t.queued + 1 }
  | .ok .duplicate => { t with duplicates := t.duplicates + 1 }
  | .ok .noChannels => { t with noChannels := t.noChannels + 1 }
  | .ok .rateLimited => { t with rateLimited := t.rateLimited + 1 }
  | .error _ => { t with errors := t.errors + 1 }

end Tally

/-- Submits the requests with these numbers, in this order. -/
def submitAll (traffic : Traffic) : List Nat → Pipeline → Tally → Pipeline × Tally
  | [], p, tally => (p, tally)
  | i :: rest, p, tally =>
      let (p, response) := p.submit (traffic.request i p.world.moment.date)
      submitAll traffic rest p (tally.count response.result)

structure Report where
  settings : Settings
  /-- Milliseconds from the first request to the end of the wait. -/
  elapsed : Nat
  tally : Tally
  stats : PipelineStats
  /-- The labelled counts in their text form. -/
  metrics : String
  shutdown : Shutdown.Result

/-- Zero publishers or users count as one. -/
def atLeastOne (n : UInt64) : Nat :=
  max n.toNat 1

def senders (s : SimulationSettings) : List Transport :=
  Channel.all.map fun c => .simulated (.ofRate c s.failureRate)

/-- There can be a consumer for each channel. -/
def isFeasible (settings : Settings) : Bool :=
  Pipeline.isFeasible settings.pipeline (senders settings.simulation)

def metricsText : Metrics → String
  | .labelled counts => counts.text
  | _ => ""

def run (settings : Settings) (seed : Nat) (moment : Moment) : Report :=
  let simulation := settings.simulation
  let p := Pipeline.create settings (senders simulation) .emptyLabelled moment (mkStdGen seed)
  let traffic := Traffic.ofSeed seed (atLeastOne simulation.users)
  let order := Traffic.order simulation.notifications.toNat (atLeastOne simulation.publishers)
  let (p, tally) := submitAll traffic order p.start .zero
  let p := (p.waitIdle (Pipeline.limits settings.shutdown).drain).1
  { settings := settings
    elapsed := p.world.clock
    tally := tally
    stats := p.stats
    metrics := metricsText p.world.broker.metrics
    shutdown := p.shutdown.2 }

namespace Report

/-- The name under which the records are logged. -/
def target : String := "notification_fanout"

/-- What is logged before anything else. -/
def configuration (s : PipelineSettings) : Log.Record where
  level := .info
  target := target
  message := "Configuration loaded"
  facts := [
    ("workers", .nat s.workerCount.toNat),
    ("queue_capacity", .nat s.queueCapacity.toNat),
    ("retry_limit", .nat s.retryLimit.toNat)]

def summary (r : Report) : Log.Record where
  level := .info
  target := target
  message := "Simulation summary"
  facts := [
    ("elapsed_ms", .nat r.elapsed),
    ("queued", .nat r.tally.queued),
    ("duplicates", .nat r.tally.duplicates),
    ("no_channels", .nat r.tally.noChannels),
    ("rate_limited", .nat r.tally.rateLimited),
    ("errors", .nat r.tally.errors),
    ("handled", .nat r.stats.totals.handled),
    ("delivered", .nat r.stats.totals.delivered),
    ("retried", .nat r.stats.totals.retried),
    ("dead_lettered", .nat r.stats.totals.deadLettered),
    ("dropped", .nat r.stats.totals.dropped)]

def topic (t : TopicStats) : Log.Record where
  level := .info
  target := target
  message := "Topic summary"
  facts := [
    ("topic", .string t.topic),
    ("delivered", .nat t.stats.delivered),
    ("failed_attempts", .nat t.stats.failedAttempts),
    ("dead_lettered", .nat t.stats.deadLettered)]

def finalMetrics (r : Report) : Log.Record where
  level := .debug
  target := target
  message := "Final metrics"
  facts := [("metrics", .string r.metrics)]

def finished (r : Report) : Log.Record where
  level := .info
  target := target
  message := "Shutdown complete"
  facts := [("drained", .bool r.shutdown.drained), ("tasks_joined", .nat r.shutdown.joined)]

def records (r : Report) : List Log.Record :=
  [configuration r.settings.pipeline, r.summary] ++ r.stats.topics.map topic ++ [r.finalMetrics, r.finished]

end Report

end Courier.Simulation

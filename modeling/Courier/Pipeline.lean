import Courier.Settings.Basic
import Courier.World.Run

/-! # Pipeline

One consumer for each sender, subscribed to the topic of the channel, with the
intake in front. The pipeline is started once and shut down once.
-/

namespace Courier

structure Pipeline where
  settings : Settings
  started : Bool
  world : World

/-- Statistics of the consumer of one topic. -/
structure TopicStats where
  topic : Topic
  queueDepth : Nat
  dlqDepth : Nat
  stats : Stats
  deriving DecidableEq

structure PipelineStats where
  topics : List TopicStats
  totals : Stats
  limiter : RateLimiter
  knownKeys : Nat

namespace Pipeline

/-- Adds the consumer that sends with `t`, and subscribes it. -/
def addSender (s : PipelineSettings) (w : World) (t : Transport) : World :=
  let topic := t.channel.topic
  let c := w.broker.consumers.length
  let w := w.addConsumer topic (s.consumerConfig topic) (.delivering t)
  w.withBroker (w.broker.subscribe topic c).1

/-- There can be a consumer for each sender. -/
def isFeasible (s : PipelineSettings) (senders : List Transport) : Bool :=
  senders.all fun t => (s.consumerConfig t.channel.topic).isFeasible

def create (settings : Settings) (senders : List Transport) (metrics : Metrics)
    (moment : Moment) (chance : StdGen) : Pipeline :=
  let w := World.empty metrics (.ofConfig settings.rateLimit) moment chance
  ⟨settings, false, senders.foldl (addSender settings.pipeline) w⟩

/-- Seconds that the clock cannot count. -/
def endOfTime : Nat := 9223372036854775807

/-- Milliseconds to wait until a time is over. One that the clock cannot count
is cut to the longest sleep. -/
def patience (d : Duration) : Nat :=
  if d.seconds < endOfTime then d.millis else World.longestSleep

def cleanupInterval (p : Pipeline) : Nat :=
  patience (Duration.ofSeconds p.settings.rateLimit.cleanupSeconds)

/-- Starts the workers and the drain of each consumer, and the cleanup of the
limiter if it is enabled; a second start does nothing. -/
def start (p : Pipeline) : Pipeline :=
  if p.started then p
  else
    let consumers := List.range p.world.broker.consumers.length
    let w := consumers.foldl (fun w c => (w.start c).startDrain c) p.world
    let w := if w.intake.limiter.config.enabled then w.startCleanup p.cleanupInterval else w
    { p with started := true, world := w }

def topicStats (c : Consumer) : TopicStats :=
  ⟨c.name, c.queue.length, c.dlq.length, c.stats⟩

def stats (p : Pipeline) : PipelineStats :=
  let consumers := p.world.broker.consumers
  { topics := consumers.map topicStats
    totals := Stats.sum (consumers.map (·.stats))
    limiter := p.world.intake.limiter
    knownKeys := p.world.intake.seen.size }

def submit (p : Pipeline) (r : Request) : Pipeline × Intake.Response :=
  let (w, response) := p.world.submit r
  ({ p with world := w }, response)

/-- Waits until every event has an outcome, for no longer than `limit`
milliseconds. -/
def waitIdle (p : Pipeline) (limit : Nat) : Pipeline × Bool :=
  let (w, idle) := p.world.waitIdle limit
  ({ p with world := w }, idle)

def limits (s : ShutdownSettings) : Shutdown.Limits :=
  ⟨patience s.drainTimeout, patience s.joinTimeout⟩

/-- Shuts the pipeline down; what is left is its world. -/
def shutdown (p : Pipeline) : World × Shutdown.Result :=
  p.world.shutdown (limits p.settings.shutdown)

end Pipeline

end Courier

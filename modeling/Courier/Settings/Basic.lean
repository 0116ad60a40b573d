import Courier.Consumer.Basic
import Courier.RateLimiter

/-! # Settings

What can be set from outside. Every setting has a default, so any part of the
settings may be left open.
-/

namespace Courier

/-- Values that replace those of the pipeline for one topic. -/
structure TopicOverride where
  queueCapacity : Option UInt64
  dlqCapacity : Option UInt64
  workerCount : Option UInt64
  retryLimit : Option UInt32
  deriving DecidableEq, Inhabited

namespace TopicOverride

/-- Replaces nothing. -/
def unset : TopicOverride := ⟨none, none, none, none⟩

end TopicOverride

structure PipelineSettings where
  /-- Capacity of the live queue of each consumer. -/
  queueCapacity : UInt64
  dlqCapacity : UInt64
  workerCount : UInt64
  retryLimit : UInt32
  /-- The first wait before a retry; zero for none. -/
  backoffBaseMillis : UInt64
  backoffMaxMillis : UInt64
  topics : Table Topic TopicOverride
  deriving DecidableEq

namespace PipelineSettings

/-- The capacity of either queue. -/
def defaultQueueCapacity : UInt64 := 50000

def defaultWorkerCount : UInt64 := 50

def defaultRetryLimit : UInt32 := 3

def default : PipelineSettings where
  queueCapacity := defaultQueueCapacity
  dlqCapacity := defaultQueueCapacity
  workerCount := defaultWorkerCount
  retryLimit := defaultRetryLimit
  backoffBaseMillis := 0
  backoffMaxMillis := 0
  topics := Table.empty

instance : Inhabited PipelineSettings := ⟨default⟩

/-- The waits before retries; a maximum below the base is raised to it. -/
def backoff (s : PipelineSettings) : Option Backoff :=
  if s.backoffBaseMillis = 0 then none
  else
    let base := Duration.ofMillis s.backoffBaseMillis
    some ⟨base, (Duration.ofMillis s.backoffMaxMillis).max base⟩

def retryPolicy (s : PipelineSettings) (limit : UInt32) : RetryPolicy :=
  ⟨limit, s.backoff⟩

/-- What is set for one topic; nothing, unless it is listed. -/
def override (s : PipelineSettings) (t : Topic) : TopicOverride :=
  s.topics.getD t .unset

/-- The configuration of the consumers of a topic. -/
def consumerConfig (s : PipelineSettings) (t : Topic) : ConsumerConfig :=
  let o := s.override t
  { queueCapacity := (o.queueCapacity.getD s.queueCapacity).toNat
    dlqCapacity := (o.dlqCapacity.getD s.dlqCapacity).toNat
    workerCount := (o.workerCount.getD s.workerCount).toNat
    retry := s.retryPolicy (o.retryLimit.getD s.retryLimit) }

end PipelineSettings

structure ShutdownSettings where
  /-- Seconds to wait for the queues to drain before the signal. -/
  drainSeconds : UInt64
  /-- Seconds to wait for the tasks to end after the signal. -/
  joinSeconds : UInt64
  deriving DecidableEq

namespace ShutdownSettings

def defaultDrainSeconds : UInt64 := 30

def defaultJoinSeconds : UInt64 := 10

def default : ShutdownSettings := ⟨defaultDrainSeconds, defaultJoinSeconds⟩

instance : Inhabited ShutdownSettings := ⟨default⟩

def drainTimeout (s : ShutdownSettings) : Duration :=
  Duration.ofSeconds s.drainSeconds

def joinTimeout (s : ShutdownSettings) : Duration :=
  Duration.ofSeconds s.joinSeconds

end ShutdownSettings

structure SimulationSettings where
  users : UInt64
  notifications : UInt64
  publishers : UInt64
  /-- Chance that a simulated send fails. -/
  failureRate : Float

namespace SimulationSettings

def defaultUsers : UInt64 := 10000

def defaultNotifications : UInt64 := 10000

def defaultPublishers : UInt64 := 100

def defaultFailureRate : Float := 0.1

def default : SimulationSettings where
  users := defaultUsers
  notifications := defaultNotifications
  publishers := defaultPublishers
  failureRate := defaultFailureRate

instance : Inhabited SimulationSettings := ⟨default⟩

end SimulationSettings

inductive LogFormat where
  | pretty
  | json
  deriving DecidableEq, Inhabited, Repr

namespace LogFormat

def all : List LogFormat :=
  [.pretty, .json]

def name : LogFormat → String
  | .pretty => "pretty"
  | .json => "json"

def default : LogFormat := .pretty

end LogFormat

structure LoggingSettings where
  level : String
  format : LogFormat
  deriving DecidableEq

namespace LoggingSettings

def defaultLevel : String := "info"

def default : LoggingSettings := ⟨defaultLevel, .default⟩

instance : Inhabited LoggingSettings := ⟨default⟩

end LoggingSettings

structure Settings where
  pipeline : PipelineSettings
  rateLimit : RateLimit
  shutdown : ShutdownSettings
  simulation : SimulationSettings
  logging : LoggingSettings

namespace Settings

def default : Settings := ⟨.default, .default, .default, .default, .default⟩

instance : Inhabited Settings := ⟨default⟩

end Settings

end Courier

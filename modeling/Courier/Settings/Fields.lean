import Courier.Record
import Courier.Settings.Basic

/-! # Fields of the settings

The records of the settings, for every encoding that tells how to read
the values of single fields. Each field has a default where it is absent, and
so has each record; a record without any field is the default one.
-/

namespace Courier

/-- How values are read from sources `σ`, with errors `ε`. -/
structure Encoding (σ ε : Type) where
  bool : σ → Except ε Bool
  uint32 : σ → Except ε UInt32
  uint64 : σ → Except ε UInt64
  real : σ → Except ε Float
  string : σ → Except ε String
  logFormat : σ → Except ε LogFormat
  option : {α : Type} → (σ → Except ε α) → σ → Except ε (Option α)
  /-- Names with values, where the names are free. -/
  dictionary : {α : Type} → (σ → Except ε α) → σ → Except ε (List (String × α))
  /-- A record, and how error messages call it. -/
  record : {α : Type} → String → Record σ ε α → σ → Except ε α

variable {σ ε : Type}

/-- The parts of a record of which no field is given. -/
def Parts.nothing (absent : String → ε) : Parts σ ε :=
  ⟨[], true, absent⟩

namespace TopicOverride

def fields (e : Encoding σ ε) : Record σ ε TopicOverride :=
  mk <$> .nullable "queue_capacity" (e.option e.uint64)
    <*> .nullable "dlq_capacity" (e.option e.uint64)
    <*> .nullable "worker_count" (e.option e.uint64)
    <*> .nullable "retry_limit" (e.option e.uint32)

def read (e : Encoding σ ε) : σ → Except ε TopicOverride :=
  e.record "TopicOverride" (fields e)

theorem read_nothing (e : Encoding σ ε) (absent : String → ε) :
    (fields e).read (.nothing absent) = .ok unset := rfl

end TopicOverride

namespace PipelineSettings

/-- Of several overrides for one topic the last counts. -/
def topicTable (entries : List (String × TopicOverride)) : Table Topic TopicOverride :=
  entries.foldl (fun t (name, o) => t.insert name o) Table.empty

def readTopics (e : Encoding σ ε) (s : σ) : Except ε (Table Topic TopicOverride) :=
  (e.dictionary (TopicOverride.read e) s).map topicTable

def fields (e : Encoding σ ε) : Record σ ε PipelineSettings :=
  mk <$> .withDefault "queue_capacity" e.uint64 defaultQueueCapacity
    <*> .withDefault "dlq_capacity" e.uint64 defaultQueueCapacity
    <*> .withDefault "worker_count" e.uint64 defaultWorkerCount
    <*> .withDefault "retry_limit" e.uint32 defaultRetryLimit
    <*> .withDefault "backoff_base_ms" e.uint64 0
    <*> .withDefault "backoff_max_ms" e.uint64 0
    <*> .withDefault "topics" (readTopics e) Table.empty

def read (e : Encoding σ ε) : σ → Except ε PipelineSettings :=
  e.record "PipelineConfig" (fields e)

theorem read_nothing (e : Encoding σ ε) (absent : String → ε) :
    (fields e).read (.nothing absent) = .ok default := rfl

end PipelineSettings

namespace RateLimit

def fields (e : Encoding σ ε) : Record σ ε RateLimit :=
  mk <$> .withDefault "enabled" e.bool defaultEnabled
    <*> .withDefault "limit" e.uint32 defaultLimit
    <*> .withDefault "window_seconds" e.uint64 defaultWindowSeconds
    <*> .withDefault "cleanup_interval_seconds" e.uint64 defaultCleanupSeconds

def read (e : Encoding σ ε) : σ → Except ε RateLimit :=
  e.record "RateLimitConfig" (fields e)

theorem read_nothing (e : Encoding σ ε) (absent : String → ε) :
    (fields e).read (.nothing absent) = .ok default := rfl

end RateLimit

namespace ShutdownSettings

def fields (e : Encoding σ ε) : Record σ ε ShutdownSettings :=
  mk <$> .withDefault "drain_timeout_seconds" e.uint64 defaultDrainSeconds
    <*> .withDefault "join_timeout_seconds" e.uint64 defaultJoinSeconds

def read (e : Encoding σ ε) : σ → Except ε ShutdownSettings :=
  e.record "ShutdownSettings" (fields e)

theorem read_nothing (e : Encoding σ ε) (absent : String → ε) :
    (fields e).read (.nothing absent) = .ok default := rfl

end ShutdownSettings

namespace SimulationSettings

def fields (e : Encoding σ ε) : Record σ ε SimulationSettings :=
  mk <$> .withDefault "users" e.uint64 defaultUsers
    <*> .withDefault "notifications" e.uint64 defaultNotifications
    <*> .withDefault "publishers" e.uint64 defaultPublishers
    <*> .withDefault "failure_rate" e.real defaultFailureRate

def read (e : Encoding σ ε) : σ → Except ε SimulationSettings :=
  e.record "SimulationConfig" (fields e)

theorem read_nothing (e : Encoding σ ε) (absent : String → ε) :
    (fields e).read (.nothing absent) = .ok default := rfl

end SimulationSettings

namespace LoggingSettings

def fields (e : Encoding σ ε) : Record σ ε LoggingSettings :=
  mk <$> .withDefault "level" e.string defaultLevel
    <*> .withDefault "format" e.logFormat LogFormat.default

def read (e : Encoding σ ε) : σ → Except ε LoggingSettings :=
  e.record "LoggingConfig" (fields e)

theorem read_nothing (e : Encoding σ ε) (absent : String → ε) :
    (fields e).read (.nothing absent) = .ok default := rfl

end LoggingSettings

namespace Settings

def fields (e : Encoding σ ε) : Record σ ε Settings :=
  mk <$> .withDefault "pipeline" (PipelineSettings.read e) PipelineSettings.default
    <*> .withDefault "rate_limit" (RateLimit.read e) RateLimit.default
    <*> .withDefault "shutdown" (ShutdownSettings.read e) ShutdownSettings.default
    <*> .withDefault "simulation" (SimulationSettings.read e) SimulationSettings.default
    <*> .withDefault "logging" (LoggingSettings.read e) LoggingSettings.default

def read (e : Encoding σ ε) : σ → Except ε Settings :=
  e.record "Settings" (fields e)

theorem read_nothing (e : Encoding σ ε) (absent : String → ε) :
    (fields e).read (.nothing absent) = .ok default := rfl

end Settings

end Courier

import Courier.Broker
import Courier.Idempotency
import Courier.RateLimiter
import Courier.Repository
import Courier.Routing
import Courier.Text.Blank

/-! # Intake

The front door: a request is validated, recognised if it was queued before,
routed, limited, stored, and only then published with one event per channel.
The key of a request is kept only after its notification was stored.
-/

namespace Courier

/-- Why a request failed. -/
inductive RequestError where
  | configuration (detail : String)
  | validation (detail : String)
  | persistence (cause : StorageError)
  deriving DecidableEq, Repr

namespace RequestError

/-- Short name for logs. -/
def code : RequestError → String
  | .configuration _ => "CONFIG_ERROR"
  | .validation _ => "VALIDATION_ERROR"
  | .persistence _ => "PERSISTENCE_ERROR"

def message : RequestError → String
  | .configuration detail => "Configuration error: " ++ detail
  | .validation detail => "Validation error: " ++ detail
  | .persistence cause => "Persistence error: " ++ cause.message

end RequestError

structure Request where
  notification : Notification
  preference : Option Preference
  /-- The key by which the request is recognised, if it brings one. -/
  ownKey : Option String

namespace Request

def key (r : Request) : String :=
  r.ownKey.getD
    (SeenKeys.keyFor r.notification.user r.notification.category r.notification.title)

/-- User and title must not be blank; the user is looked at first. -/
def validate (r : Request) : Except RequestError Unit :=
  if (Text.trim r.notification.user.toList).isEmpty then
    .error (.validation "user_id must not be empty")
  else if (Text.trim r.notification.title.toList).isEmpty then
    .error (.validation "title must not be empty")
  else .ok ()

end Request

inductive QueueOutcome where
  /-- The request was queued before. -/
  | duplicate
  /-- Routing left no channel. -/
  | noChannels
  /-- Every channel is over the limit of the user. -/
  | rateLimited
  | queued (channels : List Channel) (report : PublishReport)
  deriving DecidableEq, Inhabited

/-- The time of a request, on the clock of the limiter and on the calendar. -/
structure Moment where
  instant : Instant
  date : Timestamp

/-- Everything that a request can touch. -/
structure Intake where
  broker : Broker
  repository : Repository
  limiter : RateLimiter
  seen : SeenKeys
  deriving Inhabited

namespace Intake

/-- What became of a request: the state after it, the notification as the
caller sees it then, and the result. -/
structure Response where
  intake : Intake
  notification : Notification
  result : Except RequestError QueueOutcome

/-- Asks the limiter for one channel and counts a refusal. -/
def admitOne (s : Intake) (user : String) (c : Channel) (now : Instant) : Intake × Bool :=
  let (limiter, admission) := s.limiter.check (RateLimiter.keyFor user c) now
  let s := { s with limiter := limiter }
  if admission.isAllowed then (s, true)
  else ({ s with broker := s.broker.record ⟨.rateLimited, c.name⟩ }, false)

/-- Asks the limiter for each channel, and keeps the admitted ones. -/
def admitAll (s : Intake) (user : String) (now : Instant) : List Channel → Intake × List Channel
  | [] => (s, [])
  | c :: rest =>
      let (s, allowed) := s.admitOne user c now
      let (s, channels) := s.admitAll user now rest
      (s, if allowed then c :: channels else channels)

/-- The event for one channel of a notification. -/
def eventFor (n : Notification) (c : Channel) : Event :=
  Event.ofNotification (Event.idFor n.id c) ⟨n, [c]⟩

def publish (s : Intake) (n : Notification) (c : Channel) : Intake × PublishReport :=
  let (broker, report) := s.broker.publish c.topic (eventFor n c)
  ({ s with broker := broker }, report)

def publishAll (s : Intake) (n : Notification) : List Channel → Intake × PublishReport
  | [] => (s, .zero)
  | c :: rest =>
      let (s, first) := s.publish n c
      let (s, report) := s.publishAll n rest
      (s, first.add report)

def remember (s : Intake) (key : String) : Intake :=
  { s with seen := (s.seen.store key).1 }

/-- Stores a notification for channels that were admitted, keeps the key, and
publishes. -/
def enqueue (s : Intake) (n : Notification) (key : String) (channels : List Channel) :
    Response :=
  match s.repository.save n with
  | .error e => ⟨s, n, .error (.persistence e)⟩
  | .ok repository =>
      -- The key is kept before the first event goes out.
      let s := { s with repository := repository }.remember key
      let (s, report) := s.publishAll n channels
      ⟨s, n, .ok (.queued channels report)⟩

/-- Handles one request from start to finish. -/
def submit (s : Intake) (r : Request) (now : Moment) : Response :=
  let n := r.notification
  match r.validate with
  | .error e => ⟨s, n, .error e⟩
  | .ok () =>
      if s.seen.contains r.key then
        ⟨{ s with broker := s.broker.record ⟨.duplicates, ""⟩ }, n, .ok .duplicate⟩
      else
        match resolveChannels n r.preference with
        | [] => ⟨s, n, .ok .noChannels⟩
        | resolved =>
            let (s, channels) := s.admitAll n.user now.instant resolved
            match channels with
            | [] => ⟨s, n, .ok .rateLimited⟩
            | channels => s.enqueue (n.withStatus .queued now.date) r.key channels

end Intake

end Courier

import Courier.Event
import Courier.Repository
import Courier.Sender

/-! # Delivering events

An event is delivered on one channel: the attempt record is loaded or created,
the sender is called once, and the outcome is written back. Storage may fail
at any of its three calls; that never changes the result of the delivery.
-/

namespace Courier

/-- Why an event could not be processed. -/
inductive DeliveryError where
  | invalidPayload (detail : String)
  | send (cause : SendError)
  | other (detail : String)
  deriving DecidableEq, Repr

namespace DeliveryError

def message : DeliveryError → String
  | .invalidPayload detail => "Invalid payload: " ++ detail
  | .send cause => "Send failed: " ++ cause.message
  | .other detail => "Handler error: " ++ detail

/-- The error for an event that is not routed to the channel. -/
def notRouted (e : Event) (c : Channel) : DeliveryError :=
  .invalidPayload ("event " ++ e.id ++ " is not routed to " ++ c.name)

end DeliveryError

/-- Storage of attempt records with states `σ`. A call that fails may still
have changed the state. -/
structure AttemptStore (σ : Type) where
  find : σ → NotificationId → Channel → Except StorageError (Option Attempt)
  save : σ → Attempt → σ × Except StorageError Unit
  update : σ → Attempt → σ × Except StorageError Unit

namespace Repository

/-- The state after a write, which is the old one if the write failed. -/
def written (r : Repository) : Except StorageError Repository → Repository × Except StorageError Unit
  | .ok r' => (r', .ok ())
  | .error e => (r, .error e)

/-- A repository as storage of attempts. -/
def store : AttemptStore Repository where
  find r id c := .ok (r.findAttempt? id c)
  save r a := r.written (r.saveAttempt a)
  update r a := r.written (r.updateAttempt a)

end Repository

namespace AttemptStore

variable {σ : Type}

/-- The same storage while records cannot be looked up. -/
def withoutLookup (store : AttemptStore σ) : AttemptStore σ :=
  { store with find := fun _ _ _ => .error (.unavailable "attempts cannot be looked up") }

/-- The record of a notification and channel. A new one is saved; one that
cannot be looked up is replaced by a fresh record. -/
def load (store : AttemptStore σ) (s : σ) (id : NotificationId) (c : Channel) : σ × Attempt :=
  match store.find s id c with
  | .ok (some a) => (s, a)
  | .ok none =>
      let a := Attempt.fresh id c
      ((store.save s a).1, a)
  | .error _ => (s, Attempt.fresh id c)

end AttemptStore

namespace Delivery

variable {σ : Type}

def isRouted (e : Event) (c : Channel) : Bool :=
  e.routed.channels.contains c

/-- Loads the record and counts the try that is about to be made. -/
def start (store : AttemptStore σ) (s : σ) (e : Event) (c : Channel) (now : Timestamp) :
    σ × Attempt :=
  let (s, a) := store.load s e.routed.notification.id c
  (s, a.increment now)

def statusOf : Except SendError Unit → AttemptStatus
  | .ok _ => .success
  | .error _ => .failed

/-- Writes the outcome of the try. -/
def finish (store : AttemptStore σ) (s : σ) (a : Attempt) (result : Except SendError Unit) : σ :=
  (store.update s (a.withStatus (statusOf result))).1

def outcome : Except SendError Unit → Except DeliveryError Unit
  | .ok _ => .ok ()
  | .error e => .error (.send e)

/-- A delivery from start to finish by a sender with states `τ`. -/
def handle {τ : Type} (store : AttemptStore σ)
    (send : τ → Notification → τ × Except SendError Unit)
    (c : Channel) (now : Timestamp) (e : Event) (s : σ) (t : τ) :
    σ × τ × Except DeliveryError Unit :=
  if isRouted e c then
    let (s, a) := start store s e c now
    let (t, result) := send t e.routed.notification
    (finish store s a result, t, outcome result)
  else (s, t, .error (.notRouted e c))

end Delivery

end Courier

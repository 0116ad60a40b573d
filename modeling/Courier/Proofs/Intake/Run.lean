import Courier.Delivery
import Courier.Proofs.Intake.Submit
import Courier.Proofs.RateLimiter.Run

/-! # Runs of an intake

Requests come one after the other, and between them everything else happens
that reaches the broker, the repository or the limiter. All of it is an
`Action`; what is not possible in its turn changes nothing.
-/

namespace Courier.Intake

inductive Action where
  | submit (r : Request) (now : Moment)
  /-- The repository begins or ceases to reject writes. -/
  | rejectWrites (on : Bool)
  /-- A handler writes an attempt record. -/
  | saveAttempt (a : Attempt)
  | updateAttempt (a : Attempt)
  /-- Somebody else asks the limiter, or drops its stale keys. -/
  | limit (r : RateLimiter.Request)
  | addConsumer (name : String) (config : ConsumerConfig)
  | subscribe (t : Topic) (c : Nat)
  | unsubscribeAll (t : Topic)
  /-- Somebody else publishes. -/
  | publish (t : Topic) (e : Event)
  /-- Something happens to a consumer. -/
  | act (c : Nat) (a : Consumer.Action)

/-- A request that was handled, with its result. -/
structure Answer where
  request : Request
  result : Except RequestError QueueOutcome

def Answer.isQueued (x : Answer) : Bool :=
  Intake.isQueued x.result

/-- The keys of the requests that were queued, in order. -/
def queuedKeys (log : List Answer) : List String :=
  (log.filter Answer.isQueued).map fun x => x.request.key

/-- An intake that has had no request. -/
def fresh (broker : Broker) (limiter : RateLimiter) : Intake :=
  ⟨broker, Repository.empty, limiter, SeenKeys.empty⟩

def withBroker (s : Intake) (b : Broker) : Intake :=
  { s with broker := b }

def withRepository (s : Intake) (r : Repository) : Intake :=
  { s with repository := r }

def perform (s : Intake) : Action → Intake
  | .submit r now => (s.submit r now).intake
  | .rejectWrites on => s.withRepository (s.repository.rejecting on)
  | .saveAttempt a => s.withRepository (Repository.store.save s.repository a).1
  | .updateAttempt a => s.withRepository (Repository.store.update s.repository a).1
  | .limit r => { s with limiter := s.limiter.serve r }
  | .addConsumer name config =>
      s.withBroker { s.broker with consumers := s.broker.consumers ++ [.create name config] }
  | .subscribe t c => s.withBroker (s.broker.subscribe t c).1
  | .unsubscribeAll t => s.withBroker (s.broker.unsubscribeAll t).1
  | .publish t e => s.withBroker (s.broker.publish t e).1
  | .act c a => s.withBroker ((s.broker.act? c a).getD s.broker)

def answer? (s : Intake) : Action → Option Answer
  | .submit r now => some ⟨r, (s.submit r now).result⟩
  | _ => none

def run (s : Intake) : List Action → Intake
  | [] => s
  | a :: rest => (s.perform a).run rest

/-- The requests of a run with their results, the earliest first. -/
def answers (s : Intake) : List Action → List Answer
  | [] => []
  | a :: rest => (s.answer? a).toList ++ (s.perform a).answers rest

variable {s : Intake} {a : Action} {actions : List Action}

theorem run_append (s : Intake) (first second : List Action) :
    s.run (first ++ second) = (s.run first).run second := by
  induction first generalizing s with
  | nil => rfl
  | cons a rest ih => exact ih (s.perform a)

/-- What every action keeps holds after a run. -/
theorem run_induction {P : Intake → Prop} (hstart : P s)
    (hstep : ∀ before a, P before → P (before.perform a)) : P (s.run actions) := by
  induction actions generalizing s with
  | nil => exact hstart
  | cons a rest ih => exact ih (hstep s a hstart)

end Courier.Intake

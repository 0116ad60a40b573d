import Courier.Proofs.Consumer.Run

/-! # Journeys of events

Two accepted events can be equal in every field, so a consumer alone does not
tell what became of which. A `Ledger` runs beside a consumer and keeps one
`Journey` for each accepted event: where it is, and what has happened to it.
It only looks on; every run of the consumer is a run of the ledger.
-/

namespace Courier

/-- How an accepted event ends. -/
inductive Fate where
  | delivered
  | deadLettered
  | abandoned
  deriving DecidableEq

/-- The place of an accepted event. Positions count from the front of a queue. -/
inductive Spot where
  | queued (i : Nat)
  | held (w : Nat)
  | buried (i : Nat)
  | settled (fate : Fate)
  deriving DecidableEq

/-- How far an accepted event has come. -/
inductive Phase where
  | queued
  | handling
  | backingOff (delay : Duration)
  | requeueing
  | deadLettering
  | lost
  | buried
  | settled (fate : Fate)
  deriving DecidableEq

/-- What happens to an accepted event. -/
inductive Happening where
  /-- The handler is called with it. -/
  | called
  | failed
  /-- A wait before a retry begins. -/
  | waiting (delay : Duration)
  | requeued
  | buried
  | settled (fate : Fate)
  deriving DecidableEq

/-- The event of a worker, with how far it has come. -/
def Stage.view? : Stage → Option (Phase × Event)
  | .idle => none
  | .handling e => some (.handling, e)
  | .backingOff e delay => some (.backingOff delay, e)
  | .requeueing e => some (.requeueing, e)
  | .deadLettering e => some (.deadLettering, e)
  | .stopped => none
  | .lost e => some (.lost, e)

/-- What is to be seen at a place. An event that is settled is nowhere any
more; `last` is what it was. -/
def Consumer.view? (c : Consumer) (last : Event) : Spot → Option (Phase × Event)
  | .queued i => c.queue[i]?.map fun e => (.queued, e)
  | .held w => c.workers[w]?.bind fun worker => worker.stage.view?
  | .buried i => c.dlq[i]?.map fun e => (.buried, e)
  | .settled fate => some (.settled fate, last)

def Stage.delay? : Stage → Option Duration
  | .backingOff _ delay => some delay
  | _ => none

/-- The wait that a worker has begun. -/
def Consumer.pause? (c : Consumer) (w : Nat) : Option Duration :=
  c.workers[w]?.bind fun worker => worker.stage.delay?

namespace Spot

/-- Where the event at a place is after a possible action. -/
def next (c : Consumer) (a : Consumer.Action) (spot : Spot) : Spot :=
  match a, spot with
  | .take w, .queued 0 => .held w
  | .take _, .queued (i + 1) => .queued i
  | .succeed w, .held k => if k = w then .settled .delivered else .held k
  | .requeue w, .held k => if k = w then .queued c.queue.length else .held k
  | .bury w, .held k => if k = w then .buried c.dlq.length else .held k
  | .drain _, .buried 0 => .settled .deadLettered
  | .drain _, .buried (i + 1) => .buried i
  | .stop w, .held k => if k = w then .settled .abandoned else .held k
  | _, spot => spot

/-- What happens to the event at a place by a possible action with this
outcome. -/
def news (after : Consumer) (a : Consumer.Action) (spot : Spot) : List Happening :=
  match a, spot with
  | .take _, .queued 0 => [.called]
  | .succeed w, .held k => if k = w then [.settled .delivered] else []
  | .fail w, .held k =>
      if k = w then .failed :: (after.pause? w).toList.map .waiting else []
  | .requeue w, .held k => if k = w then [.requeued] else []
  | .bury w, .held k => if k = w then [.buried] else []
  | .drain _, .buried 0 => [.settled .deadLettered]
  | .stop w, .held k => if k = w then [.settled .abandoned] else []
  | _, _ => []

end Spot

/-- What is known of one accepted event. -/
structure Journey where
  offered : Event
  spot : Spot
  phase : Phase
  /-- The event as it is, or as it was when it was seen last. -/
  event : Event
  /-- What has happened, the earliest first. -/
  past : List Happening
  deriving DecidableEq

namespace Journey

/-- An event that is accepted goes to the end of the live queue. -/
def begin (c : Consumer) (e : Event) : Journey :=
  ⟨e, .queued c.queue.length, .queued, e, []⟩

def follow (before after : Consumer) (a : Consumer.Action) (j : Journey) : Journey :=
  let spot := j.spot.next before a
  let view := (after.view? j.event spot).getD (j.phase, j.event)
  ⟨j.offered, spot, view.1, view.2, j.past ++ j.spot.news after a⟩

end Journey

/-- A consumer with the journeys of all events that it accepted, in order. -/
structure Ledger where
  consumer : Consumer
  journeys : List Journey
  deriving DecidableEq

namespace Ledger

def create (name : String) (config : ConsumerConfig) : Ledger :=
  ⟨Consumer.create name config, []⟩

/-- The ledger once a possible action has had this outcome. -/
def advance (l : Ledger) (a : Consumer.Action) (after : Consumer) : Ledger :=
  ⟨after, l.journeys.map (Journey.follow l.consumer after a) ++
    (l.consumer.admitted? a).toList.map (Journey.begin l.consumer)⟩

def run? (l : Ledger) : List Consumer.Action → Option Ledger
  | [] => some l
  | a :: rest => (l.consumer.step? a).bind fun (after, _) => (l.advance a after).run? rest

end Ledger

end Courier

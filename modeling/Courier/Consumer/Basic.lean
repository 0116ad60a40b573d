import Courier.Consumer.Stats
import Courier.Event
import Courier.Metrics
import Courier.Retry

/-! # Consumers

A consumer takes events from a bounded live queue with a pool of workers. An
event whose handler fails goes back to the end of the live queue or, once its
retries are used up, to a bounded dead-letter queue, which a drain empties. A
worker that finds the queue full waits with the event in hand.

What may happen to a consumer is an `Action`; `Consumer.step?` says when it can
happen and what comes of it. Workers and drains act in any order.
-/

namespace Courier

structure ConsumerConfig where
  queueCapacity : Nat
  dlqCapacity : Nat
  workerCount : Nat
  retry : RetryPolicy
  deriving DecidableEq, Inhabited

namespace ConsumerConfig

def default : ConsumerConfig := ⟨1024, 1024, 4, RetryPolicy.default⟩

/-- Capacities and worker counts of zero are raised to one. -/
def raised (c : ConsumerConfig) : ConsumerConfig :=
  { c with
    queueCapacity := max c.queueCapacity 1
    dlqCapacity := max c.dlqCapacity 1
    workerCount := max c.workerCount 1 }

/-- No queue has more places than this. -/
def maxCapacity : Nat := 2305843009213693951

/-- There can be queues of these capacities. -/
def isFeasible (c : ConsumerConfig) : Bool :=
  c.queueCapacity ≤ maxCapacity && c.dlqCapacity ≤ maxCapacity

end ConsumerConfig

/-- Where a worker stands, with the event in its hands. -/
inductive Stage where
  | idle
  | handling (e : Event)
  /-- Waits before a retry. -/
  | backingOff (e : Event) (delay : Duration)
  /-- Waits for room in the live queue. -/
  | requeueing (e : Event)
  /-- Waits for room in the dead-letter queue. -/
  | deadLettering (e : Event)
  | stopped
  /-- The task ended without handing on the event. -/
  | lost (e : Event)
  deriving DecidableEq, Inhabited

namespace Stage

def event? : Stage → Option Event
  | .handling e => some e
  | .backingOff e _ => some e
  | .requeueing e => some e
  | .deadLettering e => some e
  | .lost e => some e
  | .idle => none
  | .stopped => none

/-- The task has ended, one way or another. -/
def isOver : Stage → Bool
  | .stopped => true
  | .lost _ => true
  | _ => false

end Stage

structure Worker where
  stage : Stage
  /-- The shutdown signal has reached the worker. -/
  signalled : Bool
  deriving DecidableEq, Inhabited

/-- A task that takes events off the dead-letter queue. -/
structure Drain where
  stopped : Bool
  signalled : Bool
  deriving DecidableEq, Inhabited

structure Consumer where
  name : String
  config : ConsumerConfig
  queue : List Event
  dlq : List Event
  workers : List Worker
  drains : List Drain
  stats : Stats
  deriving DecidableEq, Inhabited

namespace Consumer

def create (name : String) (config : ConsumerConfig) : Consumer :=
  ⟨name, config.raised, [], [], [], [], Stats.zero⟩

/-- Every accepted event has reached an outcome. -/
def isIdle (c : Consumer) : Bool :=
  c.stats.outstanding = 0

def queueHasRoom (c : Consumer) : Bool :=
  c.queue.length < c.config.queueCapacity

def dlqHasRoom (c : Consumer) : Bool :=
  c.dlq.length < c.config.dlqCapacity

/-- Puts an event on the live queue, or hands it back if there is no room. -/
def offer (c : Consumer) (e : Event) : Consumer × Except Event Unit :=
  if c.queueHasRoom then
    ({ c with
      queue := c.queue ++ [e]
      stats := { c.stats with outstanding := c.stats.outstanding + 1 } }, .ok ())
  else
    ({ c with stats := { c.stats with dropped := c.stats.dropped + 1 } }, .error e)

/-- Adds the workers of the configuration to the pool. -/
def start (c : Consumer) : Consumer :=
  { c with workers := c.workers ++ List.replicate c.config.workerCount ⟨.idle, false⟩ }

def startDrain (c : Consumer) : Consumer :=
  { c with drains := c.drains ++ [⟨false, false⟩] }

/-- The shutdown signal reaches the tasks that run. -/
def signal (c : Consumer) : Consumer :=
  { c with
    workers := c.workers.map fun w => { w with signalled := true }
    drains := c.drains.map fun d => { d with signalled := true } }

def setStage (c : Consumer) (w : Nat) (stage : Stage) : Consumer :=
  { c with workers := c.workers.modify w fun worker => { worker with stage := stage } }

/-- The event is put back once more: it counts as retried, and its worker goes
on to wait for room. -/
def retry (c : Consumer) (w : Nat) (e : Event) : Consumer :=
  { c.setStage w (.requeueing e.again) with
    stats := { c.stats with retried := c.stats.retried + 1 } }

/-- Gives up the event in the hands of a worker that stops. -/
def abandon (c : Consumer) (w : Nat) : Consumer :=
  { c.setStage w .stopped with
    stats := { c.stats with
      abandoned := c.stats.abandoned + 1
      outstanding := c.stats.outstanding - 1 } }

/-- What can happen to a consumer. Workers and drains are named by position. -/
inductive Action where
  | offer (e : Event)
  | start
  | startDrain
  | signal
  /-- An idle worker takes the first event of the live queue and calls the
  handler. -/
  | take (w : Nat)
  | succeed (w : Nat)
  | fail (w : Nat)
  /-- The wait before a retry is over. -/
  | wake (w : Nat)
  /-- A retry is put on the live queue. -/
  | requeue (w : Nat)
  /-- An event is put on the dead-letter queue. -/
  | bury (w : Nat)
  /-- A drain takes the first event of the dead-letter queue. -/
  | drain (d : Nat)
  /-- A worker that the signal has reached stops; unless it is idle it abandons
  its event. A handler call is not interrupted. -/
  | stop (w : Nat)
  | stopDrain (d : Nat)
  /-- The task of a worker dies or is aborted; an event in its hands stays
  outstanding. -/
  | lose (w : Nat)
  | loseDrain (d : Nat)
  deriving DecidableEq

/-- Takes the first event for an idle worker. -/
def take? (c : Consumer) (w : Nat) : Option Consumer :=
  match c.workers[w]?, c.queue with
  | some ⟨.idle, _⟩, e :: rest =>
      some { c.setStage w (.handling e) with
        queue := rest
        stats := { c.stats with handled := c.stats.handled + 1 } }
  | _, _ => none

/-- The handler has delivered the event. -/
def succeed? (c : Consumer) (w : Nat) : Option Consumer :=
  match c.workers[w]? with
  | some ⟨.handling _, _⟩ =>
      some { c.setStage w .idle with
        stats := { c.stats with
          delivered := c.stats.delivered + 1
          outstanding := c.stats.outstanding - 1 } }
  | _ => none

/-- The handler has failed; the retry policy decides what is next. The
counters that move are returned with the consumer. -/
def fail? (c : Consumer) (w : Nat) : Option (Consumer × List Counter) :=
  match c.workers[w]? with
  | some ⟨.handling e, _⟩ =>
      let c := { c with stats := { c.stats with failedAttempts := c.stats.failedAttempts + 1 } }
      match c.config.retry.next e.retries with
      | .retry (some delay) => some (c.setStage w (.backingOff e delay), [.failedAttempts])
      | .retry none => some (c.retry w e, [.failedAttempts, .retried])
      | .deadLetter => some (c.setStage w (.deadLettering e), [.failedAttempts])
  | _ => none

def wake? (c : Consumer) (w : Nat) : Option Consumer :=
  match c.workers[w]? with
  | some ⟨.backingOff e _, _⟩ => some (c.retry w e)
  | _ => none

def requeue? (c : Consumer) (w : Nat) : Option Consumer :=
  match c.workers[w]? with
  | some ⟨.requeueing e, _⟩ =>
      if c.queueHasRoom then some { c.setStage w .idle with queue := c.queue ++ [e] } else none
  | _ => none

def bury? (c : Consumer) (w : Nat) : Option Consumer :=
  match c.workers[w]? with
  | some ⟨.deadLettering e, _⟩ =>
      if c.dlqHasRoom then some { c.setStage w .idle with dlq := c.dlq ++ [e] } else none
  | _ => none

def drain? (c : Consumer) (d : Nat) : Option Consumer :=
  match c.drains[d]?, c.dlq with
  | some ⟨false, _⟩, _ :: rest =>
      some { c with
        dlq := rest
        stats := { c.stats with
          deadLettered := c.stats.deadLettered + 1
          outstanding := c.stats.outstanding - 1 } }
  | _, _ => none

def stop? (c : Consumer) (w : Nat) : Option Consumer :=
  match c.workers[w]? with
  | some ⟨.idle, true⟩ => some (c.setStage w .stopped)
  | some ⟨.backingOff _ _, true⟩ => some (c.abandon w)
  | some ⟨.requeueing _, true⟩ => some (c.abandon w)
  | some ⟨.deadLettering _, true⟩ => some (c.abandon w)
  | _ => none

def setDrainStopped (c : Consumer) (d : Nat) : Consumer :=
  { c with drains := c.drains.modify d fun drain => { drain with stopped := true } }

def stopDrain? (c : Consumer) (d : Nat) : Option Consumer :=
  match c.drains[d]? with
  | some ⟨false, true⟩ => some (c.setDrainStopped d)
  | _ => none

def lose? (c : Consumer) (w : Nat) : Option Consumer :=
  match c.workers[w]? with
  | some worker =>
      if worker.stage.isOver then none
      else
        match worker.stage.event? with
        | some e => some (c.setStage w (.lost e))
        | none => some (c.setStage w .stopped)
  | none => none

def loseDrain? (c : Consumer) (d : Nat) : Option Consumer :=
  match c.drains[d]? with
  | some ⟨false, _⟩ => some (c.setDrainStopped d)
  | _ => none

/-- The consumer after an action and the counters that moved with it; `none`
if the action is not possible. -/
def step? (c : Consumer) : Action → Option (Consumer × List Counter)
  | .offer e =>
      match c.offer e with
      | (c, .ok ()) => some (c, [.published])
      | (c, .error _) => some (c, [.dropped])
  | .start => some (c.start, [])
  | .startDrain => some (c.startDrain, [])
  | .signal => some (c.signal, [])
  | .take w => (c.take? w).map (·, [])
  | .succeed w => (c.succeed? w).map (·, [.delivered])
  | .fail w => c.fail? w
  | .wake w => (c.wake? w).map (·, [.retried])
  | .requeue w => (c.requeue? w).map (·, [])
  | .bury w => (c.bury? w).map (·, [])
  | .drain d => (c.drain? d).map (·, [.deadLettered])
  | .stop w => (c.stop? w).map (·, [])
  | .stopDrain d => (c.stopDrain? d).map (·, [])
  | .lose w => (c.lose? w).map (·, [])
  | .loseDrain d => (c.loseDrain? d).map (·, [])

end Consumer

end Courier

import Courier.Consumer.Basic
import Courier.Shutdown

/-! # What a consumer can do at once

An order in which the tasks of a consumer act when several of them can. Tasks
that the signal has reached come first; the dead-letter queue is emptied
before an idle worker takes another event.
-/

namespace Courier.Consumer

def isRunning (d : Drain) : Bool :=
  !d.stopped

/-- The worker does not wait for its handler. -/
def canStop (w : Worker) : Bool :=
  w.signalled &&
    match w.stage with
    | .idle | .backingOff _ _ | .requeueing _ | .deadLettering _ => true
    | .handling _ | .stopped | .lost _ => false

def isIdleWorker (w : Worker) : Bool :=
  match w.stage with
  | .idle => true
  | _ => false

def stopping? (c : Consumer) : Option Action :=
  match c.workers.findIdx? canStop with
  | some w => some (.stop w)
  | none => (c.drains.findIdx? fun d => isRunning d && d.signalled).map .stopDrain

def draining? (c : Consumer) : Option Action :=
  if c.dlq.isEmpty then none else (c.drains.findIdx? isRunning).map .drain

def taking? (c : Consumer) : Option Action :=
  if c.queue.isEmpty then none else (c.workers.findIdx? isIdleWorker).map .take

/-- How a worker that waits for room goes on. -/
def resuming? (c : Consumer) (w : Nat) : Option Action :=
  match c.workers[w]? with
  | some ⟨.requeueing _, _⟩ => if c.queueHasRoom then some (.requeue w) else none
  | some ⟨.deadLettering _, _⟩ => if c.dlqHasRoom then some (.bury w) else none
  | _ => none

def workerState (w : Worker) : TaskState :=
  match w.stage with
  | .stopped => .returned
  | .lost _ => .failed
  | _ => .running

def drainState (d : Drain) : TaskState :=
  if d.stopped then .returned else .running

/-- The events in the live queue and in the hands of workers that run. -/
def liveEvents (c : Consumer) : List Event :=
  c.queue ++ c.workers.filterMap fun w => if w.stage.isOver then none else w.stage.event?

/-- The handler can be called so often for an event before its retries are
used up. -/
def callsLeft (c : Consumer) (e : Event) : Nat :=
  c.config.retry.limit.toNat - e.retries.toNat + 1

/-- A bound on the actions that are possible without any time going by. An
event is taken, fails, waits and is put back for each call, and is buried and
drained at the end. -/
def effort (c : Consumer) : Nat :=
  c.liveEvents.foldr (fun e sum => 4 * c.callsLeft e + 2 + sum)
    (c.dlq.length + c.workers.length + c.drains.length)

end Courier.Consumer

import Courier.Consumer.Ready
import Courier.Intake
import Courier.World.Handler

/-! # The world

Everything that runs: consumers with their handlers, and tasks beside them, on
one clock that counts milliseconds and moves only while something is waited
for. The limiter and the calendar have clocks of their own, which stand still.
-/

namespace Courier

/-- A task that belongs to no consumer. -/
inductive RoutineKind where
  /-- Drops stale keys of the limiter again and again until the signal. -/
  | cleanup (interval : Nat)
  | untilSignal
  | afterSignal (delay : Nat)
  | diesOnSignal
  | sleep (time : Nat)
  | stuck
  deriving DecidableEq, Inhabited, Repr

/-- How far the signal has come with a task. -/
inductive Notice where
  | none
  | sent
  | heeded
  deriving DecidableEq, Inhabited, Repr

structure Routine where
  kind : RoutineKind
  state : TaskState
  notice : Notice
  deriving DecidableEq, Inhabited, Repr

namespace Routine

/-- The signal will reach the routine. -/
def listens (r : Routine) : Bool :=
  !r.state.isOver &&
    match r.kind with
    | .sleep _ | .stuck => false
    | _ => true

/-- The signal was sent while the routine runs; a second one changes nothing. -/
def notify (r : Routine) : Routine :=
  if r.state = .running ∧ r.notice = .none then { r with notice := .sent } else r

end Routine

/-- A task, by its place. -/
inductive TaskRef where
  | worker (c w : Nat)
  | drain (c d : Nat)
  | routine (r : Nat)
  deriving DecidableEq, Repr

/-- What happens when a time has come. -/
inductive Alarm where
  | callEnds (c w : Nat) (call : Call)
  | wake (c w : Nat)
  | tick (r : Nat)
  | finish (r : Nat)

structure Timer where
  due : Nat
  alarm : Alarm

structure World where
  clock : Nat
  intake : Intake
  /-- The handler of each consumer. -/
  handlers : List Handler
  routines : List Routine
  /-- The tasks whose end nobody has taken note of. -/
  tasks : List TaskRef
  timers : List Timer
  /-- The workers that wait for room in a queue, in order of arrival. -/
  waiting : List (Nat × Nat)
  /-- The scripted calls, the latest first. -/
  log : List LogEntry
  lookupFails : Bool
  moment : Moment
  chance : StdGen

namespace World

/-- A world without consumers. -/
def empty (metrics : Metrics) (limiter : RateLimiter) (moment : Moment) (chance : StdGen) :
    World where
  clock := 0
  intake := ⟨⟨[], Table.empty, metrics⟩, Repository.empty, limiter, SeenKeys.empty⟩
  handlers := []
  routines := []
  tasks := []
  timers := []
  waiting := []
  log := []
  lookupFails := false
  moment := moment
  chance := chance

def broker (w : World) : Broker :=
  w.intake.broker

def withBroker (w : World) (b : Broker) : World :=
  { w with intake := { w.intake with broker := b } }

def withRepository (w : World) (r : Repository) : World :=
  { w with intake := { w.intake with repository := r } }

def withLimiter (w : World) (l : RateLimiter) : World :=
  { w with intake := { w.intake with limiter := l } }

def withHandler (w : World) (c : Nat) (h : Handler) : World :=
  { w with handlers := w.handlers.set c h }

def consumer? (w : World) (c : Nat) : Option Consumer :=
  w.broker.consumers[c]?

def stage? (w : World) (c k : Nat) : Option Stage := do
  let consumer ← w.consumer? c
  let worker ← consumer.workers[k]?
  return worker.stage

def addConsumer (w : World) (name : String) (config : ConsumerConfig) (h : Handler) : World :=
  let b := w.broker
  { w.withBroker { b with consumers := b.consumers ++ [Consumer.create name config] } with
    handlers := w.handlers ++ [h] }

/-- Lets something happen to a consumer, if it is possible. -/
def act (w : World) (c : Nat) (a : Consumer.Action) : World :=
  match w.broker.act? c a with
  | some b => w.withBroker b
  | none => w

def setTimer (w : World) (delay : Nat) (a : Alarm) : World :=
  { w with timers := w.timers ++ [⟨w.clock + delay, a⟩] }

/-- Nobody sleeps for more than thirty years of 365 days. -/
def longestSleep : Nat := 946080000000

/-- Sets a timer for the end of a sleep. -/
def sleep (w : World) (time : Nat) (a : Alarm) : World :=
  w.setTimer (min time longestSleep) a

def setRoutine (w : World) (r : Nat) (state : TaskState) : World :=
  { w with routines := w.routines.modify r fun routine => { routine with state := state } }

def taskState (w : World) : TaskRef → TaskState
  | .worker c k =>
      match w.stage? c k with
      | some stage => Consumer.workerState ⟨stage, false⟩
      | none => .failed
  | .drain c d =>
      match (w.consumer? c).bind (·.drains[d]?) with
      | some drain => Consumer.drainState drain
      | none => .failed
  | .routine r => (w.routines[r]?.map (·.state)).getD .failed

end World

end Courier

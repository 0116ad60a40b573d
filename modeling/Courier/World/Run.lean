import Courier.World.Basic

/-! # Running the world

`settle` lets happen everything that needs no time: workers take events and
call their handlers, retries are put back, tasks that were signalled stop.
`catchUp` fires the timers that are due as well, in their order, and `elapse`
lets time go by.
-/

namespace Courier.World

/-! ## Calls -/

/-- Notes a scripted call. -/
def note (w : World) (s : Script) (who : String) (x : Subject) (retries : UInt32)
    (given : Given) : World :=
  let entry : LogEntry :=
    ⟨w.clock, who, x, retries, s.outcome x, if s.records then some given else none⟩
  { w with log := entry :: w.log }

/-- The storage of attempts as handlers find it. -/
def store (w : World) : AttemptStore Repository :=
  if w.lookupFails then Repository.store.withoutLookup else Repository.store

/-- Sends a notification for consumer `c`, and tells how long that takes. -/
def transmit (w : World) (c : Nat) (t : Transport) (n : Notification) :
    World × Except SendError Unit × Nat :=
  match t with
  | .simulated s =>
      let (x, chance) := draw w.chance
      let (s, result) := s.send n x
      ({ w with chance := chance }.withHandler c (.delivering (.simulated s)), result, 0)
  | .scripted name channel s =>
      let x := toString n.id.value.toNat
      let w := w.note s name x 0 (.notification n)
      (w.withHandler c (.delivering (.scripted name channel (s.turn x))),
        (s.outcome x).sent channel, s.delayFor x)

/-- Calls a delivering handler. -/
def deliver (w : World) (c : Nat) (t : Transport) (e : Event) : World × Call × Nat :=
  if Delivery.isRouted e t.channel then
    let (r, a) := Delivery.start w.store w.intake.repository e t.channel w.moment.date
    let (w, result, delay) := (w.withRepository r).transmit c t e.routed.notification
    (w, .delivery a result, delay)
  else (w, .refused (.notRouted e t.channel), 0)

/-- Calls the handler of a consumer. -/
def startCall (w : World) (c : Nat) (e : Event) : World × Call × Nat :=
  match w.handlers[c]? with
  | some (.scripted s) =>
      let w := w.note s (toString c) e.id e.retries (.event e.routed)
      (w.withHandler c (.scripted (s.turn e.id)), .scripted (s.outcome e.id), s.delayFor e.id)
  | some (.delivering t) => w.deliver c t e
  | none => (w, .refused (.other "no handler"), 0)

/-- The end of a call and its result, which is `none` if the call panics. -/
def finishCall (w : World) : Call → World × Option (Except DeliveryError Unit)
  | .scripted o => (w, o.handled)
  | .refused e => (w, some (.error e))
  | .delivery a result =>
      (w.withRepository (Delivery.finish w.store w.intake.repository a result),
        some (Delivery.outcome result))

/-! ## Workers -/

def awaitRoom (w : World) (c k : Nat) : World :=
  { w with waiting := w.waiting ++ [(c, k)] }

/-- What a worker waits for after a failure: its backoff, or room in a queue. -/
def follow (w : World) (c k : Nat) : World :=
  match w.stage? c k with
  | some (.backingOff _ delay) =>
      if delay.coveringMillis = 0 then (w.act c (.wake k)).awaitRoom c k
      else w.sleep delay.coveringMillis (.wake c k)
  | some (.requeueing _) => w.awaitRoom c k
  | some (.deadLettering _) => w.awaitRoom c k
  | _ => w

/-- The handler of a worker returns. A worker that was aborted meanwhile has
nothing to do with it any more. -/
def endCall (w : World) (c k : Nat) (call : Call) : World :=
  match w.stage? c k with
  | some (.handling _) =>
      match w.finishCall call with
      | (w, none) => w.act c (.lose k)
      | (w, some (.ok _)) => w.act c (.succeed k)
      | (w, some (.error _)) => (w.act c (.fail k)).follow c k
  | _ => w

def wake (w : World) (c k : Nat) : World :=
  match w.stage? c k with
  | some (.backingOff _ _) => (w.act c (.wake k)).awaitRoom c k
  | _ => w

/-- An idle worker takes an event and calls the handler. -/
def take (w : World) (c k : Nat) : World :=
  let w := w.act c (.take k)
  match w.stage? c k with
  | some (.handling e) =>
      match w.startCall c e with
      | (w, call, 0) => w.endCall c k call
      | (w, call, delay) => w.sleep delay (.callEnds c k call)
  | _ => w

/-! ## Settling -/

/-- The first consumer for which there is something to do. -/
def firstOf (w : World) (todo : Consumer → Option Consumer.Action) :
    Option (Nat × Consumer.Action) :=
  w.broker.consumers.zipIdx.findSome? fun (consumer, c) => (todo consumer).map (c, ·)

/-- The worker that goes on with the room in its queue. -/
def resuming? (w : World) : Option (Nat × Consumer.Action) :=
  w.waiting.findSome? fun (c, k) =>
    ((w.consumer? c).bind (·.resuming? k)).map (c, ·)

/-- The next thing that happens by itself. -/
def next? (w : World) : Option (Nat × Consumer.Action) :=
  w.firstOf Consumer.stopping? <|> w.firstOf Consumer.draining? <|> w.resuming? <|>
    w.firstOf Consumer.taking?

def perform (w : World) (c : Nat) (a : Consumer.Action) : World :=
  match a with
  | .take k => w.take c k
  | .requeue k | .bury k | .stop k => { w.act c a with waiting := w.waiting.erase (c, k) }
  | a => w.act c a

def settleFor : Nat → World → World
  | 0, w => w
  | effort + 1, w =>
      match w.next? with
      | some (c, a) => settleFor effort (w.perform c a)
      | none => w

/-- A routine heeds the signal once it was sent. -/
def heed (w : World) (r : Nat) : World :=
  match w.routines[r]? with
  | some ⟨kind, .running, .sent⟩ =>
      let w := { w with
        routines := w.routines.modify r fun routine => { routine with notice := .heeded } }
      match kind with
      | .cleanup _ => w.setRoutine r .returned
      | .untilSignal => w.setRoutine r .returned
      | .afterSignal 0 => w.setRoutine r .returned
      | .afterSignal delay => w.sleep delay (.finish r)
      | .diesOnSignal => w.setRoutine r .failed
      | .sleep _ => w
      | .stuck => w
  | _ => w

/-- Lets happen everything that needs no time. -/
def settle (w : World) : World :=
  let w := (List.range w.routines.length).foldl heed w
  w.settleFor (w.broker.consumers.foldr (fun c sum => c.effort + sum) 0)

/-! ## Time -/

def cleanup (w : World) : World :=
  w.withLimiter (w.intake.limiter.cleanup w.moment.instant)

/-- Another tick of a routine that runs. -/
def tick (w : World) (r : Nat) : World :=
  match w.routines[r]? with
  | some ⟨.cleanup interval, .running, _⟩ => w.cleanup.setTimer interval (.tick r)
  | _ => w

def finishRoutine (w : World) (r : Nat) : World :=
  match w.routines[r]? with
  | some ⟨_, .running, _⟩ => w.setRoutine r .returned
  | _ => w

def fire (w : World) : Alarm → World
  | .callEnds c k call => w.endCall c k call
  | .wake c k => w.wake c k
  | .tick r => w.tick r
  | .finish r => w.finishRoutine r

/-- Fires the timers that are due, and lets happen what needs no time. -/
def catchUp (w : World) : World :=
  let (due, later) := w.timers.partition fun t => t.due ≤ w.clock
  let w := due.foldl (fun w t => (fire w t.alarm).settle) { w with timers := later }
  w.settle

def nextDue? (w : World) : Option Nat :=
  (w.timers.map Timer.due).min?

/-- Milliseconds until a timer is due. -/
def pause (w : World) : Option Nat :=
  w.nextDue?.map (· - w.clock)

/-- Lets `time` milliseconds go by. Timers that are due at their end have not
fired yet. -/
def elapse (time : Nat) (w : World) : World :=
  if time = 0 then w
  else
    let w := w.catchUp
    -- The timers that are left lie ahead of the clock.
    let stride := max 1 (w.pause.getD time)
    if time ≤ stride then { w with clock := w.clock + time }
    else elapse (time - stride) { w with clock := w.clock + stride }
termination_by time

/-- Sleeps for `time` milliseconds, and lets everything happen that is due
then. -/
def advance (time : Nat) (w : World) : World :=
  (w.elapse (min time longestSleep)).catchUp

/-! ## Tasks -/

/-- Starts the workers of a consumer. -/
def start (w : World) (c : Nat) : World :=
  match w.consumer? c with
  | none => w
  | some consumer =>
      let first := consumer.workers.length
      let started := (List.range consumer.config.workerCount).map fun k => TaskRef.worker c (first + k)
      { w.act c .start with tasks := w.tasks ++ started }.settle

def startDrain (w : World) (c : Nat) : World :=
  match w.consumer? c with
  | none => w
  | some consumer =>
      { w.act c .startDrain with tasks := w.tasks ++ [TaskRef.drain c consumer.drains.length] }.settle

/-- The timer with which a routine begins. -/
def begin (w : World) (r : Nat) : RoutineKind → World
  | .cleanup interval => w.setTimer interval (.tick r)
  | .sleep 0 => w.setRoutine r .returned
  | .sleep time => w.sleep time (.finish r)
  | _ => w

def startRoutine (w : World) (kind : RoutineKind) : World :=
  let r := w.routines.length
  { w with
    routines := w.routines ++ [Routine.mk kind .running .none]
    tasks := w.tasks ++ [TaskRef.routine r] }.begin r kind

/-- The shortest interval between cleanups. -/
def minInterval : Nat := 1

def startCleanup (w : World) (interval : Nat) : World :=
  w.startRoutine (.cleanup (max interval minInterval))

/-- Some task waits for the signal. -/
def hasListener (w : World) : Bool :=
  w.broker.consumers.any (fun c =>
    c.workers.any (fun k => !k.stage.isOver) || c.drains.any Consumer.isRunning) ||
  w.routines.any Routine.listens

/-- The signal is on its way to every task that runs. -/
def sendSignal (w : World) : World :=
  let w := (List.range w.broker.consumers.length).foldl (fun w c => w.act c .signal) w
  { w with routines := w.routines.map Routine.notify }

/-- The signal to stop reaches every task that runs. -/
def signal (w : World) : World :=
  w.sendSignal.settle

/-- Ends a task that still runs. -/
def abortTask (w : World) (t : TaskRef) : World :=
  match t with
  | .worker c k => { w.act c (.lose k) with waiting := w.waiting.erase (c, k) }
  | .drain c d => w.act c (.loseDrain d)
  | .routine r => if (w.taskState t).isOver then w else w.setRoutine r .failed

def abort (w : World) : World :=
  w.tasks.foldl abortTask w

/-- The world as shutdown sees it. -/
def system : Shutdown.System World where
  isIdle w := w.broker.isIdle
  catchUp := catchUp
  elapse := elapse
  signal := sendSignal
  tasks w := w.tasks.map w.taskState
  turn _ _ := 0
  pause := pause
  abort := abort

/-- Waits until every consumer is found idle, for no longer than `limit`. -/
def waitIdle (limit : Nat) (w : World) : World × Bool :=
  let (w, idle) := system.waitIdle limit w
  (w.catchUp, idle)

/-- Shuts everything down; no task is waited for afterwards. -/
def shutdown (limits : Shutdown.Limits) (w : World) : World × Shutdown.Result :=
  let (w, result) := system.execute limits w
  (catchUp { w with tasks := [] }, result)

/-- How many tasks were found to have ended, and how many not. -/
structure JoinReport where
  returned : Nat
  failed : Nat
  running : Nat
  deriving DecidableEq, Repr

/-- Waits for the tasks and takes note of those that have ended. -/
def join (limit : Nat) (w : World) : World × JoinReport :=
  let (w, _) := system.join limit w (.start w.tasks.length)
  let count (state : TaskState) := w.tasks.countP fun t => w.taskState t = state
  (catchUp { w with tasks := w.tasks.filter fun t => w.taskState t = .running },
    ⟨count .returned, count .failed, count .running⟩)

/-! ## Requests -/

def submit (w : World) (r : Request) : World × Intake.Response :=
  let response := w.intake.submit r w.moment
  ({ w with intake := response.intake }.settle, response)

def publish (w : World) (t : Topic) (e : Event) : World × PublishReport :=
  let (b, report) := w.broker.publish t e
  ((w.withBroker b).settle, report)

def offer (w : World) (c : Nat) (e : Event) : World × Bool :=
  let (b, accepted) := w.broker.offer c e
  ((w.withBroker b).settle, accepted)

/-- Calls a handler outside its consumer, and waits for the result. -/
def handle (w : World) (c : Nat) (e : Event) :
    World × Option (Except DeliveryError Unit) :=
  let (w, call, delay) := w.startCall c e
  let (w, result) := (w.elapse (min delay longestSleep)).finishCall call
  (w.catchUp, result)

end Courier.World

import Courier.Consumer.Basic

/-! # Broker

The broker knows every consumer by its place in a list, and which of them are
subscribed to which topic. Publishing never waits: each subscriber is offered
the event, and one without room does not affect the others. Everything that
consumers count goes to one metrics sink.
-/

namespace Courier

/-- Outcome of publishing one event. -/
structure PublishReport where
  subscribers : Nat
  enqueued : Nat
  dropped : Nat
  deriving DecidableEq, Inhabited, Repr

namespace PublishReport

def zero : PublishReport := ⟨0, 0, 0⟩

def add (a b : PublishReport) : PublishReport :=
  ⟨a.subscribers + b.subscribers, a.enqueued + b.enqueued, a.dropped + b.dropped⟩

end PublishReport

structure Broker where
  consumers : List Consumer
  topics : Table Topic (List Nat)
  metrics : Metrics

namespace Broker

instance : Inhabited Broker := ⟨⟨[], Table.empty, .none⟩⟩

/-- The consumers listed under a topic, in order of subscription. -/
def subscribers (b : Broker) (t : Topic) : List Nat :=
  b.topics.getD t []

/-- Lists a consumer under a topic, and tells whether it is new there. -/
def subscribe (b : Broker) (t : Topic) (c : Nat) : Broker × Bool :=
  if c ∈ b.subscribers t then (b, false)
  else ({ b with topics := b.topics.insert t (b.subscribers t ++ [c]) }, true)

/-- Removes every consumer of a topic, and tells how many there were. -/
def unsubscribeAll (b : Broker) (t : Topic) : Broker × Nat :=
  ({ b with topics := b.topics.erase t }, (b.subscribers t).length)

/-- Lets something happen to a consumer, if it is possible. -/
def act? (b : Broker) (c : Nat) (a : Consumer.Action) : Option Broker := do
  let consumer ← b.consumers[c]?
  let (consumer, counters) ← consumer.step? a
  return { b with
    consumers := b.consumers.set c consumer
    metrics := b.metrics.recordAll (counters.map (⟨·, consumer.name⟩)) }

/-- Offers an event to a consumer, and tells whether there was room. -/
def offer (b : Broker) (c : Nat) (e : Event) : Broker × Bool :=
  ((b.act? c (.offer e)).getD b, (b.consumers[c]?).any (·.queueHasRoom))

/-- Offers an event to consumers one after the other. -/
def offerAll (b : Broker) (e : Event) : List Nat → Broker × PublishReport
  | [] => (b, .zero)
  | c :: rest =>
      let (b, accepted) := b.offer c e
      let (b, report) := b.offerAll e rest
      (b, .add ⟨1, if accepted then 1 else 0, if accepted then 0 else 1⟩ report)

/-- Offers an event to every consumer of a topic. -/
def publish (b : Broker) (t : Topic) (e : Event) : Broker × PublishReport :=
  b.offerAll e (b.subscribers t)

/-- The topics that have a subscriber, by name. -/
def topicNames (b : Broker) : List Topic :=
  let used := b.topics.entries.filter fun (_, subscribers) => !subscribers.isEmpty
  (used.map Prod.fst).mergeSort fun a b => a ≤ b

/-- No subscribed consumer has an event without outcome. -/
def isIdle (b : Broker) : Bool :=
  b.topics.values.all fun subscribers =>
    subscribers.all fun c => (b.consumers[c]?).all (·.isIdle)

def record (b : Broker) (x : Measurement) : Broker :=
  { b with metrics := b.metrics.record x }

end Broker

end Courier

import Courier.Proofs.Broker.Offers
import Courier.Proofs.Consumer.Conservation

/-! # What has been offered to whom

A list of publications remembers every event that was offered to a consumer, and
the request that published it. Whatever a consumer does with them, the events
that it accepted are among those, and each is where its journey says.
-/

namespace Courier

/-- An event that was offered to a consumer. -/
structure Publication where
  /-- The request that published it, if it was one. -/
  source : Option Nat
  consumer : Nat
  event : Event

/-- The same event is offered to several consumers. -/
def announce (source : Option Nat) (e : Event) (audience : List Nat) : List Publication :=
  audience.map fun i => ⟨source, i, e⟩

/-- The events that were offered to a consumer, in order. -/
def eventsTo (i : Nat) (ps : List Publication) : List Event :=
  (ps.filter fun p => p.consumer = i).map Publication.event

theorem eventsTo_append (i : Nat) (ps qs : List Publication) :
    eventsTo i (ps ++ qs) = eventsTo i ps ++ eventsTo i qs := by
  rw [eventsTo, List.filter_append, List.map_append]
  rfl

theorem eventsTo_cons (i : Nat) (p : Publication) (ps : List Publication) :
    eventsTo i (p :: ps) = if p.consumer = i then p.event :: eventsTo i ps else eventsTo i ps := by
  rw [eventsTo, List.filter_cons]
  by_cases hi : p.consumer = i <;> simp [hi, eventsTo]

theorem eventsTo_announce (i : Nat) (source : Option Nat) (e : Event) (audience : List Nat) :
    eventsTo i (announce source e audience) = List.replicate (audience.count i) e := by
  induction audience with
  | nil => rfl
  | cons j rest ih =>
      have hrest : announce source e (j :: rest) = ⟨source, j, e⟩ :: announce source e rest := rfl
      rw [hrest, eventsTo_cons, ih, List.count_cons]
      by_cases hj : j = i <;> simp [hj, List.replicate_succ]

theorem eventsTo_forward (i : Nat) (source : Option Nat) (c : Nat) (events : List Event) :
    eventsTo i (events.map fun e => ⟨source, c, e⟩) = if c = i then events else [] := by
  induction events with
  | nil => exact (ite_self _).symm
  | cons e rest ih =>
      rw [List.map_cons, eventsTo_cons, ih]
      split <;> rfl

namespace Consumer

/-- The event that an action offers. -/
def Action.offered : Action → List Event
  | .offer e => [e]
  | _ => []

/-- The consumer has come about by a run in which it accepted some of these
events, in their order, and no others. -/
def Took (k : Consumer) (events : List Event) : Prop :=
  ∃ name config history, (create name config).run? history = some k ∧
    ((create name config).accepted history).Sublist events

variable {k k' : Consumer} {a : Action} {moved : List Counter} {events : List Event}

theorem create_took (name : String) (config : ConsumerConfig) (events : List Event) :
    (create name config).Took events :=
  ⟨name, config, [], rfl, List.nil_sublist events⟩

theorem Took.append (htook : k.Took events) (more : List Event) : k.Took (events ++ more) := by
  obtain ⟨name, config, history, hrun, haccepted⟩ := htook
  exact ⟨name, config, history, hrun, haccepted.trans (List.sublist_append_left events more)⟩

theorem admitted?_sublist_offered (k : Consumer) (a : Action) :
    (k.admitted? a).toList.Sublist a.offered := by
  cases a with
  | offer e =>
      rw [admitted?_offer]
      split
      next => exact .refl _
      next => exact List.nil_sublist _
  | _ => exact .refl _

theorem Took.step (htook : k.Took events) (hstep : Step k a k' moved) :
    k'.Took (events ++ a.offered) := by
  obtain ⟨name, config, history, hrun, haccepted⟩ := htook
  have hlast : k.run? [a] = some k' := run?_cons hstep []
  refine ⟨name, config, history ++ [a], ?_, ?_⟩
  · rw [run?_append, hrun]
    exact hlast
  · rw [accepted_append hrun, accepted_cons hstep]
    exact haccepted.append (by simpa [accepted] using admitted?_sublist_offered k a)

/-- An offer is always possible. -/
theorem exists_step_offer (k : Consumer) (e : Event) :
    ∃ moved, Step k (.offer e) (k.offer e).1 moved := by
  simp only [← step?_eq_some_iff]
  cases haccepted : k.offer e with
  | mk after result => cases result <;> simp [step?, haccepted]

theorem Took.offer (htook : k.Took events) (e : Event) :
    (k.offer e).1.Took (events ++ [e]) := by
  obtain ⟨moved, hstep⟩ := exists_step_offer k e
  exact htook.step hstep

theorem Took.offerEach (htook : k.Took events) (more : List Event) :
    (k.offerEach more).Took (events ++ more) := by
  induction more generalizing k events with
  | nil =>
      rw [List.append_nil]
      exact htook
  | cons e rest ih =>
      have hrest := ih (htook.offer e)
      rw [List.append_assoc] at hrest
      exact hrest

end Consumer

/-- The ledger knows every event that the consumer has ever accepted, where it
is, and that it is as it was offered but for its retries. -/
structure Ledger.Tracks (l : Ledger) (k : Consumer) (offered : List Event) : Prop where
  consumer : l.consumer = k
  offered : (l.journeys.map Journey.offered).Sublist offered
  located : l.Located
  census : l.Census
  unchanged : ∀ j ∈ l.journeys, j.event = { j.offered with retries := j.event.retries }

theorem Consumer.Took.exists_ledger {k : Consumer} {events : List Event}
    (htook : k.Took events) : ∃ l : Ledger, l.Tracks k events := by
  obtain ⟨name, config, history, hrun, haccepted⟩ := htook
  obtain ⟨l, hl, hconsumer⟩ := Ledger.exists_run? (l := Ledger.create name config) hrun
  have hunchanged := Ledger.unchanged_run? hl (Ledger.create_located name config) (by
    intro j hj
    cases hj)
  refine ⟨l, hconsumer, ?_, Ledger.located_run? hl (Ledger.create_located name config),
    Ledger.census_run? hl (Ledger.create_census name config), hunchanged⟩
  rw [Ledger.offered_run? hl]
  exact haccepted

namespace Broker

/-- Every consumer has accepted some of what was offered to it, and nothing
else. -/
def Took (b : Broker) (ps : List Publication) : Prop :=
  ∀ (i : Nat) (k : Consumer), b.consumers[i]? = some k → k.Took (eventsTo i ps)

variable {b b' : Broker} {ps : List Publication}

theorem Took.of_consumers_eq (htook : b.Took ps) (hconsumers : b'.consumers = b.consumers) :
    b'.Took ps := by
  intro i k hk
  rw [hconsumers] at hk
  exact htook i k hk

/-- Offers to a consumer that is not there are offers to nobody. -/
theorem Took.append (htook : b.Took ps) (qs : List Publication) : b.Took (ps ++ qs) := by
  intro i k hk
  rw [eventsTo_append]
  exact (htook i k hk).append _

theorem Took.offerAll (htook : b.Took ps) (source : Option Nat) (e : Event) (audience : List Nat) :
    (b.offerAll e audience).1.Took (ps ++ announce source e audience) := by
  intro i k' hk'
  rw [getElem?_consumers_offerAll] at hk'
  obtain ⟨k, hk, rfl⟩ := Option.map_eq_some_iff.mp hk'
  rw [eventsTo_append, eventsTo_announce]
  exact (htook i k hk).offerEach _

/-- What happens to a consumer is one of its steps, and nothing happens to the
others. -/
theorem exists_step_of_act? {c : Nat} {a : Consumer.Action} (hact : b.act? c a = some b') :
    ∃ k k' moved, b.consumers[c]? = some k ∧ Consumer.Step k a k' moved ∧
      b'.consumers = b.consumers.set c k' := by
  obtain ⟨k, hk, hrest⟩ := Option.bind_eq_some_iff.mp hact
  obtain ⟨⟨k', moved⟩, hstep, heq⟩ := Option.bind_eq_some_iff.mp hrest
  cases heq
  exact ⟨k, k', moved, hk, .of_step? hstep, rfl⟩

theorem Took.act? (htook : b.Took ps) {c : Nat} {a : Consumer.Action}
    (hact : b.act? c a = some b') (source : Option Nat) :
    b'.Took (ps ++ a.offered.map fun e => ⟨source, c, e⟩) := by
  obtain ⟨k, after, moved, hk, hstep, hconsumers⟩ := exists_step_of_act? hact
  intro i k' hk'
  rw [hconsumers] at hk'
  rw [eventsTo_append, eventsTo_forward]
  by_cases hi : c = i
  · subst hi
    rw [List.getElem?_set_self (List.getElem?_eq_some_iff.mp hk).1] at hk'
    cases hk'
    rw [if_pos rfl]
    exact (htook c k hk).step hstep
  · rw [List.getElem?_set_ne hi] at hk'
    rw [if_neg hi, List.append_nil]
    exact htook i k' hk'

/-- A consumer that is added has accepted nothing. -/
theorem Took.addConsumer (htook : b.Took ps) (name : String) (config : ConsumerConfig) :
    Took { b with consumers := b.consumers ++ [Consumer.create name config] } ps := by
  intro i k hk
  rw [List.getElem?_append] at hk
  split at hk
  next => exact htook i k hk
  next =>
    rw [List.mem_singleton.mp (List.mem_of_getElem? hk)]
    exact Consumer.create_took name config _

end Broker

end Courier

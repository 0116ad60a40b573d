import Courier.Proofs.Consumer.Census

/-! # Conservation of events

Whatever publishers, workers, drains and the shutdown signal do and in
whichever order, an accepted event is in one place until it is settled, stays
settled, and is counted as what it is.
-/

namespace Courier

open Consumer (Action Step)

theorem Advance.event_eq {p : RetryPolicy} {phase phase' : Phase} {e e' : Event}
    {news : List Happening} (hadvance : Advance p phase e news phase' e') :
    e' = { e with retries := e'.retries } := by
  cases hadvance <;> rfl

namespace Ledger

variable {l l' : Ledger} {actions : List Action}

/-- The events that a consumer accepted are all accounted for. -/
structure Accounted (l : Ledger) (accepted : List Event) : Prop where
  offered : l.journeys.map Journey.offered = accepted
  /-- An event is found where its journey says, as it was offered but for its
  retries. -/
  located : ∀ j ∈ l.journeys, l.consumer.view? j.event j.spot = some (j.phase, j.event)
  unchanged : ∀ j ∈ l.journeys, j.event = { j.offered with retries := j.event.retries }
  /-- No two events are in one place, no place has an event that was not
  accepted, and outcomes are counted once for each event. -/
  census : ∀ spot, (l.journeys.map Journey.spot).count spot = l.consumer.occupancy spot
  /-- What is settled stays as it is, whatever else happens. -/
  final : ∀ more l', l.run? more = some l' → ∀ (t : Nat) (j : Journey) (fate : Fate),
    l.journeys[t]? = some j → j.spot = .settled fate → l'.journeys[t]? = some j
  total : accepted.length =
    l.consumer.stats.delivered + l.consumer.stats.deadLettered + l.consumer.stats.abandoned +
      l.consumer.stats.outstanding
  outstanding : l.consumer.stats.outstanding =
    l.consumer.queue.length + l.consumer.held + l.consumer.dlq.length
  /-- Nothing is counted down from zero. -/
  positive : ∀ a c' moved, l.consumer.step? a = some (c', moved) →
    l.consumer.stats.settled < c'.stats.settled → 0 < l.consumer.stats.outstanding

theorem unchanged_run? (hrun : l.run? actions = some l') (hlocated : l.Located)
    (hunchanged : ∀ j ∈ l.journeys, j.event = { j.offered with retries := j.event.retries }) :
    ∀ j ∈ l'.journeys, j.event = { j.offered with retries := j.event.retries } := by
  refine forall_journeys_run? hrun hlocated hunchanged (fun _ _ => rfl) ?_
  intro j k news hj hadvance hoffered _
  rw [hoffered, hadvance.event_eq, hj]

/-- Every run of a consumer keeps account of the events that it accepts. -/
theorem accounted_of_run? (name : String) (config : ConsumerConfig) (actions : List Action)
    (c : Consumer) (hrun : (Consumer.create name config).run? actions = some c) :
    ∃ l, (create name config).run? actions = some l ∧ l.consumer = c ∧
      l.Accounted ((Consumer.create name config).accepted actions) := by
  obtain ⟨l, hl, rfl⟩ := exists_run? (l := create name config) hrun
  have hlocated := located_run? hl (create_located name config)
  have hbalanced := Consumer.balanced_run? hrun (Consumer.create_balanced name config)
  have htotal := Consumer.settled_add_outstanding_run? hrun (Consumer.create_balanced name config)
  refine ⟨l, hl, rfl, ?_⟩
  exact {
    offered := offered_run? hl
    located := hlocated
    unchanged := unchanged_run? hl (create_located name config) (by
      intro j hj
      cases hj)
    census := census_run? hl (create_census name config)
    final := fun more l' hmore t j fate hj hsettled =>
      getElem?_run?_of_settled hmore hlocated hj hsettled
    total := by simpa [Stats.settled, Consumer.create, Stats.zero] using htotal.symm
    outstanding := hbalanced
    positive := fun a c' moved hstep hsettles =>
      (Step.of_step? hstep).outstanding_pos hbalanced hsettles }

/-- One event for each outcome, and one that is left waiting. -/
theorem accounted_of_each_outcome :
    let actions : List Action :=
      [.start, .startDrain, .offer default, .offer default, .take 0, .take 1, .offer default,
        .offer default, .offer default, .succeed 0, .fail 1, .bury 1, .drain 0, .take 0, .fail 0,
        .signal, .stop 0]
    let start := Consumer.create "mail" ⟨2, 0, 2, ⟨0, none⟩⟩
    ∃ c, start.run? actions = some c ∧
      (c.stats.delivered, c.stats.deadLettered, c.stats.abandoned, c.stats.outstanding) =
        (1, 1, 1, 1) ∧
      ∃ l, (create "mail" ⟨2, 0, 2, ⟨0, none⟩⟩).run? actions = some l ∧ l.consumer = c ∧
        l.Accounted (start.accepted actions) :=
  ⟨_, rfl, rfl, accounted_of_run? _ _ _ _ rfl⟩

end Ledger

end Courier

import Courier.Pipeline
import Courier.Proofs.Consumer.Capacity
import Courier.Proofs.Consumer.Contents
import Courier.Proofs.Consumer.Stopping

/-! # Places in the queues

A queue does not count its events but its free places: whoever puts an event on
it takes a place up, and whoever takes one off gives a place back. The count
never runs out of places that it still has to give away, and what it leaves of
the capacity is the length of the queue. Offers and retries compete for the same
places; an offer that finds none is refused, a retry waits.
-/

namespace Courier.Consumer

/-- The free places of both queues. -/
structure Places where
  queue : Nat
  dlq : Nat
  deriving DecidableEq

namespace Places

def all (config : ConsumerConfig) : Places :=
  ⟨config.raised.queueCapacity, config.raised.dlqCapacity⟩

/-- The places after a possible action. An offer that finds no place does not
take one up. -/
def next (p : Places) : Action → Places
  | .offer _ | .requeue _ => { p with queue := p.queue - 1 }
  | .take _ => { p with queue := p.queue + 1 }
  | .bury _ => { p with dlq := p.dlq - 1 }
  | .drain _ => { p with dlq := p.dlq + 1 }
  | _ => p

/-- The places that are free after a run. -/
def after (config : ConsumerConfig) (actions : List Action) : Places :=
  actions.foldl next (all config)

end Places

/-- There is no room for the event that a worker at this stage wants to put on a
queue. -/
def isBlocked (c : Consumer) : Stage → Bool
  | .requeueing _ => !c.queueHasRoom
  | .deadLettering _ => !c.dlqHasRoom
  | _ => false

variable {c c' : Consumer} {a : Action} {actions : List Action} {moved : List Counter}
  {p : Places} {config : ConsumerConfig} {w : Nat} {worker : Worker}

/-- The places that are free and those that are taken are all there are. -/
structure Counts (p : Places) (c : Consumer) : Prop where
  queue : p.queue + c.queue.length = c.config.queueCapacity
  dlq : p.dlq + c.dlq.length = c.config.dlqCapacity

theorem Counts.create (name : String) (config : ConsumerConfig) :
    Counts (.all config) (create name config) :=
  ⟨rfl, rfl⟩

theorem Counts.step (h : Counts p c) (hstep : Step c a c' moved) : Counts (p.next a) c' := by
  obtain ⟨hqueue, hdlq⟩ := h
  cases hstep with
  | accept hroom | requeue _ hroom =>
      refine ⟨?_, hdlq⟩
      simp only [Places.next, List.length_append, List.length_singleton, setStage_config]
      omega
  | refuse hfull =>
      refine ⟨?_, hdlq⟩
      simp only [Places.next]
      omega
  | take _ hfirst =>
      refine ⟨?_, hdlq⟩
      rw [hfirst, List.length_cons] at hqueue
      simp only [Places.next, setStage_config]
      omega
  | bury _ hroom =>
      refine ⟨hqueue, ?_⟩
      simp only [Places.next, List.length_append, List.length_singleton, setStage_config]
      omega
  | drain _ hfirst =>
      refine ⟨hqueue, ?_⟩
      rw [hfirst, List.length_cons] at hdlq
      simp only [Places.next]
      omega
  | _ => exact ⟨hqueue, hdlq⟩

theorem Counts.run? (h : Counts p c) (hrun : c.run? actions = some c') :
    Counts (actions.foldl Places.next p) c' := by
  induction actions generalizing c p with
  | nil =>
      cases hrun
      exact h
  | cons a rest ih =>
      obtain ⟨middle, moved, hstep, hrest⟩ := run?_cons_eq_some_iff.mp hrun
      exact ih (h.step hstep) hrest

/-! ## Full queues -/

/-- A refusal gives back the event that was offered and leaves nothing behind but
its count. -/
theorem offer_eq_of_error {e e' : Event} (hrefused : c.offer e = (c', .error e')) :
    e' = e ∧ c' = { c with stats := { c.stats with dropped := c.stats.dropped + 1 } } := by
  unfold offer at hrefused
  split at hrefused
  next => cases hrefused
  next =>
    cases hrefused
    exact ⟨rfl, rfl⟩

theorem exists_offer_eq_error_iff (hwithin : c.WithinCapacity) (e : Event) :
    (∃ c', c.offer e = (c', .error e)) ↔ c.queue.length = c.config.queueCapacity := by
  have hle := hwithin.queue
  unfold offer queueHasRoom
  by_cases hroom : c.queue.length < c.config.queueCapacity
  · simp [hroom, Nat.ne_of_lt hroom]
  · simp [hroom]
    omega

/-- Only offers are ever refused. -/
theorem Step.dropped_eq (hstep : Step c a c' moved) (hoffer : a.isOffer = false) :
    c'.stats.dropped = c.stats.dropped := by
  cases hstep with
  | accept | refuse => cases hoffer
  | _ => rfl

/-- Where there is no room a worker waits with its event, unless the signal or the
end of its task comes first. -/
theorem Step.blocked_waits (hstep : Step c a c' moved) (hworker : c.workers[w]? = some worker)
    (hblocked : c.isBlocked worker.stage = true) (hstop : a ≠ .stop w) (hlose : a ≠ .lose w) :
    ∃ signalled, c'.workers[w]? = some ⟨worker.stage, signalled⟩ := by
  apply hstep.worker_of_other _ hworker
  intro hacts
  cases hstep with
  | take hother | succeed hother | backOff hother | retryAtOnce hother | exhaust hother
  | wake hother =>
      cases hacts
      cases hother.symm.trans hworker
      cases hblocked
  | requeue hother hroom =>
      cases hacts
      cases hother.symm.trans hworker
      simp [isBlocked, queueHasRoom, hroom] at hblocked
  | bury hother hroom =>
      cases hacts
      cases hother.symm.trans hworker
      simp [isBlocked, dlqHasRoom, hroom] at hblocked
  | stopIdle | abandon =>
      cases hacts
      exact hstop rfl
  | lose | loseIdle =>
      cases hacts
      exact hlose rfl
  | accept | refuse | start | startDrain | signal | drain | stopDrain | loseDrain => cases hacts

/-! ## Every run -/

/-- What holds of a consumer with this configuration after these actions. -/
structure Bounds (config : ConsumerConfig) (actions : List Action) (c : Consumer) : Prop where
  queue : c.queue.length ≤ max config.queueCapacity 1
  dlq : c.dlq.length ≤ max config.dlqCapacity 1
  /-- Workers hold no more than one event each. -/
  inHands : c.inHands.length ≤ c.workers.length
  started : c.workers.length = actions.count .start * max config.workerCount 1
  outstanding : c.stats.outstanding ≤
    max config.queueCapacity 1 + max config.dlqCapacity 1 + c.workers.length
  refused_iff : ∀ e, (∃ c', c.offer e = (c', .error e)) ↔
    c.queue.length = max config.queueCapacity 1
  refused : ∀ e e' c', c.offer e = (c', .error e') →
    e' = e ∧ c' = { c with stats := { c.stats with dropped := c.stats.dropped + 1 } }
  /-- Nothing but an offer is dropped, and nothing is lost on the way between the
  queues and the workers. -/
  kept : ∀ a c' moved, c.step? a = some (c', moved) →
    (a.isOffer = false → c'.stats.dropped = c.stats.dropped) ∧
      ((c'.contents ++ (c.settles? a).toList).map Event.origin).Perm
        ((c.contents ++ (c.admitted? a).toList).map Event.origin)
  /-- A retry or a dead letter that finds no room waits. -/
  waits : ∀ (w : Nat) (worker : Worker), c.workers[w]? = some worker →
    c.isBlocked worker.stage = true → ∀ a c' moved, c.step? a = some (c', moved) →
      a ≠ .stop w → a ≠ .lose w →
        ∃ signalled, c'.workers[w]? = some ⟨worker.stage, signalled⟩
  /-- The depths are what the free places leave of the capacities, and there never
  are more free places than places. -/
  depths : (Places.after config actions).queue + (Pipeline.topicStats c).queueDepth =
      max config.queueCapacity 1 ∧
    (Places.after config actions).dlq + (Pipeline.topicStats c).dlqDepth =
      max config.dlqCapacity 1 ∧
    (Pipeline.topicStats c).queueDepth = c.queue.length ∧
    (Pipeline.topicStats c).dlqDepth = c.dlq.length

/-- Whatever a consumer does, its queues and its workers hold no more than they
have room for, and a full queue costs no event but the one that is offered. -/
theorem bounds_of_run? (name : String) (config : ConsumerConfig) (actions : List Action)
    (c : Consumer) (hrun : (create name config).run? actions = some c) :
    c.Bounds config actions := by
  have hconfig : c.config = config.raised := config_run? hrun
  have hwithin := withinCapacity_run? hrun (create_withinCapacity name config)
  have hbalanced : c.stats.outstanding = c.queue.length + c.held + c.dlq.length :=
    balanced_run? hrun (create_balanced name config)
  have hcounts := (Counts.create name config).run? hrun
  have hqueue : c.queue.length ≤ config.raised.queueCapacity := hconfig ▸ hwithin.queue
  have hdlq : c.dlq.length ≤ config.raised.dlqCapacity := hconfig ▸ hwithin.dlq
  have hheld : c.held ≤ c.workers.length := List.countP_le_length
  exact {
    queue := hqueue
    dlq := hdlq
    inHands := by
      rw [length_inHands]
      exact hheld
    started := by
      rw [length_workers_run? hrun]
      exact Nat.zero_add _
    outstanding := by
      change _ ≤ config.raised.queueCapacity + config.raised.dlqCapacity + _
      omega
    refused_iff := fun e => by
      rw [exists_offer_eq_error_iff hwithin, hconfig]
      rfl
    refused := fun _ _ _ hrefused => offer_eq_of_error hrefused
    kept := fun a c' moved hstep =>
      ⟨(Step.of_step? hstep).dropped_eq, (Step.of_step? hstep).contents_perm⟩
    waits := fun w worker hworker hblocked a c' moved hstep =>
      (Step.of_step? hstep).blocked_waits hworker hblocked
    depths := ⟨hcounts.queue.trans (congrArg ConsumerConfig.queueCapacity hconfig),
      hcounts.dlq.trans (congrArg ConsumerConfig.dlqCapacity hconfig), rfl, rfl⟩ }

/-- Capacities and worker count of zero: one event is in the queue, one waits with
the worker until there is room for its retry, and one was refused. -/
theorem bounds_of_zero_capacities :
    let config : ConsumerConfig := ⟨0, 0, 0, ⟨1, none⟩⟩
    let actions : List Action :=
      [.start, .startDrain, .offer default, .take 0, .offer default, .offer default, .fail 0]
    ∃ c, (create "mail" config).run? actions = some c ∧
      (c.stats.outstanding, c.stats.dropped) = (2, 1) ∧
      c.isBlocked (.requeueing (default : Event).again) = true ∧
      Places.after config actions = ⟨0, 1⟩ ∧ c.Bounds config actions :=
  ⟨_, rfl, rfl, rfl, rfl, bounds_of_run? "mail" _ _ _ rfl⟩

end Courier.Consumer

import Courier.Proofs.Consumer.Balance

/-! # Capacities

Neither queue ever holds more events than it has places, whatever waits to be
put there.
-/

namespace Courier.Consumer

structure WithinCapacity (c : Consumer) : Prop where
  queue : c.queue.length ≤ c.config.queueCapacity
  dlq : c.dlq.length ≤ c.config.dlqCapacity

variable {c c' : Consumer} {a : Action} {actions : List Action} {moved : List Counter}

theorem create_withinCapacity (name : String) (config : ConsumerConfig) :
    (create name config).WithinCapacity :=
  ⟨Nat.zero_le _, Nat.zero_le _⟩

theorem Step.withinCapacity (hstep : Step c a c' moved) (h : c.WithinCapacity) :
    c'.WithinCapacity := by
  obtain ⟨hqueue, hdlq⟩ := h
  cases hstep with
  | accept hroom =>
      refine ⟨?_, hdlq⟩
      rw [List.length_append, List.length_singleton]
      exact hroom
  | take _ hfirst =>
      refine ⟨?_, hdlq⟩
      rw [hfirst, List.length_cons] at hqueue
      exact Nat.le_of_succ_le hqueue
  | requeue _ hroom =>
      refine ⟨?_, hdlq⟩
      rw [List.length_append, List.length_singleton]
      exact hroom
  | bury _ hroom =>
      refine ⟨hqueue, ?_⟩
      rw [List.length_append, List.length_singleton]
      exact hroom
  | drain _ hfirst =>
      refine ⟨hqueue, ?_⟩
      rw [hfirst, List.length_cons] at hdlq
      exact Nat.le_of_succ_le hdlq
  | _ => exact ⟨hqueue, hdlq⟩

theorem withinCapacity_run? (hrun : c.run? actions = some c') (h : c.WithinCapacity) :
    c'.WithinCapacity :=
  run?_induction hrun h fun _ _ _ _ _ hbefore hstep => hstep.withinCapacity hbefore

end Courier.Consumer

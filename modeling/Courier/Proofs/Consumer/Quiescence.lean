import Courier.Proofs.Consumer.Flow

/-! # Quiescence

Whether a consumer is idle is read off one counter. The counter is zero just if
there is no event in the consumer, be it in a queue, in a handler, in a pause or
in the hands of a worker that waits for room. Then no task has anything to do
either, so that the answer stays right until the next event is offered.
-/

namespace Courier.Consumer

/-- There is no event in the queues or in the hands of a worker, be its task
over or not. -/
structure Empty (c : Consumer) : Prop where
  queue : c.queue = []
  dlq : c.dlq = []
  hands : ∀ worker ∈ c.workers, worker.stage.event? = none

/-- Counters and queues are what they were. -/
structure Unmoved (before after : Consumer) : Prop where
  stats : after.stats = before.stats
  queue : after.queue = before.queue
  dlq : after.dlq = before.dlq

variable {c c' middle : Consumer} {a : Action} {actions : List Action} {moved : List Counter}

theorem Unmoved.refl (c : Consumer) : c.Unmoved c :=
  ⟨rfl, rfl, rfl⟩

theorem Unmoved.trans (hfirst : c.Unmoved middle) (hsecond : middle.Unmoved c') : c.Unmoved c' :=
  ⟨hsecond.stats.trans hfirst.stats, hsecond.queue.trans hfirst.queue,
    hsecond.dlq.trans hfirst.dlq⟩

theorem held_eq_zero_iff : c.held = 0 ↔ ∀ worker ∈ c.workers, worker.stage.event? = none := by
  simp [held, Worker.holds]

/-- The counter of outstanding events tells whether there is one. -/
theorem Balanced.isIdle_iff (hbalanced : c.Balanced) : c.isIdle = true ↔ c.Empty := by
  rw [isIdle, decide_eq_true_eq, hbalanced]
  constructor
  · intro hnone
    have hqueue : c.queue.length = 0 := by omega
    have hdlq : c.dlq.length = 0 := by omega
    have hheld : c.held = 0 := by omega
    exact ⟨List.eq_nil_of_length_eq_zero hqueue, List.eq_nil_of_length_eq_zero hdlq,
      held_eq_zero_iff.mp hheld⟩
  · rintro ⟨hqueue, hdlq, hhands⟩
    rw [hqueue, hdlq, held_eq_zero_iff.mpr hhands]
    rfl

/-- Where there is no event a task can start or stop, and nothing else. -/
theorem Step.unmoved (hstep : Step c a c' moved) (hempty : c.Empty) (hoffer : a.isOffer = false) :
    c.Unmoved c' := by
  have hhands {w : Nat} {worker : Worker} {e : Event} (hworker : c.workers[w]? = some worker)
      (hevent : worker.stage.event? = some e) : False := by
    have hnone := hempty.hands worker (List.mem_of_getElem? hworker)
    cases hnone.symm.trans hevent
  cases hstep with
  | accept | refuse => cases hoffer
  | take _ hqueue => cases hempty.queue.symm.trans hqueue
  | drain _ hdlq => cases hempty.dlq.symm.trans hdlq
  | succeed hworker | backOff hworker | retryAtOnce hworker | exhaust hworker | wake hworker
  | requeue hworker | bury hworker => exact (hhands hworker rfl).elim
  | abandon hworker hwaiting => exact (hhands hworker (Stage.event?_of_waiting? hwaiting)).elim
  | lose hworker _ hevent => exact (hhands hworker hevent).elim
  | start | startDrain | signal | stopIdle | stopDrain | loseIdle | loseDrain =>
      exact ⟨rfl, rfl, rfl⟩

/-- As long as nothing is offered, an idle consumer stays as it is. -/
theorem unmoved_run? (hrun : c.run? actions = some c') (hbalanced : c.Balanced)
    (hidle : c.isIdle = true) (hsilent : ∀ a ∈ actions, a.isOffer = false) : c.Unmoved c' := by
  have hboth : c'.Balanced ∧ c.Unmoved c' := by
    apply run?_induction (P := fun after => after.Balanced ∧ c.Unmoved after) hrun
      ⟨hbalanced, .refl c⟩
    rintro before a after moved hmem ⟨hbefore, hsame⟩ hstep
    have hidle' : before.isIdle = true := by rwa [isIdle, hsame.stats]
    have hempty := hbefore.isIdle_iff.mp hidle'
    exact ⟨hstep.balanced hbefore, hsame.trans (hstep.unmoved hempty (hsilent a hmem))⟩
  exact hboth.2

end Courier.Consumer

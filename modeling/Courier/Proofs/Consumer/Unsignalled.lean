import Courier.Proofs.Consumer.Progress

/-! # Before the signal

A worker gives up its event only when it is told to stop. As long as the
shutdown signal has not fired nothing is abandoned, even where tasks die.
-/

namespace Courier.Consumer

/-- The shutdown signal has reached no worker. -/
def Unsignalled (c : Consumer) : Prop :=
  ∀ worker ∈ c.workers, worker.signalled = false

variable {c c' : Consumer} {a : Action} {actions : List Action} {moved : List Counter}

theorem create_unsignalled (name : String) (config : ConsumerConfig) :
    (create name config).Unsignalled := by
  intro worker hmem
  cases hmem

theorem Unsignalled.setStage (h : c.Unsignalled) {w : Nat} {worker : Worker} {stage : Stage}
    (hworker : c.workers[w]? = some worker) :
    ∀ x ∈ (c.setStage w stage).workers, x.signalled = false :=
  forall_workers_setStage hworker h (h worker (List.mem_of_getElem? hworker))

theorem Unsignalled.step (h : c.Unsignalled) (hstep : Step c a c' moved) (hquiet : a ≠ .signal) :
    c'.Unsignalled := by
  cases hstep with
  | accept | refuse | startDrain | drain | stopDrain | loseDrain => exact h
  | start =>
      intro worker hmem
      obtain hold | hnew := List.mem_append.mp hmem
      · exact h worker hold
      · rw [List.eq_of_mem_replicate hnew]
  | signal => exact absurd rfl hquiet
  | take hworker | succeed hworker | backOff hworker | retryAtOnce hworker | exhaust hworker
  | wake hworker | requeue hworker | bury hworker | stopIdle hworker | abandon hworker
  | lose hworker | loseIdle hworker => exact h.setStage hworker

/-- Only a worker that the signal has reached gives up its event. -/
theorem Unsignalled.abandoned_eq (h : c.Unsignalled) (hstep : Step c a c' moved) :
    c'.stats.abandoned = c.stats.abandoned := by
  cases hstep with
  | abandon hworker =>
      have hunsignalled := h _ (List.mem_of_getElem? hworker)
      cases hunsignalled
  | _ => rfl

/-- Nothing is abandoned before the signal. -/
theorem abandoned_run? (hrun : c.run? actions = some c') (hquiet : .signal ∉ actions)
    (h : c.Unsignalled) : c'.stats.abandoned = c.stats.abandoned := by
  have hboth : c'.Unsignalled ∧ c'.stats.abandoned = c.stats.abandoned := by
    apply run?_induction
      (P := fun after => after.Unsignalled ∧ after.stats.abandoned = c.stats.abandoned) hrun
      ⟨h, rfl⟩
    rintro before a after moved hmem ⟨hbefore, hsame⟩ hstep
    refine ⟨hbefore.step hstep fun heq => hquiet (heq ▸ hmem), ?_⟩
    exact (hbefore.abandoned_eq hstep).trans hsame
  exact hboth.2

end Courier.Consumer

import Courier.Proofs.Consumer.Balance

/-! # Progress

Workers take events off the live queue and put failed ones back, so they can
wait for each other: once the queue is full and each of them has a failed event
in its hands, nobody is left to make room. Short of that, and as long as no task
is told to stop or dies, there is always a step that a worker or a drain can
take.
-/

namespace Courier.Consumer

/-- The shutdown signal, or the death of a task. -/
def Action.isDisruptive : Action → Bool
  | .signal => true
  | .lose _ => true
  | .loseDrain _ => true
  | _ => false

/-- An event is moved on by a worker, its handler or a drain. -/
def Action.isInternal : Action → Bool
  | .take _ => true
  | .succeed _ => true
  | .fail _ => true
  | .wake _ => true
  | .requeue _ => true
  | .bury _ => true
  | .drain _ => true
  | _ => false

def CanMove (c : Consumer) : Prop :=
  ∃ a : Action, a.isInternal = true ∧ (c.step? a).isSome = true

/-- Every worker waits for room in a live queue from which nobody takes. -/
structure Jammed (c : Consumer) : Prop where
  full : c.config.queueCapacity ≤ c.queue.length
  nothingBuried : c.dlq = []
  blocked : ∀ worker ∈ c.workers, ∃ e, worker.stage = .requeueing e

/-- No signal has reached a task, and none has ended. -/
structure Undisturbed (c : Consumer) : Prop where
  workers : ∀ worker ∈ c.workers, worker.signalled = false ∧ worker.stage.isOver = false
  drains : ∀ drain ∈ c.drains, drain = ⟨false, false⟩

variable {c c' : Consumer} {a : Action} {actions : List Action} {moved : List Counter}

theorem forall_workers_setStage {P : Worker → Prop} {w : Nat} {worker : Worker} {stage : Stage}
    (hworker : c.workers[w]? = some worker) (hall : ∀ x ∈ c.workers, P x)
    (hnew : P ⟨stage, worker.signalled⟩) : ∀ x ∈ (c.setStage w stage).workers, P x := by
  intro x hx
  obtain ⟨k, hk⟩ := List.mem_iff_getElem?.mp hx
  by_cases hkw : k = w
  · subst hkw
    rw [setStage_workers_self c k stage hworker] at hk
    cases hk
    exact hnew
  · rw [setStage_workers_of_ne c w stage hkw] at hk
    exact hall x (List.mem_of_getElem? hk)

namespace Undisturbed

theorem create (name : String) (config : ConsumerConfig) :
    (Consumer.create name config).Undisturbed := by
  refine ⟨?_, ?_⟩
  · intro worker hmem
    cases hmem
  · intro drain hmem
    cases hmem

theorem setStage (h : c.Undisturbed) {w : Nat} {worker : Worker} {stage : Stage}
    (hworker : c.workers[w]? = some worker) (hrunning : stage.isOver = false) :
    ∀ x ∈ (c.setStage w stage).workers, x.signalled = false ∧ x.stage.isOver = false := by
  have hold := h.workers worker (List.mem_of_getElem? hworker)
  exact forall_workers_setStage hworker h.workers ⟨hold.1, hrunning⟩

theorem step (hstep : Step c a c' moved) (hcalm : a.isDisruptive = false) (h : c.Undisturbed) :
    c'.Undisturbed := by
  cases hstep with
  | accept | refuse | drain => exact ⟨h.workers, h.drains⟩
  | start =>
      refine ⟨?_, h.drains⟩
      intro worker hmem
      obtain hold | hnew := List.mem_append.mp hmem
      · exact h.workers worker hold
      · rw [List.eq_of_mem_replicate hnew]
        exact ⟨rfl, rfl⟩
  | startDrain =>
      refine ⟨h.workers, ?_⟩
      intro drain hmem
      obtain hold | hnew := List.mem_append.mp hmem
      · exact h.drains drain hold
      · exact List.mem_singleton.mp hnew
  | take hworker | succeed hworker | backOff hworker | retryAtOnce hworker | exhaust hworker
  | wake hworker | requeue hworker | bury hworker =>
      exact ⟨h.setStage hworker rfl, h.drains⟩
  -- Tasks stop only when the signal has reached them.
  | stopIdle hworker | abandon hworker =>
      have hunsignalled := (h.workers _ (List.mem_of_getElem? hworker)).1
      cases hunsignalled
  | stopDrain hdrain =>
      have hunsignalled := h.drains _ (List.mem_of_getElem? hdrain)
      cases hunsignalled
  | signal | lose | loseIdle | loseDrain => cases hcalm

theorem run? (hrun : c.run? actions = some c') (hcalm : ∀ a ∈ actions, a.isDisruptive = false)
    (h : c.Undisturbed) : c'.Undisturbed :=
  run?_induction (P := Undisturbed) hrun h
    fun _ a _ _ hmem hbefore hstep => hbefore.step hstep (hcalm a hmem)

end Undisturbed

theorem canMove_of_step (hinternal : a.isInternal = true) (hstep : Step c a c' moved) :
    c.CanMove := by
  refine ⟨a, hinternal, ?_⟩
  rw [hstep.step?_eq]
  rfl

/-- In a jam no worker and no drain has anything to do. -/
theorem Jammed.not_canMove (h : c.Jammed) : ¬ c.CanMove := by
  rintro ⟨a, hinternal, hpossible⟩
  obtain ⟨⟨c', moved⟩, hstep⟩ := Option.isSome_iff_exists.mp hpossible
  cases Step.of_step? hstep with
  | take hworker | succeed hworker | backOff hworker | retryAtOnce hworker | exhaust hworker
  | wake hworker | bury hworker =>
      obtain ⟨e, hstage⟩ := h.blocked _ (List.mem_of_getElem? hworker)
      cases hstage
  | requeue _ hroom => exact Nat.not_lt.mpr h.full hroom
  | drain _ hdlq =>
      rw [h.nothingBuried] at hdlq
      cases hdlq
  | _ => cases hinternal

/-- A worker that cannot move waits for an event or for room. -/
theorem stage_of_not_canMove (hstuck : ¬ c.CanMove) (hroom : c.dlq.length < c.config.dlqCapacity)
    {worker : Worker} (hmem : worker ∈ c.workers) (hrunning : worker.stage.isOver = false) :
    worker.stage = .idle ∧ c.queue = [] ∨
      (∃ e, worker.stage = .requeueing e) ∧ c.config.queueCapacity ≤ c.queue.length := by
  obtain ⟨w, hworker⟩ := List.mem_iff_getElem?.mp hmem
  obtain ⟨stage, signalled⟩ := worker
  cases stage with
  | idle =>
      cases hqueue : c.queue with
      | nil => exact .inl ⟨rfl, rfl⟩
      | cons e rest => exact absurd (canMove_of_step rfl (.take hworker hqueue)) hstuck
  | handling e => exact absurd (canMove_of_step rfl (.succeed hworker)) hstuck
  | backingOff e delay => exact absurd (canMove_of_step rfl (.wake hworker)) hstuck
  | requeueing e =>
      refine .inr ⟨⟨e, rfl⟩, Nat.not_lt.mp fun hplace => hstuck ?_⟩
      exact canMove_of_step rfl (.requeue hworker hplace)
  | deadLettering e => exact absurd (canMove_of_step rfl (.bury hworker hroom)) hstuck
  | stopped => cases hrunning
  | lost e => cases hrunning

theorem dlq_eq_nil_of_not_canMove (hstuck : ¬ c.CanMove) (h : c.Undisturbed)
    (hdrains : c.drains ≠ []) : c.dlq = [] := by
  obtain ⟨drain, others, hdrain⟩ := List.exists_cons_of_ne_nil hdrains
  have hrunning : drain = ⟨false, false⟩ := h.drains drain (by rw [hdrain]; exact .head _)
  have hfirst : c.drains[0]? = some ⟨false, false⟩ := by rw [hdrain, hrunning]; rfl
  cases hdlq : c.dlq with
  | nil => rfl
  | cons e rest => exact absurd (canMove_of_step rfl (.drain hfirst hdlq)) hstuck

/-- Nothing is outstanding where all workers are idle and both queues empty. -/
theorem Balanced.outstanding_eq_zero (hbalanced : c.Balanced) (hqueue : c.queue = [])
    (hdlq : c.dlq = []) (hidle : ∀ worker ∈ c.workers, worker.stage = .idle) :
    c.stats.outstanding = 0 := by
  have hheld : c.held = 0 := by
    refine List.countP_eq_zero.mpr fun worker hmem => ?_
    rw [Worker.holds, hidle worker hmem]
    exact Bool.false_ne_true
  rw [hbalanced, hqueue, hdlq, hheld]
  rfl

theorem jammed_of_not_canMove (hstuck : ¬ c.CanMove) (h : c.Undisturbed) (hbalanced : c.Balanced)
    (hcapacity : 0 < c.config.queueCapacity) (hplaces : 0 < c.config.dlqCapacity)
    (hworkers : c.workers ≠ []) (hdrains : c.drains ≠ []) (hwork : 0 < c.stats.outstanding) :
    c.Jammed := by
  have hdlq := dlq_eq_nil_of_not_canMove hstuck h hdrains
  have hroom : c.dlq.length < c.config.dlqCapacity := by rwa [hdlq]
  have hstages := fun worker hmem =>
    stage_of_not_canMove hstuck hroom hmem (h.workers worker hmem).2
  by_cases hqueue : c.queue = []
  -- An empty queue has room, so all workers are idle and hold nothing.
  · have hidle : ∀ worker ∈ c.workers, worker.stage = .idle := by
      intro worker hmem
      obtain ⟨hidle, _⟩ | ⟨_, hfull⟩ := hstages worker hmem
      · exact hidle
      · rw [hqueue] at hfull
        exact absurd hcapacity (Nat.not_lt.mpr hfull)
    have hnone := hbalanced.outstanding_eq_zero hqueue hdlq hidle
    omega
  · have hblocked : ∀ worker ∈ c.workers,
        (∃ e, worker.stage = .requeueing e) ∧ c.config.queueCapacity ≤ c.queue.length := by
      intro worker hmem
      exact (hstages worker hmem).resolve_left fun hidle => hqueue hidle.2
    obtain ⟨worker, hmem⟩ := List.exists_mem_of_ne_nil c.workers hworkers
    exact ⟨(hblocked worker hmem).2, hdlq, fun worker hmem => (hblocked worker hmem).1⟩

/-- With workers and a drain started, and no task told to stop or dead, a
consumer with events outstanding can move unless it is jammed. -/
theorem canMove_iff_not_jammed_of_run? (name : String) (config : ConsumerConfig)
    (actions : List Action) (c : Consumer) (hrun : (create name config).run? actions = some c)
    (hcalm : ∀ a ∈ actions, a.isDisruptive = false) (hworkers : c.workers ≠ [])
    (hdrains : c.drains ≠ []) (hwork : 0 < c.stats.outstanding) : c.CanMove ↔ ¬ c.Jammed := by
  have hundisturbed := Undisturbed.run? hrun hcalm (.create name config)
  have hbalanced := balanced_run? hrun (create_balanced name config)
  have hconfig : c.config = config.raised := config_run? hrun
  have hcapacity : 0 < c.config.queueCapacity := by
    rw [hconfig]
    exact Nat.lt_of_lt_of_le Nat.one_pos (Nat.le_max_right ..)
  have hplaces : 0 < c.config.dlqCapacity := by
    rw [hconfig]
    exact Nat.lt_of_lt_of_le Nat.one_pos (Nat.le_max_right ..)
  refine ⟨fun hmove hjammed => hjammed.not_canMove hmove, fun hjammed => ?_⟩
  refine Classical.byContradiction fun hstuck => hjammed ?_
  exact jammed_of_not_canMove hstuck hundisturbed hbalanced hcapacity hplaces hworkers hdrains hwork

/-- One of two workers waits for room, the other has its handler running. -/
theorem canMove_iff_not_jammed_of_one_blocked :
    let actions : List Action :=
      [.start, .startDrain, .offer default, .take 0, .offer default, .take 1, .offer default,
        .fail 0]
    ∃ c, (create "mail" ⟨1, 1, 2, ⟨3, none⟩⟩).run? actions = some c ∧
      (∀ a ∈ actions, a.isDisruptive = false) ∧ c.workers ≠ [] ∧ c.drains ≠ [] ∧
      0 < c.stats.outstanding ∧ (c.CanMove ↔ ¬ c.Jammed) := by
  intro actions
  refine ⟨_, rfl, by decide, nofun, nofun, by decide, ?_⟩
  exact canMove_iff_not_jammed_of_run? "mail" ⟨1, 1, 2, ⟨3, none⟩⟩ actions _ rfl (by decide)
    nofun nofun (by decide)

/-- A single worker whose event fails while another fills the only place. -/
theorem not_forall_canMove :
    ¬ ∀ (name : String) (config : ConsumerConfig) (actions : List Action) (c : Consumer),
      (create name config).run? actions = some c → (∀ a ∈ actions, a.isDisruptive = false) →
        c.workers ≠ [] → c.drains ≠ [] → 0 < c.stats.outstanding → c.CanMove := by
  intro hall
  have hmove := hall "mail" ⟨1, 1, 1, ⟨3, none⟩⟩
    [.start, .startDrain, .offer default, .take 0, .offer default, .fail 0] _ rfl (by decide)
    nofun nofun (by decide)
  refine Jammed.not_canMove ⟨by decide, rfl, ?_⟩ hmove
  intro worker hmem
  obtain rfl := List.mem_singleton.mp hmem
  exact ⟨_, rfl⟩

end Courier.Consumer

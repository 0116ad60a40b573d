import Courier.Consumer.Ready
import Courier.Proofs.Consumer.Capacity
import Courier.Proofs.Consumer.Course
import Courier.Proofs.Consumer.Progress

/-! # Coming to rest

Once nothing is offered any more, a consumer cannot go on for ever: a failed
event goes back to the queue it came from, but with a call less to make. Where
a consumer comes to rest it has no event outstanding, unless it is jammed, and
a jam takes an event for each place of the live queue and for each worker.
-/

namespace Courier.Consumer

/-- The steps that the event of a worker can still make. -/
def stepsLeft (c : Consumer) : Stage → Nat
  | .idle => 0
  | .handling e => 4 * c.callsLeft e - 1
  | .backingOff e _ => 4 * c.callsLeft e.again + 2
  | .requeueing e => 4 * c.callsLeft e + 1
  | .deadLettering _ => 2
  | .stopped => 0
  | .lost _ => 0

/-- The steps that all events together can still make. For each call an event
is taken, fails, waits and is put back; after the last one it is buried and
drained instead. -/
def workload (c : Consumer) : Nat :=
  (c.queue.map fun e => 4 * c.callsLeft e).sum +
    (c.workers.map fun worker => c.stepsLeft worker.stage).sum + c.dlq.length

variable {c c' : Consumer} {a : Action} {actions steps : List Action} {moved : List Counter}

theorem callsLeft_pos (c : Consumer) (e : Event) : 0 < c.callsLeft e :=
  Nat.succ_pos _

theorem callsLeft_again {e : Event} (hmore : e.retries < c.config.retry.limit) :
    c.callsLeft e.again + 1 = c.callsLeft e := by
  have hagain : e.again.retries.toNat = e.retries.toNat + 1 := RetryPolicy.toNat_add_one hmore
  have hlt := UInt32.lt_iff_toNat_lt.mp hmore
  unfold callsLeft
  omega

/-- A worker that goes to another stage takes the steps of one stage off the
sum and puts those of the other on it. -/
theorem sum_stepsLeft_setStage {w : Nat} {stage : Stage} {signalled : Bool} (next : Stage)
    (hworker : c.workers[w]? = some ⟨stage, signalled⟩) :
    ((c.setStage w next).workers.map fun worker => c.stepsLeft worker.stage).sum +
        c.stepsLeft stage =
      (c.workers.map fun worker => c.stepsLeft worker.stage).sum + c.stepsLeft next :=
  sum_map_modify (fun worker => c.stepsLeft worker.stage) _ hworker

/-- What a consumer has to do depends on its configuration, queues and
workers only. -/
theorem workload_eq (hconfig : c'.config = c.config) :
    c'.workload =
      (c'.queue.map fun e => 4 * c.callsLeft e).sum +
        (c'.workers.map fun worker => c.stepsLeft worker.stage).sum + c'.dlq.length := by
  have hcalls : c'.callsLeft = c.callsLeft := by
    funext e
    rw [callsLeft, callsLeft, hconfig]
  have hsteps : c'.stepsLeft = c.stepsLeft := by
    funext stage
    cases stage <;> simp only [stepsLeft, hcalls]
  rw [workload, hcalls, hsteps]

/-- Every step of a worker or a drain leaves less to do. -/
theorem Step.workload_lt (hstep : Step c a c' moved) (hinternal : a.isInternal = true) :
    c'.workload < c.workload := by
  have hidle : c.stepsLeft .idle = 0 := rfl
  rw [workload_eq hstep.config_eq, workload]
  cases hstep with
  | @take w _ e rest hworker hqueue =>
      have hsum := sum_stepsLeft_setStage (.handling e) hworker
      have hhandling : c.stepsLeft (.handling e) = 4 * c.callsLeft e - 1 := rfl
      have hcalls := c.callsLeft_pos e
      simp only [hqueue, List.map_cons, List.sum_cons, setStage_dlq]
      omega
  | @succeed w _ e hworker =>
      have hsum := sum_stepsLeft_setStage .idle hworker
      have hhandling : c.stepsLeft (.handling e) = 4 * c.callsLeft e - 1 := rfl
      have hcalls := c.callsLeft_pos e
      simp only [setStage_queue, setStage_dlq]
      omega
  | @backOff w _ e delay hworker hnext =>
      have hsum := sum_stepsLeft_setStage (.backingOff e delay) hworker
      have hhandling : c.stepsLeft (.handling e) = 4 * c.callsLeft e - 1 := rfl
      have hpausing : c.stepsLeft (.backingOff e delay) = 4 * c.callsLeft e.again + 2 := rfl
      have hcalls := callsLeft_again (RetryPolicy.next_eq_retry_iff.mp hnext).1
      simp only [setStage_queue, setStage_dlq]
      omega
  | @retryAtOnce w _ e hworker hnext =>
      have hsum := sum_stepsLeft_setStage (.requeueing e.again) hworker
      have hhandling : c.stepsLeft (.handling e) = 4 * c.callsLeft e - 1 := rfl
      have hwaiting : c.stepsLeft (.requeueing e.again) = 4 * c.callsLeft e.again + 1 := rfl
      have hcalls := callsLeft_again (RetryPolicy.next_eq_retry_iff.mp hnext).1
      simp only [setStage_queue, setStage_dlq]
      omega
  | @exhaust w _ e hworker _ =>
      have hsum := sum_stepsLeft_setStage (.deadLettering e) hworker
      have hhandling : c.stepsLeft (.handling e) = 4 * c.callsLeft e - 1 := rfl
      have hburying : c.stepsLeft (.deadLettering e) = 2 := rfl
      have hcalls := c.callsLeft_pos e
      simp only [setStage_queue, setStage_dlq]
      omega
  | @wake w _ e delay hworker =>
      have hsum := sum_stepsLeft_setStage (.requeueing e.again) hworker
      have hpausing : c.stepsLeft (.backingOff e delay) = 4 * c.callsLeft e.again + 2 := rfl
      have hwaiting : c.stepsLeft (.requeueing e.again) = 4 * c.callsLeft e.again + 1 := rfl
      simp only [setStage_queue, setStage_dlq]
      omega
  | @requeue w _ e hworker _ =>
      have hsum := sum_stepsLeft_setStage .idle hworker
      have hwaiting : c.stepsLeft (.requeueing e) = 4 * c.callsLeft e + 1 := rfl
      simp only [List.map_append, List.sum_append_nat, List.map_cons, List.map_nil, List.sum_cons,
        List.sum_nil, setStage_dlq]
      omega
  | @bury w _ e hworker _ =>
      have hsum := sum_stepsLeft_setStage .idle hworker
      have hburying : c.stepsLeft (.deadLettering e) = 2 := rfl
      simp only [setStage_queue, List.length_append, List.length_singleton]
      omega
  | drain _ hdlq =>
      simp only [hdlq, List.length_cons]
      omega
  | _ => cases hinternal

/-- The work of a consumer bounds the steps that its workers and drains take,
in whichever order and with whatever result. -/
theorem length_add_workload_le (hrun : c.run? steps = some c')
    (hinternal : ∀ a ∈ steps, a.isInternal = true) :
    steps.length + c'.workload ≤ c.workload := by
  induction steps generalizing c with
  | nil =>
      cases hrun
      exact Nat.le_of_eq (Nat.zero_add _)
  | cons a rest ih =>
      obtain ⟨middle, moved, hstep, hrest⟩ := run?_cons_eq_some_iff.mp hrun
      have hfirst := hstep.workload_lt (hinternal a List.mem_cons_self)
      have htail := ih hrest fun b hmem => hinternal b (List.mem_cons_of_mem a hmem)
      rw [List.length_cons]
      omega

/-- Workers and drains can go on from one state to the other, and there they
have nothing left to do. -/
def RestsAt (c c' : Consumer) : Prop :=
  ∃ steps, (∀ a ∈ steps, a.isInternal = true) ∧ c.run? steps = some c' ∧ ¬ c'.CanMove

/-- Whoever goes on as long as there is something to do comes to rest. -/
theorem exists_restsAt (c : Consumer) : ∃ c', c.RestsAt c' := by
  by_cases hmove : c.CanMove
  · obtain ⟨a, hinternal, hpossible⟩ := hmove
    obtain ⟨⟨next, moved⟩, hnext⟩ := Option.isSome_iff_exists.mp hpossible
    have hstep := Step.of_step? hnext
    have hless := hstep.workload_lt hinternal
    obtain ⟨c', rest, hrest, hrun, hstuck⟩ := exists_restsAt next
    refine ⟨c', a :: rest, List.forall_mem_cons.mpr ⟨hinternal, hrest⟩, ?_, hstuck⟩
    rw [run?_cons hstep, hrun]
  · exact ⟨c, [], List.forall_mem_nil _, rfl, hmove⟩
termination_by c.workload

/-! ## What a step of a worker or a drain leaves alone -/

theorem Action.isDisruptive_of_isInternal (hinternal : a.isInternal = true) :
    a.isDisruptive = false := by
  cases a <;> first | rfl | cases hinternal

theorem admitted?_of_isInternal (hinternal : a.isInternal = true) : c.admitted? a = none := by
  cases a <;> first | rfl | cases hinternal

theorem accepted_of_isInternal (hinternal : ∀ a ∈ steps, a.isInternal = true) :
    c.accepted steps = [] := by
  induction steps generalizing c with
  | nil => rfl
  | cons a rest ih =>
      have hfirst := admitted?_of_isInternal (c := c) (hinternal a List.mem_cons_self)
      have hrest := fun b hmem => hinternal b (List.mem_cons_of_mem a hmem)
      rw [accepted, hfirst]
      cases c.step? a with
      | none => rfl
      | some after => exact ih hrest

/-- Nobody joins the workers and drains, and nobody leaves them. -/
theorem Step.crew_of_isInternal (hstep : Step c a c' moved) (hinternal : a.isInternal = true) :
    c'.workers.length = c.workers.length ∧ c'.drains = c.drains := by
  cases hstep with
  | take | succeed | backOff | retryAtOnce | exhaust | wake | requeue | bury =>
      exact ⟨length_workers_setStage .., rfl⟩
  | drain => exact ⟨rfl, rfl⟩
  | _ => cases hinternal

theorem Step.outstanding_le (hstep : Step c a c' moved) (hinternal : a.isInternal = true) :
    c'.stats.outstanding ≤ c.stats.outstanding := by
  cases hstep with
  | succeed | drain => exact Nat.sub_le ..
  | take | backOff | retryAtOnce | exhaust | wake | requeue | bury => exact Nat.le_refl _
  | _ => cases hinternal

/-- Only a task that was told to stop gives up an event. -/
theorem Step.abandoned_eq (hstep : Step c a c' moved) (h : c.Undisturbed) :
    c'.stats.abandoned = c.stats.abandoned := by
  cases hstep with
  | abandon hworker =>
      have hunsignalled := (h.workers _ (List.mem_of_getElem? hworker)).1
      cases hunsignalled
  | _ => rfl

/-! ## Where a consumer comes to rest -/

/-- What workers and drains keep until they come to rest. -/
structure Continues (c c' : Consumer) : Prop where
  workers : c'.workers.length = c.workers.length
  drains : c'.drains = c.drains
  outstanding : c'.stats.outstanding ≤ c.stats.outstanding

theorem continues_run? (hrun : c.run? steps = some c')
    (hinternal : ∀ a ∈ steps, a.isInternal = true) : c.Continues c' := by
  apply run?_induction (P := c.Continues) hrun ⟨rfl, rfl, Nat.le_refl _⟩
  intro before a after moved hmem hbefore hstep
  obtain ⟨hworkers, hdrains⟩ := hstep.crew_of_isInternal (hinternal a hmem)
  have hless := hstep.outstanding_le (hinternal a hmem)
  exact ⟨hworkers.trans hbefore.workers, hdrains.trans hbefore.drains,
    Nat.le_trans hless hbefore.outstanding⟩

/-- A jam takes an event for each place of the live queue and each worker. -/
theorem Jammed.outstanding_eq (h : c.Jammed) (hbalanced : c.Balanced) :
    c.stats.outstanding = c.queue.length + c.workers.length := by
  have hheld : c.held = c.workers.length := by
    refine List.countP_eq_length.mpr fun worker hmem => ?_
    obtain ⟨e, hstage⟩ := h.blocked worker hmem
    rw [Worker.holds, hstage]
    rfl
  rw [hbalanced, hheld, h.nothingBuried]
  rfl

/-- The consumer came about in a run in which no task was told to stop or
died. -/
structure CalmRun (name : String) (config : ConsumerConfig) (actions : List Action)
    (c : Consumer) : Prop where
  run : (create name config).run? actions = some c
  calm : ∀ a ∈ actions, a.isDisruptive = false

section CalmRun

variable {name : String} {config : ConsumerConfig}

/-- What workers and drains do after a calm run makes one calm run with it. -/
theorem CalmRun.append (h : CalmRun name config actions c) (hrun : c.run? steps = some c')
    (hinternal : ∀ a ∈ steps, a.isInternal = true) :
    CalmRun name config (actions ++ steps) c' where
  run := by rw [run?_append, h.run, Option.bind_some, hrun]
  calm := by
    intro a hmem
    rcases List.mem_append.mp hmem with hbefore | hafter
    · exact h.calm a hbefore
    · exact Action.isDisruptive_of_isInternal (hinternal a hafter)

/-- No event is given up. -/
theorem CalmRun.abandoned_eq_zero (h : CalmRun name config actions c) :
    c.stats.abandoned = 0 := by
  have hboth : c.Undisturbed ∧ c.stats.abandoned = 0 := by
    apply run?_induction (P := fun after => after.Undisturbed ∧ after.stats.abandoned = 0) h.run
      ⟨.create name config, rfl⟩
    rintro before a after moved hmem ⟨hundisturbed, hnone⟩ hstep
    exact ⟨hundisturbed.step hstep (h.calm a hmem), (hstep.abandoned_eq hundisturbed).trans hnone⟩
  exact hboth.2

/-- A consumer that was not disturbed is at rest with nothing outstanding, or in
a jam that fills the live queue. -/
theorem CalmRun.outstanding_eq_zero_or_jammed (h : CalmRun name config actions c)
    (hworkers : c.workers ≠ []) (hdrains : c.drains ≠ []) (hstuck : ¬ c.CanMove) :
    c.stats.outstanding = 0 ∨ c.Jammed ∧ c.queue.length = c.config.queueCapacity := by
  have hundisturbed := Undisturbed.run? h.run h.calm (.create name config)
  have hbalanced := balanced_run? h.run (create_balanced name config)
  have hwithin := withinCapacity_run? h.run (create_withinCapacity name config)
  have hconfig : c.config = config.raised := config_run? h.run
  have hcapacity : 0 < c.config.queueCapacity := by
    rw [hconfig]
    exact Nat.lt_of_lt_of_le Nat.one_pos (Nat.le_max_right ..)
  have hplaces : 0 < c.config.dlqCapacity := by
    rw [hconfig]
    exact Nat.lt_of_lt_of_le Nat.one_pos (Nat.le_max_right ..)
  refine (Nat.eq_zero_or_pos c.stats.outstanding).imp_right fun hwork => ?_
  have hjammed := jammed_of_not_canMove hstuck hundisturbed hbalanced hcapacity hplaces hworkers
    hdrains hwork
  exact ⟨hjammed, Nat.le_antisymm hwithin.queue hjammed.full⟩

theorem RestsAt.outstanding_eq_zero_or_jammed (hrests : c.RestsAt c')
    (h : CalmRun name config actions c) (hworkers : c.workers ≠ []) (hdrains : c.drains ≠ []) :
    c'.stats.outstanding = 0 ∨ c'.Jammed ∧ c'.queue.length = c.config.queueCapacity := by
  obtain ⟨steps, hinternal, hrun, hstuck⟩ := hrests
  have hcontinues := continues_run? hrun hinternal
  rw [← config_run? hrun]
  apply (h.append hrun hinternal).outstanding_eq_zero_or_jammed _ _ hstuck
  · rwa [← List.length_pos_iff, hcontinues.workers, List.length_pos_iff]
  · rwa [hcontinues.drains]

/-- There are too few events for a jam, and their number does not grow. -/
theorem RestsAt.outstanding_eq_zero (hrests : c.RestsAt c') (h : CalmRun name config actions c)
    (hworkers : c.workers ≠ []) (hdrains : c.drains ≠ [])
    (hfew : c.stats.outstanding < c.config.queueCapacity + c.workers.length) :
    c'.stats.outstanding = 0 := by
  rcases hrests.outstanding_eq_zero_or_jammed h hworkers hdrains with hnone | ⟨hjammed, hfull⟩
  · exact hnone
  · obtain ⟨steps, hinternal, hrun, -⟩ := hrests
    have hcontinues := continues_run? hrun hinternal
    have hmany := hjammed.outstanding_eq
      (balanced_run? (h.append hrun hinternal).run (create_balanced name config))
    have hless := hcontinues.outstanding
    rw [hmany, hfull, hcontinues.workers] at hless
    omega

/-- Where nothing is outstanding, every accepted event was delivered or
dead-lettered. -/
theorem RestsAt.delivered_add_deadLettered (hrests : c.RestsAt c')
    (h : CalmRun name config actions c) (hnone : c'.stats.outstanding = 0) :
    c'.stats.abandoned = 0 ∧ c'.stats.delivered + c'.stats.deadLettered =
      ((create name config).accepted actions).length := by
  obtain ⟨steps, hinternal, hrun, -⟩ := hrests
  have hwhole := h.append hrun hinternal
  have habandoned := hwhole.abandoned_eq_zero
  have htotal := settled_add_outstanding_run? hwhole.run (create_balanced name config)
  have hstart : (create name config).stats.settled + (create name config).stats.outstanding = 0 :=
    rfl
  rw [accepted_append h.run, accepted_of_isInternal hinternal, List.append_nil, hnone,
    Stats.settled, habandoned] at htotal
  refine ⟨habandoned, ?_⟩
  omega

end CalmRun

/-- What becomes of a consumer with so many accepted events, to which nothing
more is offered. -/
structure Converges (c : Consumer) (accepted : Nat) : Prop where
  /-- However the tasks take turns, and whatever the handlers return. -/
  bounded : ∀ steps c', (∀ a ∈ steps, a.isInternal = true) → c.run? steps = some c' →
    steps.length ≤ c.workload
  reaches : ∃ c', c.RestsAt c'
  /-- All events are settled, or all workers wait for room in a full queue. -/
  resting : ∀ c', c.RestsAt c' → c'.stats.outstanding = 0 ∨
    c'.queue.length = c.config.queueCapacity ∧ c'.workers.length = c.workers.length ∧
      ∀ worker ∈ c'.workers, ∃ e, worker.stage = .requeueing e
  /-- There are too few events for a jam. -/
  settled : c.stats.outstanding < c.config.queueCapacity + c.workers.length →
    ∀ c', c.RestsAt c' → c'.stats.outstanding = 0 ∧ c'.stats.abandoned = 0 ∧
      c'.stats.delivered + c'.stats.deadLettered = accepted

/-- As long as no task is told to stop or dies, a consumer with workers and a
drain comes to rest once nothing more is offered. -/
theorem converges_of_run? (name : String) (config : ConsumerConfig) (actions : List Action)
    (c : Consumer) (hrun : (create name config).run? actions = some c)
    (hcalm : ∀ a ∈ actions, a.isDisruptive = false) (hworkers : c.workers ≠ [])
    (hdrains : c.drains ≠ []) :
    c.Converges ((create name config).accepted actions).length := by
  have h : CalmRun name config actions c := ⟨hrun, hcalm⟩
  refine ⟨?_, c.exists_restsAt, ?_, ?_⟩
  · intro steps c' hinternal hsteps
    exact Nat.le_trans (Nat.le_add_right ..) (length_add_workload_le hsteps hinternal)
  · intro c' hrests
    have hends := hrests.outstanding_eq_zero_or_jammed h hworkers hdrains
    obtain ⟨steps, hinternal, hsteps, -⟩ := hrests
    refine hends.imp_right fun ⟨hjammed, hfull⟩ => ?_
    exact ⟨hfull, (continues_run? hsteps hinternal).workers, hjammed.blocked⟩
  · intro hfew c' hrests
    have hnone := hrests.outstanding_eq_zero h hworkers hdrains hfew
    exact ⟨hnone, hrests.delivered_add_deadLettered h hnone⟩

/-- Three places, for the two events that two workers and the live queue have
to settle. -/
theorem converges_of_two_outstanding :
    let actions : List Action :=
      [.start, .startDrain, .offer default, .take 0, .offer default, .fail 0]
    ∃ c, (create "mail" ⟨1, 1, 2, ⟨1, none⟩⟩).run? actions = some c ∧
      (∀ a ∈ actions, a.isDisruptive = false) ∧ c.workers ≠ [] ∧ c.drains ≠ [] ∧
      c.stats.outstanding = 2 ∧ c.config.queueCapacity + c.workers.length = 3 ∧
      c.workload = 13 ∧ c.Converges 2 := by
  intro actions
  refine ⟨_, rfl, by decide, nofun, nofun, rfl, rfl, rfl, ?_⟩
  exact converges_of_run? "mail" ⟨1, 1, 2, ⟨1, none⟩⟩ actions _ rfl (by decide) nofun nofun

end Courier.Consumer

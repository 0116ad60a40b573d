import Courier.Proofs.Consumer.Quiescence
import Mathlib.Data.List.Perm.Subperm

/-! # Stopping

The signal stops a worker only where it waits: for an event, for the end of a
pause, or for room. It gives up the event that it waits with, and leaves for
good. A handler is not interrupted; what becomes of its event is counted, and
the worker stops later. When all have stopped, events are left in the queues and
nowhere else.
-/

namespace Courier

theorem Stage.isOver_of_waiting? {stage : Stage} {e : Event} (hwaiting : stage.waiting? = some e) :
    stage.isOver = false := by
  cases stage <;> first | rfl | cases hwaiting

namespace Consumer

/-- The worker that acts. -/
def Action.worker? : Action → Option Nat
  | .take w | .succeed w | .fail w | .wake w | .requeue w | .bury w | .stop w | .lose w => some w
  | _ => none

/-- The drain that acts. -/
def Action.drain? : Action → Option Nat
  | .drain d | .stopDrain d | .loseDrain d => some d
  | _ => none

/-- The worker that gives up its event by an action. -/
def quitter? (c : Consumer) (a : Action) : Option Nat :=
  (c.abandons? a).bind fun _ => a.worker?

/-- The workers that give up an event in a run, in order. -/
def quitters (c : Consumer) : List Action → List Nat
  | [] => []
  | a :: rest => (c.quitter? a).toList ++ (c.step? a).elim [] fun (next, _) => next.quitters rest

/-- The handler can return to the worker either way, and the return is counted. -/
structure CanReturn (c : Consumer) (w : Nat) : Prop where
  delivered : ∃ c', c.step? (.succeed w) = some (c', [.delivered]) ∧
    c'.stats.delivered = c.stats.delivered + 1
  failed : ∃ c' moved, c.step? (.fail w) = some (c', moved) ∧ Counter.failedAttempts ∈ moved ∧
    c'.stats.failedAttempts = c.stats.failedAttempts + 1

variable {c c' middle : Consumer} {a : Action} {actions : List Action} {moved : List Counter}
  {w d : Nat} {worker : Worker}

/-! ## Tasks that act -/

/-- Where a worker stands is up to itself. -/
theorem Step.worker_of_other (hstep : Step c a c' moved) (hother : a.worker? ≠ some w)
    (hworker : c.workers[w]? = some worker) :
    ∃ signalled, c'.workers[w]? = some ⟨worker.stage, signalled⟩ := by
  cases hstep with
  | accept | refuse | startDrain | drain | stopDrain | loseDrain => exact ⟨_, hworker⟩
  | start =>
      have hlt := (List.getElem?_eq_some_iff.mp hworker).1
      exact ⟨_, (List.getElem?_append_left hlt).trans hworker⟩
  | signal =>
      refine ⟨true, ?_⟩
      rw [Consumer.signal, List.getElem?_map, hworker, Option.map_some]
  | @take k | @succeed k | @backOff k | @retryAtOnce k | @exhaust k | @wake k | @requeue k
  | @bury k | @stopIdle k | @abandon k | @lose k | @loseIdle k =>
      have hne : w ≠ k := fun heq => hother (congrArg some heq.symm)
      exact ⟨_, (setStage_workers_of_ne c k _ hne).trans hworker⟩

/-- Only a worker whose task is not over acts. -/
theorem Step.worker_running (hstep : Step c a c' moved) (hacts : a.worker? = some w) :
    ∃ worker, c.workers[w]? = some worker ∧ worker.stage.isOver = false := by
  cases hstep with
  | accept | refuse | start | startDrain | signal | drain | stopDrain | loseDrain => cases hacts
  | take hworker | succeed hworker | backOff hworker | retryAtOnce hworker | exhaust hworker
  | wake hworker | requeue hworker | bury hworker | stopIdle hworker | loseIdle hworker =>
      cases hacts
      exact ⟨_, hworker, rfl⟩
  | abandon hworker hwaiting =>
      cases hacts
      exact ⟨_, hworker, Stage.isOver_of_waiting? hwaiting⟩
  | lose hworker hrunning =>
      cases hacts
      exact ⟨_, hworker, hrunning⟩

/-- A worker whose task is over does nothing more. -/
theorem over_run? (hrun : c.run? actions = some c') (hworker : c.workers[w]? = some worker)
    (hover : worker.stage.isOver = true) :
    (∀ a ∈ actions, a.worker? ≠ some w) ∧
      ∃ signalled, c'.workers[w]? = some ⟨worker.stage, signalled⟩ := by
  induction actions generalizing c worker with
  | nil =>
      cases hrun
      exact ⟨List.forall_mem_nil _, _, hworker⟩
  | cons a rest ih =>
      obtain ⟨middle, moved, hstep, hrest⟩ := run?_cons_eq_some_iff.mp hrun
      have hother : a.worker? ≠ some w := by
        intro hacts
        obtain ⟨running, hrunning, hnot⟩ := hstep.worker_running hacts
        cases hrunning.symm.trans hworker
        cases hover.symm.trans hnot
      obtain ⟨signalled, hmiddle⟩ := hstep.worker_of_other hother hworker
      obtain ⟨hothers, hlast⟩ := ih hrest hmiddle hover
      exact ⟨List.forall_mem_cons.mpr ⟨hother, hothers⟩, hlast⟩

/-- A drain that has stopped does not act, and nobody starts it again. -/
theorem Step.drain_stopped {signalled : Bool} (hstep : Step c a c' moved)
    (hdrain : c.drains[d]? = some ⟨true, signalled⟩) :
    a.drain? ≠ some d ∧ ∃ signalled', c'.drains[d]? = some ⟨true, signalled'⟩ := by
  have hnobody : none ≠ some d := (Option.some_ne_none d).symm
  have hne {k : Nat} {other : Bool} (hrunning : c.drains[k]? = some ⟨false, other⟩) : k ≠ d := by
    rintro rfl
    cases hrunning.symm.trans hdrain
  cases hstep with
  | startDrain =>
      have hlt := (List.getElem?_eq_some_iff.mp hdrain).1
      exact ⟨hnobody, _, (List.getElem?_append_left hlt).trans hdrain⟩
  | signal =>
      refine ⟨hnobody, true, ?_⟩
      rw [Consumer.signal, List.getElem?_map, hdrain, Option.map_some]
  | drain hrunning => exact ⟨fun heq => hne hrunning (Option.some.inj heq), _, hdrain⟩
  | stopDrain hrunning | loseDrain hrunning =>
      refine ⟨fun heq => hne hrunning (Option.some.inj heq), signalled, ?_⟩
      simpa [setDrainStopped, hne hrunning] using hdrain
  | _ => exact ⟨hnobody, _, hdrain⟩

theorem drain_stopped_run? {signalled : Bool} (hrun : c.run? actions = some c')
    (hdrain : c.drains[d]? = some ⟨true, signalled⟩) : ∀ a ∈ actions, a.drain? ≠ some d := by
  induction actions generalizing c signalled with
  | nil => exact List.forall_mem_nil _
  | cons a rest ih =>
      obtain ⟨middle, moved, hstep, hrest⟩ := run?_cons_eq_some_iff.mp hrun
      obtain ⟨hother, _, hmiddle⟩ := hstep.drain_stopped hdrain
      exact List.forall_mem_cons.mpr ⟨hother, ih hrest hmiddle⟩

/-- A start adds to the pool, and workers never leave it. -/
theorem Step.length_workers (hstep : Step c a c' moved) :
    c'.workers.length = c.workers.length + [a].count .start * c.config.workerCount := by
  cases hstep with
  | start => simp [Consumer.start]
  | signal => simp [Consumer.signal]
  | startDrain | stopDrain | loseDrain => simp [Consumer.startDrain, setDrainStopped]
  | _ => simp

theorem length_workers_run? (hrun : c.run? actions = some c') :
    c'.workers.length = c.workers.length + actions.count .start * c.config.workerCount := by
  induction actions generalizing c with
  | nil =>
      cases hrun
      rw [List.count_nil, Nat.zero_mul, Nat.add_zero]
  | cons a rest ih =>
      obtain ⟨middle, moved, hstep, hrest⟩ := run?_cons_eq_some_iff.mp hrun
      have hcount : ([a] ++ rest).count .start = [a].count .start + rest.count .start :=
        List.count_append
      rw [List.singleton_append] at hcount
      rw [ih hrest, hstep.config_eq, hstep.length_workers, hcount, Nat.add_mul, Nat.add_assoc]

/-! ## Handlers that are called -/

/-- A worker leaves its handler when that returns, or with its task. -/
theorem Step.handling_acts {e : Event} {signalled : Bool} (hstep : Step c a c' moved)
    (hworker : c.workers[w]? = some ⟨.handling e, signalled⟩) (hacts : a.worker? = some w) :
    a = .succeed w ∨ a = .fail w ∨ a = .lose w := by
  cases hstep with
  | take hother | wake hother | requeue hother | bury hother | stopIdle hother =>
      cases hacts
      cases hother.symm.trans hworker
  | abandon hother hwaiting =>
      cases hacts
      cases hother.symm.trans hworker
      cases hwaiting
  | succeed | backOff | retryAtOnce | exhaust | lose | loseIdle =>
      cases hacts
      simp
  | _ => cases hacts

/-- Whatever else happens, a worker stays in its handler until that returns. -/
theorem handling_run? {e : Event} {signalled : Bool} (hrun : c.run? actions = some c')
    (hworker : c.workers[w]? = some ⟨.handling e, signalled⟩) (hsucceed : .succeed w ∉ actions)
    (hfail : .fail w ∉ actions) (hlose : .lose w ∉ actions) :
    ∃ signalled', c'.workers[w]? = some ⟨.handling e, signalled'⟩ := by
  apply run?_induction
    (P := fun after => ∃ signalled', after.workers[w]? = some ⟨.handling e, signalled'⟩) hrun
    ⟨_, hworker⟩
  rintro before a after moved hmem ⟨signalled', hbefore⟩ hstep
  apply hstep.worker_of_other _ hbefore
  intro hacts
  rcases hstep.handling_acts hbefore hacts with rfl | rfl | rfl
  · exact hsucceed hmem
  · exact hfail hmem
  · exact hlose hmem

theorem canReturn_of_handling {e : Event} {signalled : Bool}
    (hworker : c.workers[w]? = some ⟨.handling e, signalled⟩) : c.CanReturn w where
  delivered := ⟨_, (Step.succeed hworker).step?_eq, rfl⟩
  failed := by
    cases hnext : c.config.retry.next e.retries with
    | deadLetter => exact ⟨_, _, (Step.exhaust hworker hnext).step?_eq, List.mem_cons_self, rfl⟩
    | retry delay =>
        cases delay with
        | none => exact ⟨_, _, (Step.retryAtOnce hworker hnext).step?_eq, List.mem_cons_self, rfl⟩
        | some delay =>
            exact ⟨_, _, (Step.backOff hworker hnext).step?_eq, List.mem_cons_self, rfl⟩

/-! ## Workers that give up -/

theorem quitters_cons (hstep : Step c a middle moved) (rest : List Action) :
    c.quitters (a :: rest) = (c.quitter? a).toList ++ middle.quitters rest := by
  rw [quitters, hstep.step?_eq, Option.elim_some]

/-- Events are given up one by one. -/
theorem Step.abandoned_add (hstep : Step c a c' moved) :
    c'.stats.abandoned = c.stats.abandoned + (c.quitter? a).toList.length := by
  cases hstep with
  | stopIdle hworker => simp [quitter?, abandons?, hworker, Stage.waiting?]
  | abandon hworker hwaiting => simp [quitter?, abandons?, hworker, hwaiting, Action.worker?]
  | _ => rfl

theorem worker?_of_quitter? (hquits : c.quitter? a = some w) : a.worker? = some w := by
  obtain ⟨kind, -, hacts⟩ := Option.bind_eq_some_iff.mp hquits
  exact hacts

/-- Who gives up an event stops. -/
theorem Step.stopped_of_quitter? (hstep : Step c a c' moved) (hquits : c.quitter? a = some w) :
    ∃ signalled, c'.workers[w]? = some ⟨.stopped, signalled⟩ := by
  have hacts := worker?_of_quitter? hquits
  cases hstep with
  | stopIdle hworker | abandon hworker =>
      cases hacts
      exact ⟨_, setStage_workers_self c w .stopped hworker⟩
  | _ => cases hquits

theorem abandoned_eq_run? (hrun : c.run? actions = some c') :
    c'.stats.abandoned = c.stats.abandoned + (c.quitters actions).length := by
  induction actions generalizing c with
  | nil =>
      cases hrun
      rfl
  | cons a rest ih =>
      obtain ⟨middle, moved, hstep, hrest⟩ := run?_cons_eq_some_iff.mp hrun
      rw [ih hrest, hstep.abandoned_add, quitters_cons hstep, List.length_append, Nat.add_assoc]

theorem exists_action_of_quitters (hrun : c.run? actions = some c')
    (hmem : w ∈ c.quitters actions) : ∃ a ∈ actions, a.worker? = some w := by
  induction actions generalizing c with
  | nil => cases hmem
  | cons a rest ih =>
      obtain ⟨middle, moved, hstep, hrest⟩ := run?_cons_eq_some_iff.mp hrun
      rw [quitters_cons hstep] at hmem
      rcases List.mem_append.mp hmem with hfirst | hlater
      · exact ⟨a, List.mem_cons_self, worker?_of_quitter? (Option.mem_toList.mp hfirst)⟩
      · obtain ⟨b, hb, hacts⟩ := ih hrest hlater
        exact ⟨b, List.mem_cons_of_mem a hb, hacts⟩

/-- Who has given up an event stays away. -/
theorem stopped_of_quitters (hrun : c.run? actions = some c') (hmem : w ∈ c.quitters actions) :
    ∃ signalled, c'.workers[w]? = some ⟨.stopped, signalled⟩ := by
  induction actions generalizing c with
  | nil => cases hmem
  | cons a rest ih =>
      obtain ⟨middle, moved, hstep, hrest⟩ := run?_cons_eq_some_iff.mp hrun
      rw [quitters_cons hstep] at hmem
      rcases List.mem_append.mp hmem with hfirst | hlater
      · obtain ⟨signalled, hstopped⟩ := hstep.stopped_of_quitter? (Option.mem_toList.mp hfirst)
        exact (over_run? hrest hstopped rfl).2
      · exact ih hrest hlater

/-- Nobody gives up two events. -/
theorem nodup_quitters (hrun : c.run? actions = some c') : (c.quitters actions).Nodup := by
  induction actions generalizing c with
  | nil => exact List.nodup_nil
  | cons a rest ih =>
      obtain ⟨middle, moved, hstep, hrest⟩ := run?_cons_eq_some_iff.mp hrun
      rw [quitters_cons hstep]
      cases hquits : c.quitter? a with
      | none => exact ih hrest
      | some w =>
          obtain ⟨signalled, hstopped⟩ := hstep.stopped_of_quitter? hquits
          refine List.nodup_cons.mpr ⟨fun hmem => ?_, ih hrest⟩
          obtain ⟨b, hb, hacts⟩ := exists_action_of_quitters hrest hmem
          exact (over_run? hrest hstopped rfl).1 b hb hacts

theorem length_quitters_le (hrun : c.run? actions = some c') :
    (c.quitters actions).length ≤ c'.workers.length := by
  have hsub : c.quitters actions ⊆ List.range c'.workers.length := by
    intro w hmem
    obtain ⟨signalled, hstopped⟩ := stopped_of_quitters hrun hmem
    exact List.mem_range.mpr (List.getElem?_eq_some_iff.mp hstopped).1
  have hfewer := (List.subperm_of_subset (nodup_quitters hrun) hsub).length_le
  rwa [List.length_range] at hfewer

/-! ## What is left -/

/-- How a consumer is left by a run. -/
structure WindsUp (start : Consumer) (actions : List Action) (c : Consumer) : Prop where
  /-- Nothing is given up before the signal. -/
  quiet : .signal ∉ actions → c.stats.abandoned = 0
  /-- Each worker gives up one event at most, and has stopped then. -/
  abandoned : c.stats.abandoned = (start.quitters actions).length
  once : (start.quitters actions).Nodup
  left : ∀ w ∈ start.quitters actions, ∃ signalled, c.workers[w]? = some ⟨.stopped, signalled⟩
  workers : c.workers.length = actions.count .start * c.config.workerCount
  bound : c.stats.abandoned ≤ actions.count .start * c.config.workerCount
  /-- Workers and drains that have stopped do nothing more. -/
  workersRest : ∀ w signalled, c.workers[w]? = some ⟨.stopped, signalled⟩ →
    ∀ more c', c.run? more = some c' → ∀ a ∈ more, a.worker? ≠ some w
  drainsRest : ∀ d signalled, c.drains[d]? = some ⟨true, signalled⟩ →
    ∀ more c', c.run? more = some c' → ∀ a ∈ more, a.drain? ≠ some d
  /-- A handler that was called is not interrupted, and its return is counted. -/
  carried : ∀ w e signalled, c.workers[w]? = some ⟨.handling e, signalled⟩ →
    ∀ more c', c.run? more = some c' → .succeed w ∉ more → .fail w ∉ more → .lose w ∉ more →
      (∃ signalled', c'.workers[w]? = some ⟨.handling e, signalled'⟩) ∧ c'.CanReturn w
  /-- When all workers have stopped, events are left in the queues only. -/
  ended : (∀ worker ∈ c.workers, worker.stage = .stopped) →
    c.stats.outstanding = c.queue.length + c.dlq.length ∧
      (start.accepted actions).length =
        c.stats.delivered + c.stats.deadLettered + c.stats.abandoned + c.queue.length +
          c.dlq.length ∧
      ((∀ a ∈ actions, a.isLoss = false) →
        c.stats.handled = c.stats.delivered + c.stats.failedAttempts)

/-- With its workers a consumer loses all hands that could hold an event. -/
theorem held_eq_zero_of_stopped (hstopped : ∀ worker ∈ c.workers, worker.stage = .stopped) :
    c.held = 0 := by
  rw [held_eq_zero_iff]
  intro worker hmem
  rw [hstopped worker hmem]
  rfl

/-- However workers, drains and handlers come in each other's way and whenever the
signal fires, a worker gives up one event at most, and nothing is lost with those
that have stopped. -/
theorem windsUp_of_run? (name : String) (config : ConsumerConfig) (actions : List Action)
    (c : Consumer) (hrun : (create name config).run? actions = some c) :
    (create name config).WindsUp actions c := by
  have habandoned := abandoned_eq_run? hrun
  have hworkers := length_workers_run? hrun
  have hbalanced := balanced_run? hrun (create_balanced name config)
  have htotal := settled_add_outstanding_run? hrun (create_balanced name config)
  have hzero : (create name config).stats = .zero := rfl
  have hnone : (create name config).workers = [] := rfl
  rw [hzero, Stats.zero, Nat.zero_add] at habandoned
  rw [hnone, List.length_nil, Nat.zero_add, ← config_run? hrun] at hworkers
  refine {
    quiet := fun hquiet => abandoned_run? hrun hquiet (create_unsignalled name config)
    abandoned := habandoned
    once := nodup_quitters hrun
    left := fun w => stopped_of_quitters hrun
    workers := hworkers
    bound := hworkers ▸ habandoned ▸ length_quitters_le hrun
    workersRest := fun w _ hstopped more c' hmore => (over_run? hmore hstopped rfl).1
    drainsRest := fun d _ hstopped more c' hmore => drain_stopped_run? hmore hstopped
    carried := ?_
    ended := ?_ }
  · intro w e signalled hworker more c' hmore hsucceed hfail hlose
    obtain ⟨signalled', hstill⟩ := handling_run? hmore hworker hsucceed hfail hlose
    exact ⟨⟨signalled', hstill⟩, canReturn_of_handling hstill⟩
  · intro hstopped
    have hheld := held_eq_zero_of_stopped hstopped
    rw [Balanced, hheld] at hbalanced
    rw [hzero] at htotal
    simp only [Stats.settled, Stats.zero] at htotal
    refine ⟨by omega, by omega, fun hkept => ?_⟩
    have hflows := flows_run? hrun hkept (create_flows name config)
    have hbusy : c.workersAt .handling ≤ c.held := workersAt_le_held rfl
    have hhandled := hflows.handled
    omega

/-- One of two workers gives up its event, and the other one delivers its own
after the signal. -/
theorem windsUp_of_two_workers :
    let config : ConsumerConfig :=
      ⟨4, 1, 2, ⟨1, some ⟨Duration.ofSeconds 1, Duration.ofSeconds 3⟩⟩⟩
    let actions : List Action :=
      [.start, .startDrain, .offer default, .offer default, .offer default, .take 0, .take 1,
        .fail 0, .signal, .stop 0, .succeed 1, .stop 1, .stopDrain 0]
    let start := create "mail" config
    ∃ c, start.run? actions = some c ∧ start.quitters actions = [0] ∧
      (c.stats.delivered, c.stats.abandoned, c.queue.length) = (1, 1, 1) ∧
      start.WindsUp actions c :=
  ⟨_, rfl, rfl, rfl, windsUp_of_run? _ _ _ _ rfl⟩

end Consumer

end Courier

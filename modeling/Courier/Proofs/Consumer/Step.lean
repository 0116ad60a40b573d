import Courier.Consumer.Basic

/-! # The rules of a consumer

`Step` lists the ways an action can go, with what each needs and what comes of
it. The rules are exactly the step function, so that facts about what a
consumer can do go through them and never through the step function.
-/

namespace Courier

namespace Stage

/-- The event of a worker that waits, for the end of a pause or for room. -/
def waiting? : Stage → Option Event
  | .backingOff e _ => some e
  | .requeueing e => some e
  | .deadLettering e => some e
  | _ => none

theorem event?_of_waiting? {stage : Stage} {e : Event} (h : stage.waiting? = some e) :
    stage.event? = some e := by
  cases stage <;> first | exact h | cases h

end Stage

namespace Consumer

section Fields

variable (c : Consumer) (w : Nat) (stage : Stage)

@[simp]
theorem setStage_config : (c.setStage w stage).config = c.config := rfl

@[simp]
theorem setStage_queue : (c.setStage w stage).queue = c.queue := rfl

@[simp]
theorem setStage_dlq : (c.setStage w stage).dlq = c.dlq := rfl

@[simp]
theorem setStage_drains : (c.setStage w stage).drains = c.drains := rfl

@[simp]
theorem setStage_stats : (c.setStage w stage).stats = c.stats := rfl

@[simp]
theorem length_workers_setStage : (c.setStage w stage).workers.length = c.workers.length :=
  List.length_modify ..

theorem setStage_workers_self {worker : Worker} (hworker : c.workers[w]? = some worker) :
    (c.setStage w stage).workers[w]? = some ⟨stage, worker.signalled⟩ := by
  simp [setStage, hworker]

theorem setStage_workers_of_ne {k : Nat} (hne : k ≠ w) :
    (c.setStage w stage).workers[k]? = c.workers[k]? := by
  simp [setStage, Ne.symm hne]

end Fields

/-- One rule for each way an action can go. The last index is what is counted. -/
inductive Step (c : Consumer) : Action → Consumer → List Counter → Prop where
  | accept {e : Event} (hroom : c.queue.length < c.config.queueCapacity) :
      Step c (.offer e)
        { c with
          queue := c.queue ++ [e]
          stats := { c.stats with outstanding := c.stats.outstanding + 1 } }
        [.published]
  | refuse {e : Event} (hfull : c.config.queueCapacity ≤ c.queue.length) :
      Step c (.offer e)
        { c with stats := { c.stats with dropped := c.stats.dropped + 1 } }
        [.dropped]
  | start : Step c .start c.start []
  | startDrain : Step c .startDrain c.startDrain []
  | signal : Step c .signal c.signal []
  | take {w : Nat} {signalled : Bool} {e : Event} {rest : List Event}
      (hworker : c.workers[w]? = some ⟨.idle, signalled⟩) (hqueue : c.queue = e :: rest) :
      Step c (.take w)
        { c.setStage w (.handling e) with
          queue := rest
          stats := { c.stats with handled := c.stats.handled + 1 } }
        []
  | succeed {w : Nat} {signalled : Bool} {e : Event}
      (hworker : c.workers[w]? = some ⟨.handling e, signalled⟩) :
      Step c (.succeed w)
        { c.setStage w .idle with
          stats := { c.stats with
            delivered := c.stats.delivered + 1
            outstanding := c.stats.outstanding - 1 } }
        [.delivered]
  | backOff {w : Nat} {signalled : Bool} {e : Event} {delay : Duration}
      (hworker : c.workers[w]? = some ⟨.handling e, signalled⟩)
      (hnext : c.config.retry.next e.retries = .retry (some delay)) :
      Step c (.fail w)
        { c.setStage w (.backingOff e delay) with
          stats := { c.stats with failedAttempts := c.stats.failedAttempts + 1 } }
        [.failedAttempts]
  | retryAtOnce {w : Nat} {signalled : Bool} {e : Event}
      (hworker : c.workers[w]? = some ⟨.handling e, signalled⟩)
      (hnext : c.config.retry.next e.retries = .retry none) :
      Step c (.fail w)
        { c.setStage w (.requeueing e.again) with
          stats := { c.stats with
            failedAttempts := c.stats.failedAttempts + 1
            retried := c.stats.retried + 1 } }
        [.failedAttempts, .retried]
  | exhaust {w : Nat} {signalled : Bool} {e : Event}
      (hworker : c.workers[w]? = some ⟨.handling e, signalled⟩)
      (hnext : c.config.retry.next e.retries = .deadLetter) :
      Step c (.fail w)
        { c.setStage w (.deadLettering e) with
          stats := { c.stats with failedAttempts := c.stats.failedAttempts + 1 } }
        [.failedAttempts]
  | wake {w : Nat} {signalled : Bool} {e : Event} {delay : Duration}
      (hworker : c.workers[w]? = some ⟨.backingOff e delay, signalled⟩) :
      Step c (.wake w)
        { c.setStage w (.requeueing e.again) with
          stats := { c.stats with retried := c.stats.retried + 1 } }
        [.retried]
  | requeue {w : Nat} {signalled : Bool} {e : Event}
      (hworker : c.workers[w]? = some ⟨.requeueing e, signalled⟩)
      (hroom : c.queue.length < c.config.queueCapacity) :
      Step c (.requeue w) { c.setStage w .idle with queue := c.queue ++ [e] } []
  | bury {w : Nat} {signalled : Bool} {e : Event}
      (hworker : c.workers[w]? = some ⟨.deadLettering e, signalled⟩)
      (hroom : c.dlq.length < c.config.dlqCapacity) :
      Step c (.bury w) { c.setStage w .idle with dlq := c.dlq ++ [e] } []
  | drain {d : Nat} {signalled : Bool} {e : Event} {rest : List Event}
      (hdrain : c.drains[d]? = some ⟨false, signalled⟩) (hdlq : c.dlq = e :: rest) :
      Step c (.drain d)
        { c with
          dlq := rest
          stats := { c.stats with
            deadLettered := c.stats.deadLettered + 1
            outstanding := c.stats.outstanding - 1 } }
        [.deadLettered]
  | stopIdle {w : Nat} (hworker : c.workers[w]? = some ⟨.idle, true⟩) :
      Step c (.stop w) (c.setStage w .stopped) []
  | abandon {w : Nat} {stage : Stage} {e : Event}
      (hworker : c.workers[w]? = some ⟨stage, true⟩) (hwaiting : stage.waiting? = some e) :
      Step c (.stop w)
        { c.setStage w .stopped with
          stats := { c.stats with
            abandoned := c.stats.abandoned + 1
            outstanding := c.stats.outstanding - 1 } }
        []
  | stopDrain {d : Nat} (hdrain : c.drains[d]? = some ⟨false, true⟩) :
      Step c (.stopDrain d) (c.setDrainStopped d) []
  | lose {w : Nat} {stage : Stage} {signalled : Bool} {e : Event}
      (hworker : c.workers[w]? = some ⟨stage, signalled⟩) (hrunning : stage.isOver = false)
      (hevent : stage.event? = some e) :
      Step c (.lose w) (c.setStage w (.lost e)) []
  | loseIdle {w : Nat} {signalled : Bool}
      (hworker : c.workers[w]? = some ⟨.idle, signalled⟩) :
      Step c (.lose w) (c.setStage w .stopped) []
  | loseDrain {d : Nat} {signalled : Bool}
      (hdrain : c.drains[d]? = some ⟨false, signalled⟩) :
      Step c (.loseDrain d) (c.setDrainStopped d) []

variable {c c' : Consumer} {a : Action} {moved : List Counter}

theorem Step.step?_eq (h : Step c a c' moved) : c.step? a = some (c', moved) := by
  cases h with
  | accept hroom => simp [step?, offer, queueHasRoom, hroom]
  | refuse hfull => simp [step?, offer, queueHasRoom, Nat.not_lt.mpr hfull]
  | start => rfl
  | startDrain => rfl
  | signal => rfl
  | take hworker hqueue => simp [step?, take?, hworker, hqueue]
  | succeed hworker => simp [step?, succeed?, hworker]
  | backOff hworker hnext => simp [step?, fail?, hworker, hnext, setStage]
  | retryAtOnce hworker hnext => simp [step?, fail?, hworker, hnext, retry, setStage]
  | exhaust hworker hnext => simp [step?, fail?, hworker, hnext, setStage]
  | wake hworker => simp [step?, wake?, hworker, retry]
  | requeue hworker hroom => simp [step?, requeue?, hworker, queueHasRoom, hroom]
  | bury hworker hroom => simp [step?, bury?, hworker, dlqHasRoom, hroom]
  | drain hdrain hdlq => simp [step?, drain?, hdrain, hdlq]
  | stopIdle hworker => simp [step?, stop?, hworker]
  | @abandon w stage e hworker hwaiting =>
      cases stage <;> simp_all [step?, stop?, Stage.waiting?, Consumer.abandon]
  | stopDrain hdrain => simp [step?, stopDrain?, hdrain]
  | lose hworker hrunning hevent => simp [step?, lose?, hworker, hrunning, hevent]
  | loseIdle hworker => simp [step?, lose?, hworker, Stage.isOver, Stage.event?]
  | loseDrain hdrain => simp [step?, loseDrain?, hdrain]

theorem eq_of_map_counted {after : Option Consumer} {counted : List Counter}
    (h : after.map (·, counted) = some (c', moved)) : after = some c' ∧ moved = counted := by
  obtain ⟨next, hnext, heq⟩ := Option.map_eq_some_iff.mp h
  cases heq
  exact ⟨hnext, rfl⟩

theorem Step.of_step? (h : c.step? a = some (c', moved)) : Step c a c' moved := by
  cases a with
  | offer e =>
      by_cases hroom : c.queue.length < c.config.queueCapacity
      · simp only [step?, offer, queueHasRoom, hroom, decide_true, if_true] at h
        cases h
        exact .accept hroom
      · simp only [step?, offer, queueHasRoom, hroom, decide_false, Bool.false_eq_true,
          if_false] at h
        cases h
        exact .refuse (Nat.not_lt.mp hroom)
  | start => cases h; exact .start
  | startDrain => cases h; exact .startDrain
  | signal => cases h; exact .signal
  | take w =>
      obtain ⟨htake, rfl⟩ := eq_of_map_counted h
      unfold take? at htake
      split at htake
      next hworker hqueue => cases htake; exact .take hworker hqueue
      next => cases htake
  | succeed w =>
      obtain ⟨hsucceed, rfl⟩ := eq_of_map_counted h
      unfold succeed? at hsucceed
      split at hsucceed
      next hworker => cases hsucceed; exact .succeed hworker
      next => cases hsucceed
  | fail w =>
      simp only [step?, fail?] at h
      split at h
      next hworker =>
        split at h
        next hnext => cases h; exact .backOff hworker hnext
        next hnext => cases h; exact .retryAtOnce hworker hnext
        next hnext => cases h; exact .exhaust hworker hnext
      next => cases h
  | wake w =>
      obtain ⟨hwake, rfl⟩ := eq_of_map_counted h
      unfold wake? at hwake
      split at hwake
      next hworker => cases hwake; exact .wake hworker
      next => cases hwake
  | requeue w =>
      obtain ⟨hrequeue, rfl⟩ := eq_of_map_counted h
      unfold requeue? at hrequeue
      split at hrequeue
      next hworker =>
        split at hrequeue
        next hroom => cases hrequeue; exact .requeue hworker (of_decide_eq_true hroom)
        next => cases hrequeue
      next => cases hrequeue
  | bury w =>
      obtain ⟨hbury, rfl⟩ := eq_of_map_counted h
      unfold bury? at hbury
      split at hbury
      next hworker =>
        split at hbury
        next hroom => cases hbury; exact .bury hworker (of_decide_eq_true hroom)
        next => cases hbury
      next => cases hbury
  | drain d =>
      obtain ⟨hdrained, rfl⟩ := eq_of_map_counted h
      unfold drain? at hdrained
      split at hdrained
      next hdrain hdlq => cases hdrained; exact .drain hdrain hdlq
      next => cases hdrained
  | stop w =>
      obtain ⟨hstop, rfl⟩ := eq_of_map_counted h
      unfold stop? at hstop
      split at hstop
      next hworker => cases hstop; exact .stopIdle hworker
      next hworker => cases hstop; exact .abandon hworker rfl
      next hworker => cases hstop; exact .abandon hworker rfl
      next hworker => cases hstop; exact .abandon hworker rfl
      next => cases hstop
  | stopDrain d =>
      obtain ⟨hstop, rfl⟩ := eq_of_map_counted h
      unfold stopDrain? at hstop
      split at hstop
      next hdrain => cases hstop; exact .stopDrain hdrain
      next => cases hstop
  | lose w =>
      obtain ⟨hlose, rfl⟩ := eq_of_map_counted h
      unfold lose? at hlose
      split at hlose
      next worker hworker =>
        obtain ⟨stage, signalled⟩ := worker
        cases stage <;> cases hlose
        case idle => exact .loseIdle hworker
        all_goals exact .lose hworker rfl rfl
      next => cases hlose
  | loseDrain d =>
      obtain ⟨hlose, rfl⟩ := eq_of_map_counted h
      unfold loseDrain? at hlose
      split at hlose
      next hdrain => cases hlose; exact .loseDrain hdrain
      next => cases hlose

theorem step?_eq_some_iff : c.step? a = some (c', moved) ↔ Step c a c' moved :=
  ⟨Step.of_step?, Step.step?_eq⟩

end Consumer

end Courier

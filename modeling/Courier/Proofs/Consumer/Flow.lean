import Courier.Proofs.Consumer.Unsignalled

/-! # Flow equations

Every counter of a consumer is moved at a point of its own: `handled` when an
event is taken, `retried` before the event gets its place in the queue,
`deadLettered` only by a drain. What has passed one point and not the next is
with a worker, in a queue, or was given up on the way. The equations below say
so, whatever workers, drains and publishers do and whenever the signal comes.
-/

namespace Courier

/-- A stage without the event. -/
inductive Stage.Kind where
  | idle
  | handling
  | backingOff
  | requeueing
  | deadLettering
  | stopped
  | lost
  deriving DecidableEq

def Stage.kind : Stage → Kind
  | .idle => .idle
  | .handling _ => .handling
  | .backingOff _ _ => .backingOff
  | .requeueing _ => .requeueing
  | .deadLettering _ => .deadLettering
  | .stopped => .stopped
  | .lost _ => .lost

/-- Only workers with an event come to stages of this kind. -/
def Stage.Kind.holds : Stage.Kind → Bool
  | .idle | .stopped => false
  | _ => true

theorem Stage.holds_kind (stage : Stage) : stage.kind.holds = stage.event?.isSome := by
  cases stage <;> rfl

namespace Consumer

def Action.isOffer : Action → Bool
  | .offer _ => true
  | _ => false

/-- The task of a worker dies or is aborted. -/
def Action.isLoss : Action → Bool
  | .lose _ => true
  | _ => false

/-- How many workers are at a stage of this kind. -/
def workersAt (c : Consumer) (kind : Stage.Kind) : Nat :=
  c.workers.countP fun worker => worker.stage.kind = kind

/-- What the worker was waiting for whose event an action gives up. -/
def abandons? (c : Consumer) : Action → Option Stage.Kind
  | .stop w =>
      c.workers[w]?.bind fun worker => worker.stage.waiting?.map fun _ => worker.stage.kind
  | _ => none

/-- The stages at which events are given up in a run, in order. -/
def abandonments (c : Consumer) : List Action → List Stage.Kind
  | [] => []
  | a :: rest =>
      (c.abandons? a).toList ++ (c.step? a).elim [] fun (next, _) => next.abandonments rest

/-- The flow equations of a consumer to which `offers` events were offered, of
which it accepted `accepted`, and which gave up events at the stages of
`given`. -/
structure Flows (c : Consumer) (offers accepted : Nat) (given : List Stage.Kind) : Prop where
  offered : offers = accepted + c.stats.dropped
  /-- What came into the live queue has left it, or could not get in again. -/
  entered : accepted + c.stats.retried =
    c.stats.handled + c.queue.length + c.workersAt .requeueing + given.count .requeueing
  handled : c.stats.handled =
    c.stats.delivered + c.stats.failedAttempts + c.workersAt .handling
  failed : c.stats.failedAttempts =
    c.stats.retried + c.workersAt .backingOff + given.count .backingOff +
      c.workersAt .deadLettering + given.count .deadLettering + c.dlq.length +
      c.stats.deadLettered
  abandoned : c.stats.abandoned =
    given.count .backingOff + given.count .requeueing + given.count .deadLettering

variable {c c' : Consumer} {a : Action} {actions : List Action} {moved : List Counter}
  {offers accepted : Nat} {given : List Stage.Kind}

theorem abandonments_cons (hstep : Step c a c' moved) (rest : List Action) :
    c.abandonments (a :: rest) = (c.abandons? a).toList ++ c'.abandonments rest := by
  rw [abandonments, hstep.step?_eq, Option.elim_some]

/-- A worker leaves one kind of stage and joins another. -/
theorem workersAt_setStage {w : Nat} {stage : Stage} {signalled : Bool} (next : Stage)
    (hworker : c.workers[w]? = some ⟨stage, signalled⟩) (kind : Stage.Kind) :
    (c.setStage w next).workersAt kind + (if stage.kind = kind then 1 else 0) =
      c.workersAt kind + (if next.kind = kind then 1 else 0) := by
  have hcount := countP_setStage (fun worker => decide (worker.stage.kind = kind)) next hworker
  simp only [decide_eq_true_eq] at hcount
  exact hcount

theorem workersAt_start (kind : Stage.Kind) (hbusy : kind ≠ .idle) :
    c.start.workersAt kind = c.workersAt kind := by
  have hidle : decide (Stage.idle.kind = kind) = false := decide_eq_false hbusy.symm
  rw [workersAt, countP_start, hidle, workersAt]
  rfl

theorem workersAt_signal (kind : Stage.Kind) : c.signal.workersAt kind = c.workersAt kind :=
  countP_signal _ fun _ => rfl

theorem workersAt_le_held {kind : Stage.Kind} (hholds : kind.holds = true) :
    c.workersAt kind ≤ c.held := by
  apply List.countP_mono_left
  intro worker _ hkind
  rw [Worker.holds, ← Stage.holds_kind, of_decide_eq_true hkind, hholds]

/-- What a worker that goes to another stage does to the workers that the
equations speak of. -/
theorem busy_setStage {w : Nat} {stage : Stage} {signalled : Bool} (next : Stage)
    (hworker : c.workers[w]? = some ⟨stage, signalled⟩) :
    ((c.setStage w next).workersAt .handling + (if stage.kind = .handling then 1 else 0) =
        c.workersAt .handling + if next.kind = .handling then 1 else 0) ∧
      ((c.setStage w next).workersAt .backingOff + (if stage.kind = .backingOff then 1 else 0) =
        c.workersAt .backingOff + if next.kind = .backingOff then 1 else 0) ∧
      ((c.setStage w next).workersAt .requeueing + (if stage.kind = .requeueing then 1 else 0) =
        c.workersAt .requeueing + if next.kind = .requeueing then 1 else 0) ∧
      (c.setStage w next).workersAt .deadLettering +
          (if stage.kind = .deadLettering then 1 else 0) =
        c.workersAt .deadLettering + if next.kind = .deadLettering then 1 else 0 :=
  have hmoves := workersAt_setStage next hworker
  ⟨hmoves .handling, hmoves .backingOff, hmoves .requeueing, hmoves .deadLettering⟩

/-- Where an action offers nothing and gives up nothing, the equations are about
the same events as before. -/
theorem flows_of_quiet (h : c'.Flows offers accepted given) (hoffer : a.isOffer = false)
    (hgiven : c.abandons? a = none) :
    c'.Flows (offers + if a.isOffer then 1 else 0)
      (accepted + (c.admitted? a).toList.length) (given ++ (c.abandons? a).toList) := by
  have hadmitted : c.admitted? a = none := by
    cases a <;> first | rfl | cases hoffer
  simpa [hoffer, hgiven, hadmitted] using h

theorem Step.flows (hstep : Step c a c' moved) (hkept : a.isLoss = false)
    (h : c.Flows offers accepted given) :
    c'.Flows (offers + if a.isOffer then 1 else 0)
      (accepted + (c.admitted? a).toList.length) (given ++ (c.abandons? a).toList) := by
  have ⟨hoffered, hentered, hhandled, hfailed, habandoned⟩ := h
  cases hstep with
  | accept hroom =>
      rw [admitted?_offer, if_pos hroom]
      constructor <;> simp [Action.isOffer, abandons?, workersAt] at * <;> omega
  | refuse hfull =>
      rw [admitted?_offer, if_neg (Nat.not_lt.mpr hfull)]
      constructor <;> simp [Action.isOffer, abandons?, workersAt] at * <;> omega
  | start =>
      refine flows_of_quiet ⟨hoffered, ?_, ?_, ?_, habandoned⟩ rfl rfl
      · rw [workersAt_start .requeueing nofun]
        exact hentered
      · rw [workersAt_start .handling nofun]
        exact hhandled
      · rw [workersAt_start .backingOff nofun, workersAt_start .deadLettering nofun]
        exact hfailed
  | signal =>
      refine flows_of_quiet ⟨hoffered, ?_, ?_, ?_, habandoned⟩ rfl rfl
      · rw [workersAt_signal]
        exact hentered
      · rw [workersAt_signal]
        exact hhandled
      · rw [workersAt_signal, workersAt_signal]
        exact hfailed
  | startDrain | stopDrain | loseDrain =>
      exact flows_of_quiet ⟨hoffered, hentered, hhandled, hfailed, habandoned⟩ rfl rfl
  | @take w _ e rest hworker hqueue =>
      apply flows_of_quiet _ rfl rfl
      have hmoves := busy_setStage (.handling e) hworker
      rw [hqueue] at hentered
      constructor <;> simp [workersAt, Stage.kind] at * <;> omega
  | succeed hworker | requeue hworker | bury hworker =>
      apply flows_of_quiet _ rfl rfl
      have hmoves := busy_setStage .idle hworker
      constructor <;> simp [workersAt, Stage.kind] at * <;> omega
  | @backOff w _ e delay hworker =>
      apply flows_of_quiet _ rfl rfl
      have hmoves := busy_setStage (.backingOff e delay) hworker
      constructor <;> simp [workersAt, Stage.kind] at * <;> omega
  | @retryAtOnce w _ e hworker =>
      apply flows_of_quiet _ rfl rfl
      have hmoves := busy_setStage (.requeueing e.again) hworker
      constructor <;> simp [workersAt, Stage.kind] at * <;> omega
  | @exhaust w _ e hworker =>
      apply flows_of_quiet _ rfl rfl
      have hmoves := busy_setStage (.deadLettering e) hworker
      constructor <;> simp [workersAt, Stage.kind] at * <;> omega
  | @wake w _ e _ hworker =>
      apply flows_of_quiet _ rfl rfl
      have hmoves := busy_setStage (.requeueing e.again) hworker
      constructor <;> simp [workersAt, Stage.kind] at * <;> omega
  | drain _ hdlq =>
      apply flows_of_quiet _ rfl rfl
      rw [hdlq] at hfailed
      constructor <;> simp [workersAt] at * <;> omega
  | @stopIdle w hworker =>
      have hnone : c.abandons? (.stop w) = none := by
        rw [abandons?, hworker]
        rfl
      apply flows_of_quiet _ rfl hnone
      have hmoves := busy_setStage .stopped hworker
      constructor <;> simp [workersAt, Stage.kind] at * <;> omega
  | @abandon w stage e hworker hwaiting =>
      have hmoves := busy_setStage .stopped hworker
      have hgiven : c.abandons? (.stop w) = some stage.kind := by
        rw [abandons?, hworker, Option.bind_some, hwaiting, Option.map_some]
      rw [hgiven]
      cases stage <;> cases hwaiting
      all_goals
        constructor <;> simp [Action.isOffer, admitted?, workersAt, Stage.kind] at * <;> omega
  | lose | loseIdle => cases hkept

theorem flows_run? (hrun : c.run? actions = some c') (hkept : ∀ a ∈ actions, a.isLoss = false)
    (h : c.Flows offers accepted given) :
    c'.Flows (offers + actions.countP Action.isOffer) (accepted + (c.accepted actions).length)
      (given ++ c.abandonments actions) := by
  induction actions generalizing c offers accepted given with
  | nil =>
      cases hrun
      simpa [Consumer.accepted, abandonments] using h
  | cons a rest ih =>
      obtain ⟨middle, moved, hstep, hrest⟩ := run?_cons_eq_some_iff.mp hrun
      have hfirst := hstep.flows (hkept a List.mem_cons_self) h
      have hlast := ih hrest (fun b hmem => hkept b (List.mem_cons_of_mem a hmem)) hfirst
      rw [Nat.add_right_comm, Nat.add_assoc, Nat.add_assoc, List.append_assoc] at hlast
      rw [accepted_cons hstep, abandonments_cons hstep, List.countP_cons, List.length_append]
      exact hlast

theorem create_flows (name : String) (config : ConsumerConfig) :
    (create name config).Flows 0 0 [] :=
  ⟨rfl, rfl, rfl, rfl, rfl⟩

/-- Where nothing is outstanding and nothing was given up, no event is on its
way. -/
theorem Flows.settled (h : c.Flows offers accepted given) (hbalanced : c.Balanced)
    (hnone : c.stats.outstanding = 0) (hkept : c.stats.abandoned = 0) :
    c.stats.handled = c.stats.delivered + c.stats.failedAttempts ∧
      c.stats.failedAttempts = c.stats.retried + c.stats.deadLettered ∧
      c.stats.handled = accepted + c.stats.retried := by
  obtain ⟨-, hentered, hhandled, hfailed, habandoned⟩ := h
  have hheld : ∀ kind : Stage.Kind, kind.holds = true → c.workersAt kind ≤ c.held :=
    fun _ => workersAt_le_held
  have hhandling := hheld .handling rfl
  have hbackingOff := hheld .backingOff rfl
  have hrequeueing := hheld .requeueing rfl
  have hdeadLettering := hheld .deadLettering rfl
  unfold Balanced at hbalanced
  omega

/-- In every run in which no worker dies, the flow equations hold; where nothing
is outstanding and the signal has not fired, they are left with counters only. -/
theorem flows_of_run? (name : String) (config : ConsumerConfig) (actions : List Action)
    (c : Consumer) (hrun : (create name config).run? actions = some c)
    (hkept : ∀ a ∈ actions, a.isLoss = false) :
    c.Flows (actions.countP Action.isOffer) ((create name config).accepted actions).length
        ((create name config).abandonments actions) ∧
      (c.stats.outstanding = 0 → .signal ∉ actions →
        c.stats.handled = c.stats.delivered + c.stats.failedAttempts ∧
          c.stats.failedAttempts = c.stats.retried + c.stats.deadLettered ∧
          c.stats.handled = ((create name config).accepted actions).length + c.stats.retried) := by
  have hflows := flows_run? hrun hkept (create_flows name config)
  rw [Nat.zero_add, Nat.zero_add, List.nil_append] at hflows
  refine ⟨hflows, fun hnone hquiet => ?_⟩
  have hbalanced := balanced_run? hrun (create_balanced name config)
  exact hflows.settled hbalanced hnone (abandoned_run? hrun hquiet (create_unsignalled name config))

/-- Events are delivered, dead-lettered and refused, and each of three others is
given up at another stage. -/
theorem flows_of_each_abandonment :
    let config : ConsumerConfig :=
      ⟨1, 1, 3, ⟨1, some ⟨Duration.ofSeconds 1, Duration.ofSeconds 3⟩⟩⟩
    let event (retries : UInt32) : Event := { (default : Event) with retries := retries }
    let actions : List Action :=
      [.start, .startDrain, .offer (event 0), .offer (event 0), .take 0, .offer (event 1), .fail 0,
        .take 1, .fail 1, .bury 1, .offer (event 1), .take 1, .fail 1, .offer (event 0), .take 2,
        .offer (event 1), .wake 0, .fail 2, .signal, .stop 0, .stop 1, .stop 2, .drain 0]
    let start := create "mail" config
    ∃ c, start.run? actions = some c ∧ (∀ a ∈ actions, a.isLoss = false) ∧
      start.abandonments actions = [.requeueing, .deadLettering, .backingOff] ∧
      c.Flows 6 5 [.requeueing, .deadLettering, .backingOff] ∧
      (c.stats.outstanding = 0 → .signal ∉ actions →
        c.stats.handled = c.stats.delivered + c.stats.failedAttempts ∧
          c.stats.failedAttempts = c.stats.retried + c.stats.deadLettered ∧
          c.stats.handled = (start.accepted actions).length + c.stats.retried) := by
  intro config event actions start
  refine ⟨_, rfl, by decide, rfl, ?_⟩
  exact flows_of_run? "mail" config actions _ rfl (by decide)

end Consumer

end Courier

import Mathlib.Algebra.Ring.Nat
import Mathlib.Data.List.Basic
import Courier.Proofs.Consumer.Run

/-! # Outstanding events

`outstanding` is counted up and down in several places; it always is the
number of events in the two queues and in the hands of workers. A step that
counts down therefore finds something to count.
-/

namespace Courier

/-- The worker has an event in its hands, be its task over or not. -/
def Worker.holds (w : Worker) : Bool :=
  w.stage.event?.isSome

/-- Accepted events that came to an end. -/
def Stats.settled (s : Stats) : Nat :=
  s.delivered + s.deadLettered + s.abandoned

namespace Consumer

/-- How many events are in the hands of workers. -/
def held (c : Consumer) : Nat :=
  c.workers.countP Worker.holds

variable {c c' : Consumer} {a : Action} {actions : List Action} {moved : List Counter}

theorem countP_modify {α : Type} (p : α → Bool) (f : α → α) {items : List α} {i : Nat} {x : α}
    (hitem : items[i]? = some x) :
    (items.modify i f).countP p + (if p x then 1 else 0) =
      items.countP p + (if p (f x) then 1 else 0) := by
  induction items generalizing i with
  | nil => simp at hitem
  | cons first rest ih =>
      cases i with
      | zero =>
          obtain rfl : first = x := by simpa using hitem
          simp only [List.modify_zero_cons, List.countP_cons]
          omega
      | succ i =>
          have hrest := ih (by simpa using hitem)
          simp only [List.modify_succ_cons, List.countP_cons]
          omega

theorem sum_map_modify {α : Type} (f : α → Nat) (g : α → α) {items : List α} {i : Nat} {x : α}
    (hitem : items[i]? = some x) :
    ((items.modify i g).map f).sum + f x = (items.map f).sum + f (g x) := by
  induction items generalizing i with
  | nil => simp at hitem
  | cons first rest ih =>
      cases i with
      | zero =>
          obtain rfl : first = x := by simpa using hitem
          simp only [List.modify_zero_cons, List.map_cons, List.sum_cons]
          omega
      | succ i =>
          have hrest := ih (by simpa using hitem)
          simp only [List.modify_succ_cons, List.map_cons, List.sum_cons]
          omega

theorem sum_map_set {α : Type} (f : α → Nat) (y : α) {items : List α} {i : Nat} {x : α}
    (hitem : items[i]? = some x) :
    ((items.set i y).map f).sum + f x = (items.map f).sum + f y := by
  rw [List.set_eq_modify]
  exact sum_map_modify f _ hitem

/-- A worker that goes to another stage leaves one class of workers and joins
another. -/
theorem countP_setStage (p : Worker → Bool) {w : Nat} {worker : Worker} (stage : Stage)
    (hworker : c.workers[w]? = some worker) :
    (c.setStage w stage).workers.countP p + (if p worker then 1 else 0) =
      c.workers.countP p + (if p ⟨stage, worker.signalled⟩ then 1 else 0) :=
  countP_modify p _ hworker

theorem countP_signal (p : Worker → Bool)
    (hp : ∀ w : Worker, p { w with signalled := true } = p w) :
    c.signal.workers.countP p = c.workers.countP p := by
  simp only [signal, List.countP_map]
  exact List.countP_congr fun w _ => by simp [hp]

theorem countP_start (p : Worker → Bool) :
    c.start.workers.countP p =
      c.workers.countP p + if p ⟨.idle, false⟩ then c.config.workerCount else 0 := by
  simp [start, List.countP_replicate]

theorem held_setStage {w : Nat} {stage : Stage} {signalled : Bool} (next : Stage)
    (hworker : c.workers[w]? = some ⟨stage, signalled⟩) :
    (c.setStage w next).workers.countP Worker.holds + (if stage.event?.isSome then 1 else 0) =
      c.workers.countP Worker.holds + (if next.event?.isSome then 1 else 0) :=
  countP_setStage Worker.holds next hworker

/-- The counter of outstanding events agrees with where events are. -/
def Balanced (c : Consumer) : Prop :=
  c.stats.outstanding = c.queue.length + c.held + c.dlq.length

theorem create_balanced (name : String) (config : ConsumerConfig) :
    (create name config).Balanced := rfl

theorem Step.balanced (hstep : Step c a c' moved) (hbalanced : c.Balanced) : c'.Balanced := by
  unfold Balanced held at *
  cases hstep with
  | accept => simp; omega
  | refuse => exact hbalanced
  | start =>
      have hheld : c.start.workers.countP Worker.holds = c.workers.countP Worker.holds :=
        countP_start Worker.holds
      rw [hheld]
      exact hbalanced
  | startDrain => exact hbalanced
  | signal =>
      rw [countP_signal Worker.holds fun _ => rfl]
      exact hbalanced
  | @take w _ e _ hworker hqueue =>
      have hheld := held_setStage (.handling e) hworker
      simp only [hqueue, List.length_cons] at hbalanced
      simp [Stage.event?] at hheld ⊢
      omega
  | succeed hworker =>
      have hheld := held_setStage .idle hworker
      simp [Stage.event?] at hheld ⊢
      omega
  | @backOff w _ e delay hworker =>
      have hheld := held_setStage (.backingOff e delay) hworker
      simp [Stage.event?] at hheld ⊢
      omega
  | @retryAtOnce w _ e hworker =>
      have hheld := held_setStage (.requeueing e.again) hworker
      simp [Stage.event?] at hheld ⊢
      omega
  | @exhaust w _ e hworker =>
      have hheld := held_setStage (.deadLettering e) hworker
      simp [Stage.event?] at hheld ⊢
      omega
  | @wake w _ e _ hworker =>
      have hheld := held_setStage (.requeueing e.again) hworker
      simp [Stage.event?] at hheld ⊢
      omega
  | requeue hworker =>
      have hheld := held_setStage .idle hworker
      simp [Stage.event?] at hheld ⊢
      omega
  | bury hworker =>
      have hheld := held_setStage .idle hworker
      simp [Stage.event?] at hheld ⊢
      omega
  | drain _ hdlq =>
      simp only [hdlq, List.length_cons] at hbalanced
      simp only
      omega
  | stopIdle hworker =>
      have hheld := held_setStage .stopped hworker
      simp [Stage.event?] at hheld ⊢
      omega
  | @abandon w stage e hworker hwaiting =>
      have hheld := held_setStage .stopped hworker
      rw [Stage.event?_of_waiting? hwaiting] at hheld
      simp [Stage.event?] at hheld ⊢
      omega
  | stopDrain => exact hbalanced
  | @lose w stage _ e hworker _ hevent =>
      have hheld := held_setStage (.lost e) hworker
      rw [hevent] at hheld
      simp [Stage.event?] at hheld ⊢
      omega
  | loseIdle hworker =>
      have hheld := held_setStage .stopped hworker
      simp [Stage.event?] at hheld ⊢
      omega
  | loseDrain => exact hbalanced

theorem balanced_run? (hrun : c.run? actions = some c') (hbalanced : c.Balanced) :
    c'.Balanced :=
  run?_induction hrun hbalanced fun _ _ _ _ _ hbefore hstep => hstep.balanced hbefore

theorem Balanced.outstanding_pos_of_worker (hbalanced : c.Balanced) {w : Nat} {worker : Worker}
    (hworker : c.workers[w]? = some worker) (hholds : worker.holds = true) :
    0 < c.stats.outstanding := by
  have hheld : 0 < c.held :=
    List.countP_pos_iff.mpr ⟨worker, List.mem_of_getElem? hworker, hholds⟩
  unfold Balanced at hbalanced
  omega

/-- The counter of outstanding events is never counted down from zero. -/
theorem Step.outstanding_pos (hstep : Step c a c' moved) (hbalanced : c.Balanced)
    (hsettles : c.stats.settled < c'.stats.settled) : 0 < c.stats.outstanding := by
  cases hstep with
  | succeed hworker => exact hbalanced.outstanding_pos_of_worker hworker rfl
  | drain _ hdlq =>
      unfold Balanced at hbalanced
      rw [hdlq, List.length_cons] at hbalanced
      omega
  | abandon hworker hwaiting =>
      apply hbalanced.outstanding_pos_of_worker hworker
      rw [Worker.holds, Stage.event?_of_waiting? hwaiting, Option.isSome_some]
  | _ => exact absurd hsettles (Nat.lt_irrefl _)

/-- A step adds to the settled and outstanding events just what it gets
accepted. -/
theorem Step.settled_add_outstanding (hstep : Step c a c' moved) (hbalanced : c.Balanced) :
    c'.stats.settled + c'.stats.outstanding =
      c.stats.settled + c.stats.outstanding + (c.admitted? a).toList.length := by
  have hpos := hstep.outstanding_pos hbalanced
  cases hstep with
  | accept hroom =>
      simp only [Stats.settled, admitted?_offer, hroom, if_true, Option.toList_some,
        List.length_singleton]
      omega
  | refuse hfull => simp [Stats.settled, admitted?_offer, Nat.not_lt.mpr hfull]
  | succeed =>
      simp only [Stats.settled] at hpos ⊢
      simp only [admitted?, Option.toList_none, List.length_nil]
      omega
  | drain =>
      simp only [Stats.settled] at hpos ⊢
      simp only [admitted?, Option.toList_none, List.length_nil]
      omega
  | abandon =>
      simp only [Stats.settled] at hpos ⊢
      simp only [admitted?, Option.toList_none, List.length_nil]
      omega
  | _ => rfl

theorem settled_add_outstanding_run? (hrun : c.run? actions = some c')
    (hbalanced : c.Balanced) :
    c'.stats.settled + c'.stats.outstanding =
      c.stats.settled + c.stats.outstanding + (c.accepted actions).length := by
  induction actions generalizing c with
  | nil =>
      cases hrun
      rfl
  | cons a rest ih =>
      obtain ⟨middle, moved, hstep, hrest⟩ := run?_cons_eq_some_iff.mp hrun
      have hfirst := hstep.settled_add_outstanding hbalanced
      rw [ih hrest (hstep.balanced hbalanced), accepted_cons hstep, List.length_append]
      omega

end Consumer

end Courier

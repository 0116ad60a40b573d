import Courier.Proofs.Consumer.Flow

/-! # What is in a consumer

An event that was accepted is on the live queue, in the hands of a worker, or on
the dead-letter queue until it is settled. Seen from outside, a step adds the
event that it gets accepted and takes away the one that it settles; all else is
moved around inside, whichever queue is full.
-/

namespace Courier

/-- The event as it was offered first, without the retries behind it. -/
def Event.origin (e : Event) : Event :=
  { e with retries := 0 }

@[simp]
theorem Event.origin_again (e : Event) : e.again.origin = e.origin := rfl

namespace Consumer

/-- The events in the hands of workers. -/
def inHands (c : Consumer) : List Event :=
  c.workers.flatMap fun worker => worker.stage.event?.toList

/-- All events that are somewhere in the consumer. -/
def contents (c : Consumer) : List Event :=
  c.queue ++ c.inHands ++ c.dlq

/-- The event that an action settles: it was delivered, drained, or given up when
the signal had come. -/
def settles? (c : Consumer) : Action → Option Event
  | .succeed w => c.workers[w]?.bind fun worker => worker.stage.event?
  | .stop w => c.workers[w]?.bind fun worker => worker.stage.waiting?
  | .drain _ => c.dlq.head?
  | _ => none

variable {c c' : Consumer} {a : Action} {moved : List Counter} {w : Nat}

theorem length_inHands (c : Consumer) : c.inHands.length = c.held := by
  rw [inHands, held]
  induction c.workers with
  | nil => rfl
  | cons worker rest ih =>
      rw [List.flatMap_cons, List.length_append, ih, List.countP_cons, Worker.holds,
        Nat.add_comm]
      cases worker.stage.event? <;> rfl

/-- What a worker that goes to another stage does to the events in the hands of
workers: it lets one event go and takes up another, or the same. -/
theorem count_inHands_setStage {stage : Stage} {signalled : Bool} (next : Stage) (e : Event)
    (hworker : c.workers[w]? = some ⟨stage, signalled⟩) :
    ((c.setStage w next).inHands.map Event.origin).count e +
        (stage.event?.toList.map Event.origin).count e =
      (c.inHands.map Event.origin).count e + (next.event?.toList.map Event.origin).count e := by
  have hcount : ∀ k : Consumer, (k.inHands.map Event.origin).count e =
      (k.workers.map fun worker => (worker.stage.event?.toList.map Event.origin).count e).sum := by
    intro k
    rw [inHands, List.map_flatMap, List.count_flatMap]
    rfl
  rw [hcount, hcount]
  exact sum_map_modify (fun worker => (worker.stage.event?.toList.map Event.origin).count e) _
    hworker

theorem inHands_start : c.start.inHands = c.inHands := by
  rw [inHands, start, List.flatMap_append, List.flatMap_replicate]
  simp [Stage.event?, inHands]

theorem inHands_signal : c.signal.inHands = c.inHands := by
  rw [inHands, signal, List.flatMap_map, inHands]

/-- Whatever a consumer does, an event comes into it by being accepted and
leaves it by being settled. -/
theorem Step.contents_perm (hstep : Step c a c' moved) :
    ((c'.contents ++ (c.settles? a).toList).map Event.origin).Perm
      ((c.contents ++ (c.admitted? a).toList).map Event.origin) := by
  rw [List.perm_iff_count]
  intro x
  simp only [contents, List.map_append, List.count_append]
  cases hstep with
  | @accept e hroom =>
      simp only [settles?, admitted?_offer, if_pos hroom, inHands, List.map_append,
        List.count_append, Option.toList_some, Option.toList_none, List.map_nil, List.count_nil]
      simp only [List.map_cons, List.map_nil]
      omega
  | refuse hfull => simp [settles?, admitted?_offer, Nat.not_lt.mpr hfull, inHands]
  | start =>
      rw [inHands_start]
      rfl
  | signal =>
      rw [inHands_signal]
      rfl
  | startDrain | stopDrain | loseDrain =>
      simp [settles?, admitted?, inHands, Consumer.startDrain, setDrainStopped]
  | @take w _ e rest hworker hqueue =>
      have hhands := count_inHands_setStage (.handling e) x hworker
      simp [settles?, admitted?, hqueue, Stage.event?, inHands, List.count_cons] at hhands ⊢
      omega
  | @succeed w _ e hworker =>
      have hhands := count_inHands_setStage .idle x hworker
      simp [settles?, admitted?, hworker, Stage.event?, inHands] at hhands ⊢
      omega
  | @backOff w _ e delay hworker =>
      have hhands := count_inHands_setStage (.backingOff e delay) x hworker
      simp [settles?, admitted?, Stage.event?, inHands] at hhands ⊢
      omega
  | @retryAtOnce w _ e hworker =>
      have hhands := count_inHands_setStage (.requeueing e.again) x hworker
      simp [settles?, admitted?, Stage.event?, inHands] at hhands ⊢
      omega
  | @exhaust w _ e hworker =>
      have hhands := count_inHands_setStage (.deadLettering e) x hworker
      simp [settles?, admitted?, Stage.event?, inHands] at hhands ⊢
      omega
  | @wake w _ e _ hworker =>
      have hhands := count_inHands_setStage (.requeueing e.again) x hworker
      simp [settles?, admitted?, Stage.event?, inHands] at hhands ⊢
      omega
  | @requeue w _ e hworker | @bury w _ e hworker =>
      have hhands := count_inHands_setStage .idle x hworker
      simp [settles?, admitted?, Stage.event?, inHands] at hhands ⊢
      omega
  | @drain d _ e rest hdrain hdlq =>
      simp [settles?, admitted?, hdlq, inHands, List.count_cons]
      omega
  | @stopIdle w hworker =>
      have hhands := count_inHands_setStage .stopped x hworker
      simp [settles?, admitted?, hworker, Stage.event?, Stage.waiting?, inHands] at hhands ⊢
      omega
  | @abandon w stage e hworker hwaiting =>
      have hhands := count_inHands_setStage .stopped x hworker
      rw [Stage.event?_of_waiting? hwaiting] at hhands
      simp [settles?, admitted?, hworker, hwaiting, Stage.event?, inHands] at hhands ⊢
      omega
  | @lose w stage _ e hworker _ hevent =>
      have hhands := count_inHands_setStage (.lost e) x hworker
      rw [hevent] at hhands
      simp [settles?, admitted?, Stage.event?, inHands] at hhands ⊢
      omega
  | @loseIdle w _ hworker =>
      have hhands := count_inHands_setStage .stopped x hworker
      simp [settles?, admitted?, Stage.event?, inHands] at hhands ⊢
      omega

end Consumer

end Courier

import Courier.Proofs.Consumer.Flow
import Courier.Proofs.Consumer.Retries

/-! # Events in the handler

The handler is called when a worker takes an event, and until it returns nothing
else happens to the event. At any other time the number of calls is that of the
returns, and the last of them was a failure unless the event is delivered.
-/

namespace Courier

open Consumer (Action Step)

/-- A worker that waits is not in the handler. -/
theorem Stage.kind_ne_of_waiting? {stage : Stage} {e : Event}
    (hwaiting : stage.waiting? = some e) : stage.kind ≠ .handling := by
  intro hkind
  cases stage <;> cases hkind
  cases hwaiting

namespace Consumer

variable {c c' : Consumer} {a : Action} {moved : List Counter} {w k : Nat} {e : Event}
  {signalled : Bool} {worker : Worker} {stage : Stage}

/-- The event of a worker stays where it is, and nothing happens to it. -/
structure Stays (before after : Consumer) (a : Action) (w : Nat) (e : Event) : Prop where
  view : after.view? e (.held w) = some (.handling, e)
  spot : (Spot.held w).next before a = .held w
  news : (Spot.held w).news after a = []

theorem stays_of_other (hview : c.view? e (.held w) = some (.handling, e))
    (hworkers : c'.workers = (c.setStage k stage).workers) (hne : w ≠ k)
    (hnext : w ≠ k → (Spot.held w).next c a = .held w)
    (hnews : w ≠ k → (Spot.held w).news c' a = []) : Stays c c' a w e :=
  ⟨(view?_held_of_ne hworkers hne e).trans hview, hnext hne, hnews hne⟩

/-- A worker in the handler stays there until the handler returns or the worker
dies. -/
theorem Step.stays (hstep : Step c a c' moved)
    (hworker : c.workers[w]? = some ⟨.handling e, signalled⟩) (hsucceed : a ≠ .succeed w)
    (hfail : a ≠ .fail w) (hlose : a ≠ .lose w) : Stays c c' a w e := by
  have hview : c.view? e (.held w) = some (.handling, e) := view?_held hworker e
  have hne {v : Nat} {worker : Worker} (hother : c.workers[v]? = some worker)
      (hstage : worker.stage.kind ≠ .handling) : w ≠ v := by
    rintro rfl
    cases hworker.symm.trans hother
    exact hstage rfl
  cases hstep with
  | accept | refuse | startDrain | drain | stopDrain | loseDrain => exact ⟨hview, rfl, rfl⟩
  | start =>
      have hlt : w < c.workers.length := (List.getElem?_eq_some_iff.mp hworker).1
      have hw : c.start.workers[w]? = some ⟨.handling e, signalled⟩ :=
        (List.getElem?_append_left hlt).trans hworker
      exact ⟨view?_held hw e, rfl, rfl⟩
  | signal =>
      have hw : c.signal.workers[w]? = some ⟨.handling e, true⟩ := by
        rw [Consumer.signal, List.getElem?_map, hworker, Option.map_some]
      exact ⟨view?_held hw e, rfl, rfl⟩
  | take hother | wake hother =>
      have hv := hne hother (by simp [Stage.kind])
      exact stays_of_other hview rfl hv (fun _ => rfl) (fun _ => rfl)
  | requeue hother | bury hother | stopIdle hother =>
      have hv := hne hother (by simp [Stage.kind])
      exact stays_of_other hview rfl hv (fun hk => if_neg hk) (fun hk => if_neg hk)
  | abandon hother hwaiting =>
      have hv := hne hother (Stage.kind_ne_of_waiting? hwaiting)
      exact stays_of_other hview rfl hv (fun hk => if_neg hk) (fun hk => if_neg hk)
  | loseIdle hother =>
      have hv := hne hother (by simp [Stage.kind])
      exact stays_of_other hview rfl hv (fun _ => rfl) (fun _ => rfl)
  | @succeed v =>
      have hv : w ≠ v := fun heq => hsucceed (congrArg _ heq.symm)
      exact stays_of_other hview rfl hv (fun hk => if_neg hk) (fun hk => if_neg hk)
  | @backOff v | @retryAtOnce v | @exhaust v =>
      have hv : w ≠ v := fun heq => hfail (congrArg _ heq.symm)
      exact stays_of_other hview rfl hv (fun _ => rfl) (fun hk => if_neg hk)
  | @lose v =>
      have hv : w ≠ v := fun heq => hlose (congrArg _ heq.symm)
      exact stays_of_other hview rfl hv (fun _ => rfl) (fun _ => rfl)

end Consumer


theorem Spot.take_of_news {c c' : Consumer} {a : Action} {spot : Spot}
    (hnews : spot.news c' a = [.called]) : ∃ w, a = .take w ∧ spot.next c a = .held w := by
  unfold Spot.news at hnews
  split at hnews
  next w => exact ⟨w, rfl, rfl⟩
  all_goals
    first
    | cases hnews
    | split at hnews <;> cases hnews

namespace Advance

variable {p : RetryPolicy} {phase : Phase} {e e' : Event} {rest : List Happening}

theorem of_delivered (hadvance : Advance p .handling e [.settled .delivered] phase e') :
    phase = .settled .delivered := by
  cases hadvance with
  | deliver => rfl

theorem of_failed (hadvance : Advance p .handling e (.failed :: rest) phase e') :
    phase ≠ .handling ∧ phase ≠ .settled .delivered ∧ rest.count .called = 0 := by
  cases hadvance <;> exact ⟨nofun, nofun, rfl⟩

end Advance

namespace Journey

variable {c c' : Consumer} {a : Action} {moved : List Counter} {j : Journey} {w : Nat}

theorem calls_follow (c c' : Consumer) (a : Action) (j : Journey) :
    (j.follow c c' a).calls = j.calls + (j.spot.news c' a).count .called :=
  List.count_append

/-- While its event is in the handler, a journey makes no progress. -/
theorem follow_of_stays (hspot : j.spot = .held w) (hphase : j.phase = .handling)
    (hstays : Consumer.Stays c c' a w j.event) : j.follow c c' a = j := by
  obtain ⟨offered, spot, phase, e, past⟩ := j
  cases hspot
  cases hphase
  simp only [follow, hstays.spot, hstays.news, hstays.view, Option.getD_some, List.append_nil]

/-- An event that is not in the handler is taken, or nothing comes of it that
the handler knows of. -/
theorem Located.follow_of_ne (hlocated : j.Located c) (hstep : Step c a c' moved)
    (hphase : j.phase ≠ .handling) :
    (∃ w, a = .take w ∧ (j.follow c c' a).spot = .held w ∧ (j.follow c c' a).phase = .handling ∧
        (j.follow c c' a).calls = j.calls + 1) ∨
      (j.follow c c' a).phase ≠ .handling ∧ (j.follow c c' a).calls = j.calls ∧
        ((j.follow c c' a).phase = .settled .delivered ↔ j.phase = .settled .delivered) := by
  have hadvance := (hlocated.follow hstep).2
  have hcalls := calls_follow c c' a j
  have hspot : (j.follow c c' a).spot = j.spot.next c a := rfl
  rw [hspot, hcalls]
  generalize hnews : j.spot.news c' a = news at hadvance
  generalize (j.follow c c' a).phase = phase' at hadvance ⊢
  generalize (j.follow c c' a).event = e' at hadvance
  generalize j.phase = phase at hadvance hphase ⊢
  cases hadvance with
  | take =>
      obtain ⟨w, ha, hnext⟩ := Spot.take_of_news hnews
      exact .inl ⟨w, ha, hnext, rfl, rfl⟩
  | stay => exact .inr ⟨hphase, rfl, Iff.rfl⟩
  | deliver | backOff | retryAtOnce | exhaust => exact absurd rfl hphase
  | wake | requeue | bury | drain => exact .inr ⟨nofun, rfl, nofun, nofun⟩
  | abandon hwaits =>
      refine .inr ⟨nofun, rfl, nofun, ?_⟩
      rintro rfl
      cases hwaits
  | lose hinHand =>
      refine .inr ⟨nofun, rfl, nofun, ?_⟩
      rintro rfl
      cases hinHand

/-- A delivered event has left the handler for good. -/
theorem Located.follow_succeed (hlocated : j.Located c) (hstep : Step c (.succeed w) c' moved)
    (hspot : j.spot = .held w) (hphase : j.phase = .handling) :
    (j.follow c c' (.succeed w)).phase = .settled .delivered ∧
      (j.follow c c' (.succeed w)).calls = j.calls := by
  have hadvance := (hlocated.follow hstep).2
  have hnews : j.spot.news c' (.succeed w) = [.settled .delivered] := by
    rw [hspot]
    exact if_pos rfl
  rw [hnews, hphase] at hadvance
  refine ⟨hadvance.of_delivered, ?_⟩
  rw [calls_follow, hnews]
  rfl

/-- An event whose handler has failed has left it for now. -/
theorem Located.follow_fail (hlocated : j.Located c) (hstep : Step c (.fail w) c' moved)
    (hspot : j.spot = .held w) (hphase : j.phase = .handling) :
    (j.follow c c' (.fail w)).phase ≠ .handling ∧
      (j.follow c c' (.fail w)).phase ≠ .settled .delivered ∧
      (j.follow c c' (.fail w)).calls = j.calls := by
  have hadvance := (hlocated.follow hstep).2
  obtain ⟨rest, hnews⟩ : ∃ rest, j.spot.news c' (.fail w) = .failed :: rest := by
    rw [hspot]
    exact ⟨_, if_pos rfl⟩
  rw [hnews, hphase] at hadvance
  obtain ⟨hleft, hundelivered, hcount⟩ := hadvance.of_failed
  refine ⟨hleft, hundelivered, ?_⟩
  have hfailed : Happening.failed ≠ .called := nofun
  rw [calls_follow, hnews, List.count_cons_of_ne hfailed, hcount, Nat.add_zero]

end Journey

/-! ## How often an event was handled -/

namespace Course

variable {p : RetryPolicy} {r q : UInt32} {phase : Phase} {past : List Happening}

theorem calls_le (hcourse : Course p r phase q past) :
    past.count .called ≤ p.limit.toNat - r.toNat + 1 := by
  induction hcourse with
  | queued hreturned =>
      rw [RetryPolicy.count_called_rounds]
      exact Nat.le_succ_of_le hreturned.bound
  | handling hreturned | deadLettering hreturned | buried hreturned | delivered hreturned
  | deadLettered hreturned =>
      rw [List.count_append, RetryPolicy.count_called_rounds]
      exact Nat.succ_le_succ hreturned.bound
  | backingOff hreturned | requeueing hreturned =>
      rw [List.count_append, List.count_append, RetryPolicy.count_called_rounds,
        RetryPolicy.count_called_pause]
      exact Nat.succ_le_succ hreturned.bound
  | abandoned _ _ ih =>
      rw [List.count_append]
      exact ih
  | lost _ _ ih => exact ih

theorem calls_of_delivered (hcourse : Course p r (.settled .delivered) q past) :
    r.toNat + past.count .called = q.toNat + 1 := by
  cases hcourse with
  | delivered hreturned =>
      rw [List.count_append, RetryPolicy.count_called_rounds, hreturned.count]
      rfl

end Course

end Courier

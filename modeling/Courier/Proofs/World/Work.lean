import Courier.Proofs.Consumer.Flow
import Courier.Proofs.Intake.Run
import Courier.World.Run

/-! # What the world does by itself

While time goes by nobody asks for anything. What happens to the intake then is
done by tasks: they take their consumers from stage to stage, write attempt
records, and drop keys of the limiter.
-/

namespace Courier

/-- A worker or a drain does something, or its task ends. -/
def Consumer.Action.isTask : Consumer.Action → Bool
  | .offer _ | .signal => false
  | _ => true

/-- Some task does something. -/
def Intake.Action.isTask : Intake.Action → Bool
  | .act _ a => a.isTask
  | .saveAttempt _ | .updateAttempt _ | .limit _ => true
  | _ => false

namespace World

/-- All that has happened to the intake was done by tasks. -/
def Works (w w' : World) : Prop :=
  ∃ actions : List Intake.Action,
    (∀ a ∈ actions, a.isTask = true) ∧ w'.intake = w.intake.run actions

variable {w w' w'' : World} {c k : Nat}

theorem Works.of_intake_eq (hintake : w'.intake = w.intake) : w.Works w' :=
  ⟨[], List.forall_mem_nil _, hintake⟩

theorem Works.refl (w : World) : w.Works w :=
  .of_intake_eq rfl

theorem Works.trans (hfirst : w.Works w') (hsecond : w'.Works w'') : w.Works w'' := by
  obtain ⟨first, hfirst, hintake⟩ := hfirst
  obtain ⟨second, hsecond, hintake'⟩ := hsecond
  refine ⟨first ++ second, List.forall_mem_append.mpr ⟨hfirst, hsecond⟩, ?_⟩
  rw [hintake', hintake, Intake.run_append]

theorem Works.of_perform {a : Intake.Action} (hintake : w'.intake = w.intake.perform a)
    (htask : a.isTask = true) : w.Works w' :=
  ⟨[a], List.forall_mem_singleton.mpr htask, hintake⟩

/-- What every step of a fold does by tasks, the fold does. -/
theorem works_foldl {α : Type} {f : World → α → World} (hstep : ∀ (w : World) x, w.Works (f w x))
    (items : List α) (w : World) : w.Works (items.foldl f w) := by
  induction items generalizing w with
  | nil => exact .refl w
  | cons x rest ih => exact (hstep w x).trans (ih _)

theorem intake_act (w : World) (c : Nat) (a : Consumer.Action) :
    (w.act c a).intake = w.intake.perform (.act c a) := by
  rw [act, Intake.perform, broker]
  cases w.intake.broker.act? c a <;> rfl

theorem works_act (w : World) (c : Nat) {a : Consumer.Action} (htask : a.isTask = true) :
    w.Works (w.act c a) :=
  .of_perform (intake_act w c a) htask

/-! ## Calls -/

theorem intake_transmit (w : World) (c : Nat) (t : Transport) (n : Notification) :
    (w.transmit c t n).1.intake = w.intake := by
  cases t <;> rfl

/-- A delivery saves a fresh record, or nothing. -/
theorem works_start (w : World) (e : Event) (c : Channel) (now : Timestamp) :
    w.Works (w.withRepository (Delivery.start w.store w.intake.repository e c now).1) := by
  have hloaded : (Delivery.start w.store w.intake.repository e c now).1 =
      (w.store.load w.intake.repository e.routed.notification.id c).1 := rfl
  rw [hloaded, AttemptStore.load]
  split
  · exact .refl w
  · have hsaved : ∀ a, (w.store.save w.intake.repository a).1 =
        (Repository.store.save w.intake.repository a).1 := by
      intro a
      rw [store]
      split <;> rfl
    dsimp only
    rw [hsaved]
    exact .of_perform (a := .saveAttempt _) rfl rfl
  · exact .refl w

theorem works_deliver (w : World) (c : Nat) (t : Transport) (e : Event) :
    w.Works (w.deliver c t e).1 := by
  rw [deliver]
  split
  next =>
    have hstarted := works_start w e t.channel w.moment.date
    exact hstarted.trans (.of_intake_eq (intake_transmit ..))
  next => exact .refl w

theorem works_startCall (w : World) (c : Nat) (e : Event) : w.Works (w.startCall c e).1 := by
  rw [startCall]
  split
  next => exact .of_intake_eq rfl
  next t _ => exact works_deliver w c t e
  next => exact .refl w

theorem works_finishCall (w : World) (call : Call) : w.Works (w.finishCall call).1 := by
  cases call with
  | scripted | refused => exact .refl w
  | delivery a result =>
      have hupdated : Delivery.finish w.store w.intake.repository a result =
          (Repository.store.update w.intake.repository
            (a.withStatus (Delivery.statusOf result))).1 := by
        rw [Delivery.finish, store]
        split <;> rfl
      rw [finishCall, hupdated]
      exact .of_perform (a := .updateAttempt _) rfl rfl

/-! ## Workers -/

theorem works_follow (w : World) (c k : Nat) : w.Works (w.follow c k) := by
  rw [follow]
  split
  next =>
    split
    next => exact (works_act w c rfl).trans (.of_intake_eq rfl)
    next => exact .of_intake_eq rfl
  next => exact .of_intake_eq rfl
  next => exact .of_intake_eq rfl
  next => exact .refl w

theorem works_endCall (w : World) (c k : Nat) (call : Call) : w.Works (w.endCall c k call) := by
  rw [endCall]
  split
  next =>
    have hfinished := works_finishCall w call
    split
    next hcall =>
      rw [hcall] at hfinished
      exact hfinished.trans (works_act _ c rfl)
    next hcall =>
      rw [hcall] at hfinished
      exact hfinished.trans (works_act _ c rfl)
    next hcall =>
      rw [hcall] at hfinished
      exact hfinished.trans ((works_act _ c rfl).trans (works_follow ..))
  next => exact .refl w

theorem works_wake (w : World) (c k : Nat) : w.Works (w.wake c k) := by
  rw [wake]
  split
  next => exact (works_act w c rfl).trans (.of_intake_eq rfl)
  next => exact .refl w

theorem works_take (w : World) (c k : Nat) : w.Works (w.take c k) := by
  have htaken : w.Works (w.act c (.take k)) := works_act w c rfl
  rw [take]
  split
  next e _ =>
    have hcalled := htaken.trans (works_startCall _ c e)
    split
    next hcall =>
      rw [hcall] at hcalled
      exact hcalled.trans (works_endCall ..)
    next hcall =>
      rw [hcall] at hcalled
      exact hcalled.trans (.of_intake_eq rfl)
  next => exact htaken

/-! ## Settling -/

theorem works_perform (w : World) (c : Nat) {a : Consumer.Action} (htask : a.isTask = true) :
    w.Works (w.perform c a) := by
  rw [perform.eq_def]
  split
  next => exact works_take ..
  next => exact (works_act w c rfl).trans (.of_intake_eq rfl)
  next => exact (works_act w c rfl).trans (.of_intake_eq rfl)
  next => exact (works_act w c rfl).trans (.of_intake_eq rfl)
  next => exact works_act w c htask

theorem isTask_of_firstOf {todo : Consumer → Option Consumer.Action}
    (htodo : ∀ k a, todo k = some a → a.isTask = true) {a : Consumer.Action}
    (hnext : w.firstOf todo = some (c, a)) : a.isTask = true := by
  obtain ⟨⟨consumer, i⟩, -, hsome⟩ := List.exists_of_findSome?_eq_some hnext
  obtain ⟨b, hb, heq⟩ := Option.map_eq_some_iff.mp hsome
  cases heq
  exact htodo consumer a hb

theorem isTask_of_stopping? {consumer : Consumer} {a : Consumer.Action}
    (hnext : consumer.stopping? = some a) : a.isTask = true := by
  rw [Consumer.stopping?] at hnext
  split at hnext
  next => cases hnext; rfl
  next =>
    obtain ⟨d, -, rfl⟩ := Option.map_eq_some_iff.mp hnext
    rfl

theorem isTask_of_draining? {consumer : Consumer} {a : Consumer.Action}
    (hnext : consumer.draining? = some a) : a.isTask = true := by
  rw [Consumer.draining?] at hnext
  split at hnext
  next => cases hnext
  next =>
    obtain ⟨d, -, rfl⟩ := Option.map_eq_some_iff.mp hnext
    rfl

theorem isTask_of_taking? {consumer : Consumer} {a : Consumer.Action}
    (hnext : consumer.taking? = some a) : a.isTask = true := by
  rw [Consumer.taking?] at hnext
  split at hnext
  next => cases hnext
  next =>
    obtain ⟨d, -, rfl⟩ := Option.map_eq_some_iff.mp hnext
    rfl

theorem isTask_of_resuming? {consumer : Consumer} {a : Consumer.Action}
    (hnext : consumer.resuming? k = some a) : a.isTask = true := by
  rw [Consumer.resuming?] at hnext
  split at hnext
  next =>
    split at hnext <;> cases hnext
    rfl
  next =>
    split at hnext <;> cases hnext
    rfl
  next => cases hnext

/-- Only tasks do something by themselves. -/
theorem isTask_of_next? {a : Consumer.Action} (hnext : w.next? = some (c, a)) :
    a.isTask = true := by
  simp only [next?, Option.orElse_eq_orElse, Option.orElse_eq_or, Option.or_eq_some_iff] at hnext
  obtain hstopping | ⟨-, hdraining | ⟨-, hresuming | ⟨-, htaking⟩⟩⟩ := hnext
  · exact isTask_of_firstOf (fun _ _ => isTask_of_stopping?) hstopping
  · exact isTask_of_firstOf (fun _ _ => isTask_of_draining?) hdraining
  · obtain ⟨⟨i, k⟩, -, hsome⟩ := List.exists_of_findSome?_eq_some hresuming
    obtain ⟨b, hb, heq⟩ := Option.map_eq_some_iff.mp hsome
    cases heq
    obtain ⟨consumer, -, hresuming⟩ := Option.bind_eq_some_iff.mp hb
    exact isTask_of_resuming? hresuming
  · exact isTask_of_firstOf (fun _ _ => isTask_of_taking?) htaking

theorem works_settleFor (effort : Nat) (w : World) : w.Works (w.settleFor effort) := by
  induction effort generalizing w with
  | zero => exact .refl w
  | succ effort ih =>
      rw [settleFor]
      split
      next hnext => exact (works_perform w _ (isTask_of_next? hnext)).trans (ih _)
      next => exact .refl w

/-- Routines of their own do nothing to the intake when they stop. -/
theorem works_heed (w : World) (r : Nat) : w.Works (w.heed r) := by
  apply Works.of_intake_eq
  rw [heed]
  split
  next => split <;> rfl
  next => rfl

theorem works_settle (w : World) : w.Works w.settle :=
  (works_foldl works_heed _ w).trans (works_settleFor ..)

/-! ## Time -/

theorem works_tick (w : World) (r : Nat) : w.Works (w.tick r) := by
  rw [tick]
  split
  next =>
    have hcleaned : w.Works w.cleanup := .of_perform (a := .limit (.cleanup _)) rfl rfl
    exact hcleaned.trans (.of_intake_eq rfl)
  next => exact .refl w

theorem works_fire (w : World) (alarm : Alarm) : w.Works (w.fire alarm) := by
  cases alarm with
  | callEnds c k call => exact works_endCall w c k call
  | wake c k => exact works_wake w c k
  | tick r => exact works_tick w r
  | finish r =>
      apply Works.of_intake_eq
      rw [fire, finishRoutine]
      split <;> rfl

theorem works_catchUp (w : World) : w.Works w.catchUp := by
  rw [catchUp]
  have hfired : ∀ (w : World) (t : Timer), w.Works (w.fire t.alarm).settle :=
    fun w t => (works_fire w t.alarm).trans (works_settle _)
  have hkept : w.Works { w with timers := (w.timers.partition fun t => t.due ≤ w.clock).2 } :=
    .of_intake_eq rfl
  exact hkept.trans ((works_foldl hfired _ _).trans (works_settle _))

theorem works_elapse (time : Nat) (w : World) : w.Works (w.elapse time) := by
  fun_induction elapse time w with
  | case1 => exact .refl _
  | case2 time w _ after stride _ => exact (works_catchUp w).trans (.of_intake_eq rfl)
  | case3 time w _ after stride _ ih =>
      exact (works_catchUp w).trans ((Works.of_intake_eq rfl).trans ih)

theorem works_abort (w : World) : w.Works w.abort := by
  apply works_foldl
  intro w t
  cases t with
  | worker c k => exact (works_act w c rfl).trans (.of_intake_eq rfl)
  | drain c d => exact works_act w c rfl
  | routine r =>
      apply Works.of_intake_eq
      rw [abortTask]
      split <;> rfl

/-- The signal is sent to every consumer, and what routines hear of it does
nothing to the intake. -/
theorem intake_sendSignal (w : World) :
    w.sendSignal.intake = w.intake.run
      ((List.range w.broker.consumers.length).map fun c => .act c .signal) := by
  have hfold (items : List Nat) (w : World) :
      (items.foldl (fun w c => w.act c .signal) w).intake =
        w.intake.run (items.map fun c => .act c .signal) := by
    induction items generalizing w with
    | nil => rfl
    | cons c rest ih =>
        rw [List.foldl_cons, ih, intake_act]
        rfl
  exact hfold _ w

end World

end Courier

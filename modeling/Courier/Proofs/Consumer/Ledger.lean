import Courier.Proofs.Consumer.Journey

/-! # What a step does to one event

`Advance` is the life cycle of an accepted event by itself, without queues and
workers. Whatever a consumer does, each of its events stays as it is or takes
one step of the life cycle.
-/

namespace Courier

namespace Phase

/-- The event waits in the hands of a worker, for the end of a pause or for
room. -/
def waits : Phase → Bool
  | .backingOff _ | .requeueing | .deadLettering => true
  | _ => false

/-- The event is in the hands of a worker that runs. -/
def inHand (phase : Phase) : Bool :=
  phase = .handling || phase.waits

end Phase

/-- The life cycle of an event: phases and events before and after, and what
happens between them. -/
inductive Advance (p : RetryPolicy) : Phase → Event → List Happening → Phase → Event → Prop where
  | stay {phase : Phase} {e : Event} : Advance p phase e [] phase e
  | take {e : Event} : Advance p .queued e [.called] .handling e
  | deliver {e : Event} :
      Advance p .handling e [.settled .delivered] (.settled .delivered) e
  | backOff {e : Event} {delay : Duration}
      (hnext : p.next e.retries = .retry (some delay)) :
      Advance p .handling e [.failed, .waiting delay] (.backingOff delay) e
  | retryAtOnce {e : Event} (hnext : p.next e.retries = .retry none) :
      Advance p .handling e [.failed] .requeueing e.again
  | exhaust {e : Event} (hnext : p.next e.retries = .deadLetter) :
      Advance p .handling e [.failed] .deadLettering e
  | wake {e : Event} {delay : Duration} : Advance p (.backingOff delay) e [] .requeueing e.again
  | requeue {e : Event} : Advance p .requeueing e [.requeued] .queued e
  | bury {e : Event} : Advance p .deadLettering e [.buried] .buried e
  | drain {e : Event} :
      Advance p .buried e [.settled .deadLettered] (.settled .deadLettered) e
  | abandon {phase : Phase} {e : Event} (hwaits : phase.waits = true) :
      Advance p phase e [.settled .abandoned] (.settled .abandoned) e
  | lose {phase : Phase} {e : Event} (hinHand : phase.inHand = true) : Advance p phase e [] .lost e

namespace Stage

variable {stage : Stage} {e : Event}

theorem view?_of_waiting? (hwaiting : stage.waiting? = some e) :
    ∃ phase, stage.view? = some (phase, e) ∧ phase.waits = true := by
  cases stage <;> cases hwaiting
  all_goals exact ⟨_, rfl, rfl⟩

theorem view?_of_event? (hrunning : stage.isOver = false) (hevent : stage.event? = some e) :
    ∃ phase, stage.view? = some (phase, e) ∧ phase.inHand = true := by
  cases stage <;> cases hevent <;> cases hrunning
  all_goals exact ⟨_, rfl, rfl⟩

end Stage

namespace Consumer

variable {c c' : Consumer} {a : Action} {moved : List Counter}

section Held

variable {w : Nat} {worker : Worker} {stage : Stage}

theorem view?_held (hworker : c.workers[w]? = some worker) (last : Event) :
    c.view? last (.held w) = worker.stage.view? := by
  rw [view?, hworker, Option.bind_some]

theorem view?_held_self (hworkers : c'.workers = (c.setStage w stage).workers)
    (hworker : c.workers[w]? = some worker) (last : Event) :
    c'.view? last (.held w) = stage.view? :=
  view?_held (by rw [hworkers, setStage_workers_self c w stage hworker]) last

theorem view?_held_of_ne (hworkers : c'.workers = (c.setStage w stage).workers) {k : Nat}
    (hne : k ≠ w) (last : Event) : c'.view? last (.held k) = c.view? last (.held k) := by
  rw [view?, hworkers, setStage_workers_of_ne c w stage hne]
  rfl

theorem news_fail (hworkers : c'.workers = (c.setStage w stage).workers)
    (hworker : c.workers[w]? = some worker) :
    (Spot.held w).news c' (.fail w) = .failed :: stage.delay?.toList.map .waiting := by
  simp only [Spot.news, if_true, pause?, hworkers, setStage_workers_self c w stage hworker,
    Option.bind_some]

end Held

/-- Stays where it is seen, or takes one step of the life cycle. -/
def Advances (before after : Consumer) (a : Action) (spot : Spot) (phase : Phase) (e : Event) :
    Prop :=
  ∃ phase' e', after.view? e (spot.next before a) = some (phase', e') ∧
    Advance before.config.retry phase e (spot.news after a) phase' e'

theorem Step.advances_queued (hstep : Step c a c' moved) {i : Nat} {e : Event}
    (hevent : c.queue[i]? = some e) : Advances c c' a (.queued i) .queued e := by
  have hview : c.view? e (.queued i) = some (.queued, e) := by rw [view?, hevent]; rfl
  have hlt : i < c.queue.length := (List.getElem?_eq_some_iff.mp hevent).1
  cases hstep with
  | accept hroom =>
      refine ⟨.queued, e, ?_, .stay⟩
      rw [← hview]
      simp [Spot.next, view?, List.getElem?_append_left hlt]
  | @take w _ first rest hworker hqueue =>
      cases i with
      | zero =>
          obtain rfl : first = e := by simpa [hqueue] using hevent
          exact ⟨.handling, first, view?_held_self rfl hworker first, .take⟩
      | succ i =>
          refine ⟨.queued, e, ?_, .stay⟩
          rw [← hview]
          simp [Spot.next, view?, hqueue]
  | requeue hworker hroom =>
      refine ⟨.queued, e, ?_, .stay⟩
      rw [← hview]
      simp [Spot.next, view?, List.getElem?_append_left hlt]
  | _ => exact ⟨.queued, e, hview, .stay⟩

theorem Step.advances_buried (hstep : Step c a c' moved) {i : Nat} {e : Event}
    (hevent : c.dlq[i]? = some e) : Advances c c' a (.buried i) .buried e := by
  have hview : c.view? e (.buried i) = some (.buried, e) := by rw [view?, hevent]; rfl
  have hlt : i < c.dlq.length := (List.getElem?_eq_some_iff.mp hevent).1
  cases hstep with
  | bury hworker hroom =>
      refine ⟨.buried, e, ?_, .stay⟩
      rw [← hview]
      simp [Spot.next, view?, List.getElem?_append_left hlt]
  | drain hdrain hdlq =>
      cases i with
      | zero => exact ⟨.settled .deadLettered, e, rfl, .drain⟩
      | succ i =>
          refine ⟨.buried, e, ?_, .stay⟩
          rw [← hview]
          simp [Spot.next, view?, hdlq]
  | _ => exact ⟨.buried, e, hview, .stay⟩

/-- An action of one worker moves its own event and does not touch the event of
another. -/
theorem advances_held_of_worker {w k : Nat} {signalled : Bool} {stage stage' : Stage}
    {phase : Phase} {e : Event} (hview : c.view? e (.held k) = some (phase, e))
    (hworkers : c'.workers = (c.setStage w stage').workers)
    (hworker : c.workers[w]? = some ⟨stage, signalled⟩)
    (hnext : k ≠ w → (Spot.held k).next c a = .held k)
    (hnews : k ≠ w → (Spot.held k).news c' a = [])
    (hself : stage.view? = some (phase, e) → Advances c c' a (.held w) phase e) :
    Advances c c' a (.held k) phase e := by
  by_cases hk : k = w
  · subst k
    rw [view?_held hworker] at hview
    exact hself hview
  · refine ⟨phase, e, ?_, ?_⟩
    · rw [hnext hk, view?_held_of_ne hworkers hk, hview]
    · rw [hnews hk]
      exact .stay

theorem advances_of_fail {w : Nat} {signalled : Bool} {stage : Stage} {phase : Phase}
    {e e' : Event} (hworkers : c'.workers = (c.setStage w stage).workers)
    (hworker : c.workers[w]? = some ⟨.handling e, signalled⟩)
    (hstage : stage.view? = some (phase, e'))
    (hadvance : Advance c.config.retry .handling e
      (.failed :: stage.delay?.toList.map .waiting) phase e') :
    Advances c c' (.fail w) (.held w) .handling e := by
  refine ⟨phase, e', (view?_held_self hworkers hworker e).trans hstage, ?_⟩
  rw [news_fail hworkers hworker]
  exact hadvance

theorem Step.advances_held (hstep : Step c a c' moved) {k : Nat} {phase : Phase} {e : Event}
    (hview : c.view? e (.held k) = some (phase, e)) : Advances c c' a (.held k) phase e := by
  cases hstep with
  | start =>
      refine ⟨phase, e, ?_, .stay⟩
      have hlt : k < c.workers.length := by
        obtain ⟨worker, hworker, _⟩ := Option.bind_eq_some_iff.mp hview
        exact (List.getElem?_eq_some_iff.mp hworker).1
      rw [← hview]
      simp [Spot.next, view?, Consumer.start, List.getElem?_append_left hlt]
  | signal =>
      refine ⟨phase, e, ?_, .stay⟩
      rw [← hview]
      simp only [Spot.next, view?, Consumer.signal, List.getElem?_map, Option.bind_map]
      rfl
  | take hworker =>
      refine advances_held_of_worker hview rfl hworker (fun _ => rfl) (fun _ => rfl) ?_
      intro hidle
      cases hidle
  | succeed hworker =>
      refine advances_held_of_worker hview rfl hworker (fun hk => if_neg hk)
        (fun hk => if_neg hk) ?_
      intro hhandling
      cases hhandling
      refine ⟨.settled .delivered, e, ?_, ?_⟩
      · simp [Spot.next, view?]
      · simpa [Spot.news] using Advance.deliver
  | backOff hworker hnext =>
      refine advances_held_of_worker hview rfl hworker (fun _ => rfl) (fun hk => if_neg hk) ?_
      intro hhandling
      cases hhandling
      exact advances_of_fail rfl hworker rfl (.backOff hnext)
  | retryAtOnce hworker hnext =>
      refine advances_held_of_worker hview rfl hworker (fun _ => rfl) (fun hk => if_neg hk) ?_
      intro hhandling
      cases hhandling
      exact advances_of_fail rfl hworker rfl (.retryAtOnce hnext)
  | exhaust hworker hnext =>
      refine advances_held_of_worker hview rfl hworker (fun _ => rfl) (fun hk => if_neg hk) ?_
      intro hhandling
      cases hhandling
      exact advances_of_fail rfl hworker rfl (.exhaust hnext)
  | wake hworker =>
      refine advances_held_of_worker hview rfl hworker (fun _ => rfl) (fun _ => rfl) ?_
      intro hpausing
      cases hpausing
      exact ⟨.requeueing, e.again, view?_held_self rfl hworker e, .wake⟩
  | requeue hworker =>
      refine advances_held_of_worker hview rfl hworker (fun hk => if_neg hk)
        (fun hk => if_neg hk) ?_
      intro hrequeueing
      cases hrequeueing
      refine ⟨.queued, e, ?_, ?_⟩
      · simp [Spot.next, view?]
      · simpa [Spot.news] using Advance.requeue
  | bury hworker =>
      refine advances_held_of_worker hview rfl hworker (fun hk => if_neg hk)
        (fun hk => if_neg hk) ?_
      intro hburying
      cases hburying
      refine ⟨.buried, e, ?_, ?_⟩
      · simp [Spot.next, view?]
      · simpa [Spot.news] using Advance.bury
  | stopIdle hworker =>
      refine advances_held_of_worker hview rfl hworker (fun hk => if_neg hk)
        (fun hk => if_neg hk) ?_
      intro hidle
      cases hidle
  | abandon hworker hwaiting =>
      refine advances_held_of_worker hview rfl hworker (fun hk => if_neg hk)
        (fun hk => if_neg hk) ?_
      intro hstage
      obtain ⟨_, hwaited, hwaits⟩ := Stage.view?_of_waiting? hwaiting
      cases hwaited.symm.trans hstage
      refine ⟨.settled .abandoned, e, ?_, ?_⟩
      · simp [Spot.next, view?]
      · simpa [Spot.news] using Advance.abandon hwaits
  | lose hworker hrunning hevent =>
      refine advances_held_of_worker hview rfl hworker (fun _ => rfl) (fun _ => rfl) ?_
      intro hstage
      obtain ⟨_, hheld, hinHand⟩ := Stage.view?_of_event? hrunning hevent
      cases hheld.symm.trans hstage
      exact ⟨.lost, e, view?_held_self rfl hworker e, .lose hinHand⟩
  | loseIdle hworker =>
      refine advances_held_of_worker hview rfl hworker (fun _ => rfl) (fun _ => rfl) ?_
      intro hidle
      cases hidle
  | _ => exact ⟨phase, e, hview, .stay⟩

/-- Whatever a consumer does, an event stays as it is or takes one step of its
life cycle. -/
theorem Step.advances (hstep : Step c a c' moved) {spot : Spot} {phase : Phase} {e : Event}
    (hview : c.view? e spot = some (phase, e)) : Advances c c' a spot phase e := by
  cases spot with
  | queued i =>
      obtain ⟨e', hevent, heq⟩ := Option.map_eq_some_iff.mp hview
      cases heq
      exact hstep.advances_queued hevent
  | held w => exact hstep.advances_held hview
  | buried i =>
      obtain ⟨e', hevent, heq⟩ := Option.map_eq_some_iff.mp hview
      cases heq
      exact hstep.advances_buried hevent
  | settled fate =>
      cases hview
      exact ⟨.settled fate, e, by cases a <;> rfl, by cases a <;> exact .stay⟩

theorem view?_of_view? {last e : Event} {spot : Spot} {phase : Phase}
    (hview : c.view? last spot = some (phase, e)) : c.view? e spot = some (phase, e) := by
  cases spot with
  | settled fate =>
      cases hview
      rfl
  | _ => exact hview

end Consumer

open Consumer (Action Step)

namespace Journey

variable {c c' : Consumer} {a : Action} {moved : List Counter} {j : Journey}

/-- The journey knows where its event is and how far it has come. -/
def Located (c : Consumer) (j : Journey) : Prop :=
  c.view? j.event j.spot = some (j.phase, j.event)

theorem begin_located (hstep : Step c a c' moved) {e : Event} (hadmitted : c.admitted? a = some e) :
    (begin c e).Located c' := by
  cases hstep with
  | accept =>
      rw [Consumer.admitted?_offer, if_pos (by assumption), Option.some.injEq] at hadmitted
      subst e
      simp [Located, begin, Consumer.view?]
  | refuse hfull =>
      rw [Consumer.admitted?_offer, if_neg (Nat.not_lt.mpr hfull)] at hadmitted
      cases hadmitted
  | _ => cases hadmitted

theorem Located.follow (hlocated : j.Located c) (hstep : Step c a c' moved) :
    (j.follow c c' a).Located c' ∧
      Advance c.config.retry j.phase j.event (j.spot.news c' a)
        (j.follow c c' a).phase (j.follow c c' a).event := by
  obtain ⟨phase, e, hview, hadvance⟩ := hstep.advances hlocated
  have hfollow : j.follow c c' a =
      ⟨j.offered, j.spot.next c a, phase, e, j.past ++ j.spot.news c' a⟩ := by
    simp only [Journey.follow, hview, Option.getD_some]
  rw [hfollow]
  exact ⟨Consumer.view?_of_view? hview, hadvance⟩

/-- The journey of a settled event has come to its end. -/
theorem Located.follow_settled (hlocated : j.Located c) {fate : Fate}
    (hsettled : j.spot = .settled fate) (c' : Consumer) (a : Action) :
    j.follow c c' a = j := by
  obtain ⟨offered, spot, phase, e, past⟩ := j
  subst hsettled
  obtain rfl : Phase.settled fate = phase :=
    congrArg Prod.fst (Option.some.inj hlocated)
  have hnext : (Spot.settled fate).next c a = .settled fate := by cases a <;> rfl
  have hnews : (Spot.settled fate).news c' a = [] := by cases a <;> rfl
  simp only [Journey.follow, hnext, hnews, List.append_nil]
  rfl

end Journey

namespace Ledger

variable {l l' : Ledger} {c : Consumer} {actions : List Action}

theorem run?_cons_eq_some_iff {a : Action} {rest : List Action} :
    l.run? (a :: rest) = some l' ↔
      ∃ after moved, Step l.consumer a after moved ∧ (l.advance a after).run? rest = some l' := by
  constructor
  · intro hrun
    obtain ⟨⟨after, moved⟩, hstep, hrest⟩ := Option.bind_eq_some_iff.mp hrun
    exact ⟨after, moved, .of_step? hstep, hrest⟩
  · rintro ⟨after, moved, hstep, hrest⟩
    rw [run?, hstep.step?_eq, Option.bind_some]
    exact hrest

theorem run?_induction {P : Ledger → Prop} (hrun : l.run? actions = some l') (hstart : P l)
    (hstep : ∀ before a after moved, P before → Step before.consumer a after moved →
      P (before.advance a after)) : P l' := by
  induction actions generalizing l with
  | nil =>
      cases hrun
      exact hstart
  | cons a rest ih =>
      obtain ⟨after, moved, hfirst, hrest⟩ := run?_cons_eq_some_iff.mp hrun
      exact ih hrest (hstep l a after moved hstart hfirst)

/-- The ledger only looks on. -/
theorem exists_run? (hrun : l.consumer.run? actions = some c) :
    ∃ l', l.run? actions = some l' ∧ l'.consumer = c := by
  induction actions generalizing l with
  | nil =>
      cases hrun
      exact ⟨l, rfl, rfl⟩
  | cons a rest ih =>
      obtain ⟨after, moved, hstep, hrest⟩ := Consumer.run?_cons_eq_some_iff.mp hrun
      obtain ⟨l', hl', hconsumer⟩ := ih (l := l.advance a after) hrest
      exact ⟨l', run?_cons_eq_some_iff.mpr ⟨after, moved, hstep, hl'⟩, hconsumer⟩

/-- There is a journey for each event that was accepted, and no other. -/
theorem offered_run? (hrun : l.run? actions = some l') :
    l'.journeys.map Journey.offered =
      l.journeys.map Journey.offered ++ l.consumer.accepted actions := by
  induction actions generalizing l with
  | nil =>
      cases hrun
      simp [Consumer.accepted]
  | cons a rest ih =>
      obtain ⟨after, moved, hstep, hrest⟩ := run?_cons_eq_some_iff.mp hrun
      rw [ih hrest, Consumer.accepted_cons hstep]
      simp only [advance, List.map_append, List.map_map, List.append_assoc]
      congr 2
      exact List.map_id _

/-- Every journey of the ledger knows where its event is. -/
def Located (l : Ledger) : Prop :=
  ∀ j ∈ l.journeys, j.Located l.consumer

theorem create_located (name : String) (config : ConsumerConfig) :
    (create name config).Located := by
  intro j hj
  cases hj

theorem Located.advance (hlocated : l.Located) {a : Action} {moved : List Counter}
    (hstep : Step l.consumer a c moved) : (l.advance a c).Located := by
  intro j hj
  rcases List.mem_append.mp hj with hold | hnew
  · obtain ⟨k, hk, rfl⟩ := List.mem_map.mp hold
    exact ((hlocated k hk).follow hstep).1
  · obtain ⟨e, he, rfl⟩ := List.mem_map.mp hnew
    exact Journey.begin_located hstep (Option.mem_toList.mp he)

theorem located_run? (hrun : l.run? actions = some l') (hlocated : l.Located) : l'.Located :=
  run?_induction hrun hlocated fun _ _ _ _ hbefore hstep => hbefore.advance hstep

/-- What the life cycle keeps, the journeys of a run keep. -/
theorem forall_journeys_run? {P : Journey → Prop} (hrun : l.run? actions = some l')
    (hlocated : l.Located) (hstart : ∀ j ∈ l.journeys, P j)
    (hbegin : ∀ c e, P (Journey.begin c e))
    (hadvance : ∀ j k news, P j →
      Advance l.consumer.config.retry j.phase j.event news k.phase k.event →
      k.offered = j.offered → k.past = j.past ++ news → P k) :
    ∀ j ∈ l'.journeys, P j := by
  have hall : l'.Located ∧ l'.consumer.config = l.consumer.config ∧ ∀ j ∈ l'.journeys, P j := by
    apply run?_induction (P := fun after => after.Located ∧
      after.consumer.config = l.consumer.config ∧ ∀ j ∈ after.journeys, P j) hrun
      ⟨hlocated, rfl, hstart⟩
    rintro before a after moved ⟨hbefore, hconfig, hjourneys⟩ hstep
    refine ⟨hbefore.advance hstep, hstep.config_eq.trans hconfig, ?_⟩
    intro j hj
    rcases List.mem_append.mp hj with hold | hnew
    · obtain ⟨k, hk, rfl⟩ := List.mem_map.mp hold
      have hfollow := ((hbefore k hk).follow hstep).2
      rw [hconfig] at hfollow
      exact hadvance k _ _ (hjourneys k hk) hfollow rfl rfl
    · obtain ⟨e, _, rfl⟩ := List.mem_map.mp hnew
      exact hbegin _ e
  exact hall.2.2

/-- A journey that has come to its end does not change any more. -/
theorem getElem?_run?_of_settled (hrun : l.run? actions = some l') (hlocated : l.Located)
    {t : Nat} {j : Journey} {fate : Fate} (hj : l.journeys[t]? = some j)
    (hsettled : j.spot = .settled fate) : l'.journeys[t]? = some j := by
  induction actions generalizing l with
  | nil =>
      cases hrun
      exact hj
  | cons a rest ih =>
      obtain ⟨after, moved, hstep, hrest⟩ := run?_cons_eq_some_iff.mp hrun
      apply ih hrest (hlocated.advance hstep)
      have hlt : t < (l.journeys.map (Journey.follow l.consumer after a)).length := by
        rw [List.length_map]
        exact (List.getElem?_eq_some_iff.mp hj).1
      rw [advance, List.getElem?_append_left hlt, List.getElem?_map, hj, Option.map_some,
        (hlocated j (List.mem_of_getElem? hj)).follow_settled hsettled]

end Ledger

end Courier

import Courier.Proofs.Broker.Totals
import Courier.Proofs.Intake.Evolution

/-! # What callers are told

A request that is queued comes back with a report of what it has published. As
long as nobody else publishes, the reports account for everything that consumers
have accepted or refused, together with the reports that requests are about to
come back with.
-/

namespace Courier

namespace Progress

/-- The report that the request came back with. -/
def report? : Progress → Option PublishReport
  | .done _ (.ok (.queued _ report)) => some report
  | _ => none

/-- The report of a request that still publishes, as far as it has come. -/
def draft? : Progress → Option PublishReport
  | .publishing _ _ _ report => some report
  | _ => none

/-- What the request has published so far. -/
def tally (p : Progress) : PublishReport :=
  p.report?.getD (p.draft?.getD .zero)

end Progress

namespace Intake

/-- Others publish, or bring consumers of their own. -/
def Action.isForeign : Action → Bool
  | .publish _ _ | .addConsumer _ _ | .subscribe _ _ => true
  | .act _ a => a.isOffer
  | _ => false

variable {s : Intake} {r : Request} {now : Moment} {p : Progress} {after : Intake × Progress}
  {a : Action}

/-- Only consumers that are there are listed. -/
def Listed (s : Intake) : Prop :=
  ∀ i, s.broker.Lists i → i < s.broker.consumers.length

theorem Stride.length_consumers (hstride : Stride s r now p after) :
    after.1.broker.consumers.length = s.broker.consumers.length := by
  cases hstride with
  | publish => exact Broker.length_consumers_offerAll ..
  | ask =>
      rw [admitOne_broker]
      split <;> rfl
  | _ => rfl

/-- A stride adds to its report what it adds to the counters of consumers. -/
theorem Stride.tally (hstride : Stride s r now p after) (hlisted : s.Listed) :
    after.1.broker.sumOf Stats.accepted + p.tally.enqueued =
        s.broker.sumOf Stats.accepted + after.2.tally.enqueued ∧
      after.1.broker.sumOf Stats.dropped + p.tally.dropped =
        s.broker.sumOf Stats.dropped + after.2.tally.dropped := by
  cases hstride with
  | @publish n channels c rest report =>
      obtain ⟨haccepted, hdropped⟩ := Broker.sumOf_offerAll s.broker (eventFor n c)
        (s.broker.subscribers c.topic) fun i hmem => hlisted i ⟨c.topic, hmem⟩
      simp only [Intake.publish, Broker.publish, Progress.tally, Progress.report?, Progress.draft?,
        Option.getD_none, Option.getD_some, PublishReport.add, haccepted, hdropped]
      omega
  | ask =>
      rw [Broker.sumOf, Broker.sumOf, admitOne_broker]
      split <;> exact ⟨rfl, rfl⟩
  | _ => exact ⟨rfl, rfl⟩

theorem length_consumers_perform (hother : a.isSubmit = false) (hown : a.isForeign = false) :
    (s.perform a).broker.consumers.length = s.broker.consumers.length := by
  cases a with
  | submit => cases hother
  | publish | addConsumer | subscribe => cases hown
  | act c x =>
      rw [perform]
      cases hact : s.broker.act? c x with
      | none => rfl
      | some b =>
          obtain ⟨k, k', moved, -, -, hconsumers⟩ := Broker.exists_step_of_act? hact
          simp [withBroker, hconsumers]
  | _ => rfl

/-- Where nobody else publishes, nothing is accepted or refused beside what
requests publish. -/
theorem sumOf_perform (hother : a.isSubmit = false) (hown : a.isForeign = false)
    (hbalanced : s.broker.Each Consumer.Balanced) :
    (s.perform a).broker.sumOf Stats.accepted = s.broker.sumOf Stats.accepted ∧
      (s.perform a).broker.sumOf Stats.dropped = s.broker.sumOf Stats.dropped := by
  cases a with
  | submit => cases hother
  | publish | addConsumer | subscribe => cases hown
  | act c x =>
      rw [perform]
      cases hact : s.broker.act? c x with
      | none => exact ⟨rfl, rfl⟩
      | some b => exact Broker.sumOf_act? hact hbalanced hown
  | _ => exact ⟨rfl, rfl⟩

end Intake

namespace Desk

def Action.isForeign : Action → Bool
  | .around a _ => a.isForeign
  | _ => false

/-- The reports that requests came back with. -/
def reports (d : Desk) : List PublishReport :=
  d.tasks.filterMap fun task => task.progress.report?

/-- The reports of requests that still publish, as far as they have come. -/
def drafts (d : Desk) : List PublishReport :=
  d.tasks.filterMap fun task => task.progress.draft?

/-- What requests have published accounts for what consumers have counted. -/
structure Accounted (d : Desk) : Prop where
  balanced : d.intake.broker.Each Consumer.Balanced
  listed : d.intake.Listed
  enqueued : (d.tasks.map fun task => task.progress.tally.enqueued).sum =
    d.intake.broker.sumOf Stats.accepted
  dropped : (d.tasks.map fun task => task.progress.tally.dropped).sum =
    d.intake.broker.sumOf Stats.dropped

variable {d : Desk} {a : Action} {actions : List Action}

theorem draft?_of_report? {p : Progress} {report : PublishReport}
    (hreport : p.report? = some report) : p.draft? = none := by
  cases p with
  | publishing => cases hreport
  | _ => rfl

/-- A request has a report or a draft, or has published nothing. -/
theorem sum_reports_append_drafts (d : Desk) (f : PublishReport → Nat) (hzero : f .zero = 0) :
    ((d.reports ++ d.drafts).map f).sum =
      (d.tasks.map fun task => f task.progress.tally).sum := by
  rw [reports, drafts, List.map_append, List.sum_append]
  induction d.tasks with
  | nil => rfl
  | cons task rest ih =>
      rw [List.map_cons, List.sum_cons, ← ih, Progress.tally]
      cases hreport : task.progress.report? with
      | some report =>
          have hdraft := draft?_of_report? hreport
          simp [hreport, hdraft, Nat.add_assoc]
      | none =>
          cases hdraft : task.progress.draft? with
          | none => simp [hreport, hdraft, hzero]
          | some draft => simp [hreport, hdraft, Nat.add_left_comm]

theorem Accounted.advance {t : Nat} {task : Task} (h : d.Accounted)
    (htask : d.tasks[t]? = some task) (now : Moment) : (d.advance t task now).Accounted := by
  have hstride := Intake.stride_stride d.intake task.request now task.progress
  obtain ⟨henqueued, hdropped⟩ := hstride.tally h.listed
  generalize hafter : d.intake.stride task.request now task.progress = after at *
  have hintake : (d.advance t task now).intake = after.1 := congrArg Prod.fst hafter
  have htasks : (d.advance t task now).tasks = d.tasks.set t ⟨task.request, after.2⟩ :=
    congrArg (fun after : Intake × Progress => d.tasks.set t ⟨task.request, after.2⟩) hafter
  have hset (f : PublishReport → Nat) :
      ((d.tasks.set t ⟨task.request, after.2⟩).map fun task => f task.progress.tally).sum +
          f task.progress.tally =
        (d.tasks.map fun task => f task.progress.tally).sum + f after.2.tally :=
    Consumer.sum_map_set (fun task => f task.progress.tally) _ htask
  have hsetEnqueued := hset PublishReport.enqueued
  have hsetDropped := hset PublishReport.dropped
  have hbeforeEnqueued := h.enqueued
  have hbeforeDropped := h.dropped
  constructor
  · rw [hintake]
    exact hstride.each Consumer.isInvariant_balanced h.balanced
  · rw [hintake]
    intro i hlists
    rw [hstride.length_consumers]
    exact h.listed i (hlists.of_topics_eq hstride.topics_eq.symm)
  · rw [htasks, hintake]
    omega
  · rw [htasks, hintake]
    omega

theorem Accounted.around {b : Intake.Action} (h : d.Accounted) (hother : b.isSubmit = false)
    (hown : b.isForeign = false) : Accounted
      { d with
        intake := d.intake.perform b
        published := d.published ++ d.intake.offersAround b } := by
  obtain ⟨haccepted, hdropped⟩ := Intake.sumOf_perform hother hown h.balanced
  have hlisting : b.isSubscription = false := by
    cases b <;> first | rfl | cases hown
  constructor
  · exact Intake.each_perform hother Consumer.isInvariant_balanced h.balanced
  · intro i hlists
    rw [Intake.length_consumers_perform hother hown]
    exact h.listed i (Intake.lists_of_perform hother hlisting hlists)
  · exact h.enqueued.trans haccepted.symm
  · exact h.dropped.trans hdropped.symm

theorem Accounted.perform (h : d.Accounted) (hown : a.isForeign = false) :
    (d.perform a).Accounted := by
  cases a with
  | arrive r =>
      refine ⟨h.balanced, h.listed, ?_, ?_⟩
      · simpa [perform, Progress.tally, Progress.report?, Progress.draft?, PublishReport.zero]
          using h.enqueued
      · simpa [perform, Progress.tally, Progress.report?, Progress.draft?, PublishReport.zero]
          using h.dropped
  | proceed t now =>
      rw [Desk.perform]
      split
      next task htask => exact h.advance htask now
      next => exact h
  | around b hother => exact h.around hother hown

/-- The accounts are right at any time, whatever else happens. -/
theorem accounted_run (h : d.Accounted) (hown : ∀ a ∈ actions, a.isForeign = false) :
    (d.run actions).Accounted := by
  induction actions generalizing d with
  | nil => exact h
  | cons a rest ih =>
      obtain ⟨hfirst, hrest⟩ := List.forall_mem_cons.mp hown
      exact ih (h.perform hfirst) hrest

/-- No consumer comes or goes. -/
theorem length_consumers_run (hown : ∀ a ∈ actions, a.isForeign = false) :
    (d.run actions).intake.broker.consumers.length = d.intake.broker.consumers.length := by
  induction actions generalizing d with
  | nil => rfl
  | cons a rest ih =>
      obtain ⟨hfirst, hrest⟩ := List.forall_mem_cons.mp hown
      refine (ih hrest).trans ?_
      cases a with
      | arrive => rfl
      | proceed t now =>
          rw [perform]
          split
          next task htask =>
            exact (Intake.stride_stride d.intake task.request now task.progress).length_consumers
          next => rfl
      | around b hother => exact Intake.length_consumers_perform hother hfirst

end Desk

end Courier

import Courier.Proofs.Broker.Readings
import Courier.Proofs.Intake.Desk

/-! # What requests say of the sink

A request is counted as a duplicate if that is its outcome, and a channel of it as
refused if the limiter has refused it. With what consumers count these are all
the measurements of a desk; the sink that they go to has no part in what happens.
-/

namespace Courier

namespace Progress

/-- The request was found to be a duplicate. -/
def isDuplicate : Progress → Bool
  | .done _ (.ok .duplicate) => true
  | _ => false

/-- The measurement that the outcome of a request stands for. -/
def readings (p : Progress) : List Measurement :=
  if p.isDuplicate then [⟨.duplicates, ""⟩] else []

end Progress

namespace Intake

def withMetrics (s : Intake) (m : Metrics) : Intake :=
  s.withBroker (s.broker.withMetrics m)

/-- The consumers by name that accept what a request publishes with its next
stride. -/
def takersNext (s : Intake) : Progress → List String
  | .publishing n _ (c :: _) _ => s.broker.takersOf (eventFor n c) (s.broker.subscribers c.topic)
  | _ => []

/-- The consumers by name that accept what others publish. -/
def takersAround (s : Intake) : Action → List String
  | .publish t e => s.broker.takersOf e (s.broker.subscribers t)
  | .act c a => s.broker.takers c a
  | _ => []

/-- The channel that the limiter refuses to a request in its next stride. -/
def refusedNext (s : Intake) (r : Request) (now : Moment) : Progress → List Channel
  | .asking (c :: _) _ =>
      if (s.admitOne r.notification.user c now.instant).2 then [] else [c]
  | _ => []

variable {s : Intake} {r : Request} {now : Moment} {p : Progress} {a : Action}

theorem admitOne_withMetrics (s : Intake) (user : String) (c : Channel) (now : Instant)
    (m : Metrics) :
    (s.withMetrics m).admitOne user c now =
      ((s.admitOne user c now).1.withMetrics
          (m.recordAll ((if (s.admitOne user c now).2 then [] else [c]).map refusal)),
        (s.admitOne user c now).2) := by
  unfold admitOne withMetrics
  dsimp only [withBroker]
  split <;> rfl

theorem exists_measured_receive (s : Intake) (r : Request) :
    ∃ xs,
      (∀ m, (s.withMetrics m).receive r =
        ((s.receive r).1.withMetrics (m.recordAll xs), (s.receive r).2)) ∧
      ((s.receive r).1.broker.readings ++ (s.receive r).2.readings).Perm
        (s.broker.readings ++ xs) := by
  have hseen (m : Metrics) : (s.withMetrics m).seen = s.seen := rfl
  cases hvalid : r.validate with
  | error e =>
      refine ⟨[], fun _ => ?_, ?_⟩
      · simp [receive, hvalid, Metrics.recordAll]
      · simp [receive, hvalid, Progress.readings, Progress.isDuplicate]
  | ok =>
      simp only [receive, hvalid, hseen]
      split
      next => exact ⟨[⟨.duplicates, ""⟩], fun _ => rfl, .refl _⟩
      next =>
        split
        next => exact ⟨[], fun _ => rfl, .refl _⟩
        next => exact ⟨[], fun _ => rfl, .refl _⟩

theorem write_withMetrics (s : Intake) (r : Request) (now : Moment) (admitted : List Channel)
    (m : Metrics) :
    (s.withMetrics m).write r now admitted =
      ((s.write r now admitted).1.withMetrics m, (s.write r now admitted).2) := by
  have hrepository : (s.withMetrics m).repository = s.repository := rfl
  simp only [write, hrepository]
  split
  next => rfl
  next => split <;> rfl

/-- Storing a notification is not measured. -/
theorem readings_write (s : Intake) (r : Request) (now : Moment) (admitted : List Channel) :
    (s.write r now admitted).1.broker.readings = s.broker.readings ∧
      (s.write r now admitted).2.readings = [] := by
  unfold write
  split
  next => exact ⟨rfl, rfl⟩
  next => split <;> exact ⟨rfl, rfl⟩

theorem exists_measured_publish (s : Intake) (n : Notification) (c : Channel) :
    ∃ xs,
      (∀ m, (s.withMetrics m).publish n c =
        ((s.publish n c).1.withMetrics (m.recordAll xs), (s.publish n c).2)) ∧
      ((s.publish n c).1.broker.readings ++
          (s.broker.takersOf (eventFor n c) (s.broker.subscribers c.topic)).map acceptance).Perm
        (s.broker.readings ++ xs) := by
  obtain ⟨xs, hoffers, hperm⟩ :=
    s.broker.exists_measured_offerAll (eventFor n c) (s.broker.subscribers c.topic)
  refine ⟨xs, fun m => ?_, hperm⟩
  have hpublish : (s.withMetrics m).broker.publish c.topic (eventFor n c) = _ := hoffers m
  rw [publish, hpublish]
  rfl

/-- What a request does is measured, whatever the sink. -/
theorem exists_measured_stride (s : Intake) (r : Request) (now : Moment) (p : Progress) :
    ∃ xs,
      (∀ m, (s.withMetrics m).stride r now p =
        ((s.stride r now p).1.withMetrics (m.recordAll xs), (s.stride r now p).2)) ∧
      ((s.stride r now p).1.broker.readings ++ (s.stride r now p).2.readings ++
          ((s.takersNext p).map acceptance ++ (s.refusedNext r now p).map refusal)).Perm
        (s.broker.readings ++ p.readings ++ xs) := by
  match p with
  | .arrived =>
      obtain ⟨xs, hreceive, hperm⟩ := s.exists_measured_receive r
      refine ⟨xs, hreceive, ?_⟩
      change ((s.receive r).1.broker.readings ++ (s.receive r).2.readings ++ ([] ++ [])).Perm
        (s.broker.readings ++ [] ++ xs)
      simpa only [List.append_nil] using hperm
  | .asking (c :: rest) admitted =>
      refine ⟨(s.refusedNext r now (.asking (c :: rest) admitted)).map refusal, fun m => ?_, ?_⟩
      · rw [stride, admitOne_withMetrics]
        rfl
      · have hreadings : (s.admitOne r.notification.user c now.instant).1.broker.readings =
            s.broker.readings := by
          rw [admitOne_broker]
          split <;> rfl
        rw [stride, hreadings]
        exact .refl _
  | .asking [] admitted =>
      obtain ⟨hreadings, hnone⟩ := s.readings_write r now admitted
      refine ⟨[], s.write_withMetrics r now admitted, ?_⟩
      rw [stride, hreadings, hnone]
      exact .refl _
  | .stored n channels => exact ⟨[], fun _ => rfl, .refl _⟩
  | .publishing n channels (c :: rest) report =>
      obtain ⟨xs, hpublish, hperm⟩ := s.exists_measured_publish n c
      refine ⟨xs, fun m => ?_, ?_⟩
      · rw [stride, hpublish]
        rfl
      · change ((s.publish n c).1.broker.readings ++ [] ++
            ((s.broker.takersOf (eventFor n c) (s.broker.subscribers c.topic)).map acceptance ++
              [])).Perm (s.broker.readings ++ [] ++ xs)
        simpa only [List.append_nil] using hperm
  | .publishing n channels [] report => exact ⟨[], fun _ => rfl, .refl _⟩
  | .done n result => exact ⟨[], fun _ => rfl, .refl _⟩

/-- What others do is measured, whatever the sink. -/
theorem exists_measured_perform (hother : a.isSubmit = false) :
    ∃ xs,
      (∀ m, (s.withMetrics m).perform a = (s.perform a).withMetrics (m.recordAll xs)) ∧
      ((s.perform a).broker.readings ++ (s.takersAround a).map acceptance).Perm
        (s.broker.readings ++ xs) := by
  cases a with
  | submit => cases hother
  | publish t e =>
      obtain ⟨xs, hoffers, hperm⟩ := s.broker.exists_measured_offerAll e (s.broker.subscribers t)
      refine ⟨xs, fun m => ?_, hperm⟩
      exact congrArg (fun after : Broker × PublishReport => s.withBroker after.1) (hoffers m)
  | act c a =>
      obtain ⟨xs, hact, hperm⟩ := s.broker.exists_measured_act c a
      exact ⟨xs, fun m => congrArg s.withBroker (hact m), hperm⟩
  | addConsumer name config =>
      refine ⟨[], fun _ => rfl, ?_⟩
      rw [perform, withBroker, Broker.readings_addConsumer]
      exact .refl _
  | subscribe t c =>
      refine ⟨[], fun m => congrArg s.withBroker (s.broker.subscribe_withMetrics t c m), ?_⟩
      have hconsumers : (s.broker.subscribe t c).1.consumers = s.broker.consumers := by
        unfold Broker.subscribe
        split <;> rfl
      rw [perform, withBroker, Broker.readings, hconsumers]
      exact .refl _
  | rejectWrites | saveAttempt | updateAttempt | limit | unsubscribeAll =>
      exact ⟨[], fun _ => rfl, .refl _⟩

end Intake

namespace Desk

def withMetrics (d : Desk) (m : Metrics) : Desk :=
  { d with intake := d.intake.withMetrics m }

/-- The measurements that statistics and outcomes stand for. -/
def readings (d : Desk) : List Measurement :=
  d.intake.broker.readings ++ d.tasks.flatMap fun task => task.progress.readings

/-- The consumers by name that accept an event by an action. -/
def takers (d : Desk) : Action → List String
  | .arrive _ => []
  | .proceed t _ => d.tasks[t]?.elim [] fun task => d.intake.takersNext task.progress
  | .around a _ => d.intake.takersAround a

/-- The channel that is refused to a request by an action. -/
def refused (d : Desk) : Action → List Channel
  | .proceed t now =>
      d.tasks[t]?.elim [] fun task => d.intake.refusedNext task.request now task.progress
  | _ => []

/-- What is seen of the actions of a run, in order. -/
def trace {α : Type} (see : Desk → Action → List α) (d : Desk) : List Action → List α
  | [] => []
  | a :: rest => see d a ++ (d.perform a).trace see rest

variable {d : Desk} {a : Action} {actions : List Action}

theorem exists_measured_advance {t : Nat} {task : Task} (htask : d.tasks[t]? = some task)
    (now : Moment) :
    ∃ xs,
      (∀ m, (d.withMetrics m).advance t task now =
        (d.advance t task now).withMetrics (m.recordAll xs)) ∧
      ((d.advance t task now).readings ++
          ((d.intake.takersNext task.progress).map acceptance ++
            (d.intake.refusedNext task.request now task.progress).map Intake.refusal)).Perm
        (d.readings ++ xs) := by
  obtain ⟨xs, hstride, hperm⟩ :=
    d.intake.exists_measured_stride task.request now task.progress
  refine ⟨xs, fun m => ?_, ?_⟩
  · have hafter : (d.withMetrics m).intake.stride task.request now task.progress = _ := hstride m
    rw [advance, hafter]
    rfl
  · have hreadings : (d.advance t task now).readings =
        (d.intake.stride task.request now task.progress).1.broker.readings ++
          (d.tasks.set t ⟨task.request,
              (d.intake.stride task.request now task.progress).2⟩).flatMap
            fun task => task.progress.readings := rfl
    rw [hreadings, readings]
    rw [List.perm_iff_count] at hperm ⊢
    intro x
    have hset := Consumer.sum_map_set (fun task : Task => task.progress.readings.count x)
      ⟨task.request, (d.intake.stride task.request now task.progress).2⟩ htask
    have hstep := hperm x
    simp only [List.count_append, List.count_flatMap, Function.comp_def] at *
    omega

/-- What happens is measured, whatever the sink. -/
theorem exists_measured_perform (d : Desk) (a : Action) :
    ∃ xs,
      (∀ m, (d.withMetrics m).perform a = (d.perform a).withMetrics (m.recordAll xs)) ∧
      ((d.perform a).readings ++
          ((d.takers a).map acceptance ++ (d.refused a).map Intake.refusal)).Perm
        (d.readings ++ xs) := by
  cases a with
  | arrive r =>
      refine ⟨[], fun _ => rfl, ?_⟩
      simp [perform, readings, takers, refused, Progress.readings, Progress.isDuplicate]
  | proceed t now =>
      have htasks (m : Metrics) : (d.withMetrics m).tasks = d.tasks := rfl
      simp only [perform, takers, refused, htasks]
      cases htask : d.tasks[t]? with
      | none => exact ⟨[], fun _ => rfl, by simp⟩
      | some task => exact exists_measured_advance htask now
  | around b hother =>
      obtain ⟨xs, hperform, hperm⟩ := d.intake.exists_measured_perform hother
      refine ⟨xs, fun m => ?_, ?_⟩
      · have hafter : (d.withMetrics m).intake.perform b = _ := hperform m
        rw [perform, hafter]
        rfl
      · rw [List.perm_iff_count] at hperm ⊢
        intro x
        have hstep := hperm x
        simp only [perform, readings, takers, refused, List.map_nil, List.append_nil,
          List.count_append] at *
        omega

/-- A run is the same with every sink. The sink gets what the statistics and
outcomes show at its end, a measurement for each event that was accepted, and one
for each channel that was refused. -/
theorem exists_measured_run (d : Desk) (actions : List Action) :
    ∃ xs,
      (∀ m, (d.withMetrics m).run actions = (d.run actions).withMetrics (m.recordAll xs)) ∧
      ((d.run actions).readings ++
          ((d.trace takers actions).map acceptance ++
            (d.trace refused actions).map Intake.refusal)).Perm (d.readings ++ xs) := by
  induction actions generalizing d with
  | nil => exact ⟨[], fun _ => rfl, .refl _⟩
  | cons a rest ih =>
      obtain ⟨xs, hfirst, hperm⟩ := d.exists_measured_perform a
      obtain ⟨ys, hrest, hperm'⟩ := ih (d.perform a)
      refine ⟨xs ++ ys, fun m => ?_, ?_⟩
      · rw [run, hfirst, hrest, Metrics.recordAll_append]
        rfl
      · have hboth := Broker.perm_append hperm hperm'
        rw [List.perm_iff_count] at hboth ⊢
        intro x
        have hsum := hboth x
        simp only [run, trace, List.map_append, List.count_append] at *
        omega

/-! ## What is counted -/

/-- The requests that were found to be duplicates. -/
def duplicates (d : Desk) : Nat :=
  d.tasks.countP fun task => task.progress.isDuplicate

theorem countP_readings (d : Desk) (counter : Counter) :
    d.readings.countP (fun x => x.counter = counter) =
      (d.intake.broker.consumers.map fun k => k.stats.figure counter).sum +
        if counter = .duplicates then d.duplicates else 0 := by
  rw [readings, List.countP_append, Broker.countP_readings, duplicates]
  congr 1
  induction d.tasks with
  | nil => simp
  | cons task rest ih =>
      rw [List.flatMap_cons, List.countP_append, ih, List.countP_cons, Progress.readings]
      by_cases hcounter : counter = .duplicates
      · cases hduplicate : task.progress.isDuplicate <;> simp [hcounter, Nat.add_comm]
      · cases hduplicate : task.progress.isDuplicate <;> simp [hcounter, Ne.symm hcounter]

variable {xs : List Measurement} {taken : List String} {denied : List Channel}

/-- How often a counter was measured. -/
theorem countP_of_perm
    (hperm : (d.readings ++ (taken.map acceptance ++ denied.map Intake.refusal)).Perm xs)
    (counter : Counter) :
    xs.countP (fun x => x.counter = counter) =
      (d.intake.broker.consumers.map fun k => k.stats.figure counter).sum +
        (if counter = .duplicates then d.duplicates else 0) +
        ((if counter = .published then taken.length else 0) +
          if counter = .rateLimited then denied.length else 0) := by
  have htaken : (taken.map acceptance).countP (fun x => x.counter = counter) =
      if counter = .published then taken.length else 0 := by
    rw [List.countP_map]
    by_cases hcounter : counter = .published <;>
      simp [Function.comp_def, acceptance, hcounter, eq_comm]
  have hdenied : (denied.map Intake.refusal).countP (fun x => x.counter = counter) =
      if counter = .rateLimited then denied.length else 0 := by
    rw [List.countP_map]
    by_cases hcounter : counter = .rateLimited <;>
      simp [Function.comp_def, Intake.refusal, hcounter, eq_comm]
  rw [← hperm.countP_eq, List.countP_append, List.countP_append, countP_readings, htaken, hdenied]

/-- A counter that does not tell of duplicates is measured at consumers only. -/
theorem count_readings (d : Desk) {counter : Counter} (hevent : counter ≠ .duplicates)
    (label : String) :
    d.readings.count ⟨counter, label⟩ =
      ((d.intake.broker.consumers.filter (·.name = label)).map fun k =>
        k.stats.figure counter).sum := by
  have hrequests : (d.tasks.flatMap fun task => task.progress.readings).count ⟨counter, label⟩ =
      0 := by
    rw [List.count_eq_zero]
    intro hmem
    obtain ⟨task, -, hreading⟩ := List.mem_flatMap.mp hmem
    rw [Progress.readings] at hreading
    split at hreading
    next =>
      cases List.mem_singleton.mp hreading
      exact hevent rfl
    next => cases hreading
  rw [readings, List.count_append, hrequests, Broker.count_readings]
  rfl

/-- How often a counter was measured with a label. -/
theorem count_of_perm
    (hperm : (d.readings ++ (taken.map acceptance ++ denied.map Intake.refusal)).Perm xs)
    {counter : Counter} (hevent : counter ≠ .duplicates) (label : String) :
    xs.count ⟨counter, label⟩ =
      ((d.intake.broker.consumers.filter (·.name = label)).map fun k =>
          k.stats.figure counter).sum +
        ((if counter = .published then taken.count label else 0) +
          if counter = .rateLimited then (denied.map Channel.name).count label else 0) := by
  have hdenied : denied.map Intake.refusal =
      (denied.map Channel.name).map (Measurement.mk .rateLimited) := by
    rw [List.map_map]
    rfl
  have htaken : taken.map acceptance = taken.map (Measurement.mk .published) := rfl
  rw [← hperm.count_eq, List.count_append, List.count_append, count_readings d hevent, htaken,
    hdenied, count_map_label, count_map_label]

end Desk

end Courier

import Courier.Proofs.Intake.Readings
import Courier.Proofs.Pipeline.Balance

/-! # Metrics and statistics

What a sink shows is what the statistics of the consumers show, for all of them
together or for those of one topic, and what requests came back with. The sink
has no part in what happens, so that two kinds of sinks show the same of one run.
-/

namespace Courier

/-- These numbers are shown for consumers that have accepted so many events and
have these statistics. -/
structure Stats.ShownAs (s : Stats) (accepted : Nat) (shown : Counter → Option Nat) : Prop where
  published : shown .published = some accepted
  dropped : shown .dropped = some s.dropped
  delivered : shown .delivered = some s.delivered
  failedAttempts : shown .failedAttempts = some s.failedAttempts
  retried : shown .retried = some s.retried
  deadLettered : shown .deadLettered = some s.deadLettered

/-- The sink of a desk. -/
def Desk.sink (d : Desk) : Metrics :=
  d.intake.broker.metrics

namespace Pipeline

variable {settings : Settings} {senders : List Transport} {metrics : Metrics} {moment : Moment}
  {chance : StdGen}

theorem intake_addSender {s : PipelineSettings} {w w' : World} (t : Transport) {m : Metrics}
    (hintake : w'.intake = w.intake.withMetrics m) :
    (addSender s w' t).intake = (addSender s w t).intake.withMetrics m := by
  have hadded (w : World) : (addSender s w t).intake = w.intake.withBroker
      (Broker.subscribe
        { w.intake.broker with consumers := w.intake.broker.consumers ++ [consumerFor s t] }
        t.channel.topic w.intake.broker.consumers.length).1 := rfl
  have hsubscribe := Broker.subscribe_withMetrics
    { w.intake.broker with consumers := w.intake.broker.consumers ++ [consumerFor s t] }
    t.channel.topic w.intake.broker.consumers.length m
  rw [hadded, hadded, hintake]
  exact congrArg w.intake.withBroker hsubscribe

theorem intake_foldl_addSender {s : PipelineSettings} {w w' : World} {m : Metrics}
    (hintake : w'.intake = w.intake.withMetrics m) :
    (senders.foldl (addSender s) w').intake =
      (senders.foldl (addSender s) w).intake.withMetrics m := by
  induction senders generalizing w w' with
  | nil => exact hintake
  | cons t rest ih => exact ih (intake_addSender t hintake)

/-- The sink has no part in the creation of a pipeline. -/
theorem desk_create_withMetrics (metrics other : Metrics) :
    (create settings senders other moment chance).desk =
      (create settings senders metrics moment chance).desk.withMetrics other :=
  congrArg (fun s : Intake => (⟨s, [], []⟩ : Desk)) (intake_foldl_addSender rfl)

/-- New consumers have measured nothing. -/
theorem readings_create : (create settings senders metrics moment chance).desk.readings = [] := by
  have hconsumers : (create settings senders metrics moment chance).desk.intake.broker.consumers =
      senders.map (consumerFor settings.pipeline) := consumers_create
  rw [Desk.readings, Broker.readings, hconsumers]
  simp [consumerFor, Consumer.readings_create, desk]

/-- One run of a pipeline with whatever sink, and its measurements. -/
theorem exists_measured_run (settings : Settings) (senders : List Transport) (metrics : Metrics)
    (moment : Moment) (chance : StdGen) (actions : List Desk.Action) :
    let d := (create settings senders metrics moment chance).desk
    ∃ xs,
      (∀ m, (create settings senders m moment chance).desk.run actions =
        (d.run actions).withMetrics (m.recordAll xs)) ∧
      ((d.run actions).readings ++
          ((d.trace Desk.takers actions).map acceptance ++
            (d.trace Desk.refused actions).map Intake.refusal)).Perm xs := by
  intro d
  obtain ⟨xs, hrun, hperm⟩ := d.exists_measured_run actions
  rw [readings_create, List.nil_append] at hperm
  refine ⟨xs, fun m => ?_, hperm⟩
  rw [desk_create_withMetrics metrics m, hrun]

/-- The statistics of the consumers with a name, as the pipeline shows them. -/
def statsNamed (p : Pipeline) (t : Topic) : Stats :=
  Stats.sum ((p.stats.topics.filter (·.topic = t)).map (·.stats))

theorem figure_statsNamed (p : Pipeline) (s : Intake) (t : Topic) (counter : Counter) :
    ((p.withIntake s).statsNamed t).figure counter =
      ((s.broker.consumers.filter (·.name = t)).map fun k => k.stats.figure counter).sum := by
  have htopics : (p.withIntake s).stats.topics = s.broker.consumers.map topicStats := rfl
  rw [statsNamed, Stats.sum_eq (·.figure counter) (Stats.figure_zero counter)
    (Stats.figure_add · · counter), htopics, List.filter_map, List.map_map, List.map_map]
  rfl

theorem figure_totals (p : Pipeline) (s : Intake) (counter : Counter) :
    (p.withIntake s).stats.totals.figure counter =
      (s.broker.consumers.map fun k => k.stats.figure counter).sum :=
  totals_withIntake (·.figure counter) (Stats.figure_zero counter) (Stats.figure_add · · counter) s

/-- A sink of totals shows the statistics of all consumers. -/
theorem shownAs_totals {d : Desk} {xs : List Measurement} {taken : List String}
    {denied : List Channel}
    (hperm : (d.readings ++ (taken.map acceptance ++ denied.map Intake.refusal)).Perm xs)
    (p : Pipeline) {shown : Counter → Option Nat}
    (hshown : ∀ counter, shown counter = some (xs.countP fun x => x.counter = counter)) :
    (p.withIntake d.intake).stats.totals.ShownAs taken.length shown ∧
      shown .duplicates = some d.duplicates ∧ shown .rateLimited = some denied.length := by
  have hcount (counter : Counter) := hshown counter
  simp only [Desk.countP_of_perm hperm, ← figure_totals p d.intake] at hcount
  refine ⟨?_, ?_, ?_⟩
  · constructor <;> simp [hcount, Stats.figure]
  · simp [hcount, Stats.figure]
  · simp [hcount, Stats.figure]

/-- A labelled sink shows for each topic the statistics of the consumers with its
name. -/
theorem shownAs_statsNamed {d : Desk} {xs : List Measurement} {taken : List String}
    {denied : List Channel}
    (hperm : (d.readings ++ (taken.map acceptance ++ denied.map Intake.refusal)).Perm xs)
    (p : Pipeline) {shown : Counter → String → Option Nat}
    (hshown : ∀ counter label, shown counter label = some (xs.count ⟨counter, label⟩)) :
    (∀ t, ((p.withIntake d.intake).statsNamed t).ShownAs (taken.count t) (shown · t)) ∧
      ∀ c : Channel, shown .rateLimited c.name = some (denied.count c) := by
  have hcount {counter : Counter} (hevent : counter ≠ .duplicates) (label : String) :
      shown counter label = some
        (((p.withIntake d.intake).statsNamed label).figure counter +
          ((if counter = .published then taken.count label else 0) +
            if counter = .rateLimited then (denied.map Channel.name).count label else 0)) := by
    rw [hshown, Desk.count_of_perm hperm hevent, figure_statsNamed]
  refine ⟨fun t => ?_, fun c => ?_⟩
  · constructor <;> simp [hcount, Stats.figure]
  · have hinjective : Function.Injective Channel.name := fun _ _ heq => Channel.name_injective heq
    rw [← List.count_map_of_injective denied Channel.name hinjective c]
    simp [hcount, Stats.figure]

/-- Whatever happens to a pipeline, its metrics agree with its statistics at any
time: the totals with those of all consumers, the labelled numbers with those of
the consumers with this name, and the totals with the labelled numbers. -/
theorem metrics_agree_of_run (settings : Settings) (senders : List Transport) (moment : Moment)
    (chance : StdGen) (actions : List Desk.Action) :
    let plain := create settings senders .emptyTotals moment chance
    let d := plain.desk.run actions
    let labelled := create settings senders .emptyLabelled moment chance
    let d' := labelled.desk.run actions
    (plain.withIntake d.intake).stats.totals.ShownAs (plain.desk.trace Desk.takers actions).length
        d.sink.total ∧
      d.sink.total .duplicates = some d.duplicates ∧
      d.sink.total .rateLimited = some (plain.desk.trace Desk.refused actions).length ∧
      (∀ t, ((labelled.withIntake d'.intake).statsNamed t).ShownAs
        ((labelled.desk.trace Desk.takers actions).count t) (d'.sink.sample · t)) ∧
      (∀ c : Channel, d'.sink.sample .rateLimited c.name =
        some ((labelled.desk.trace Desk.refused actions).count c)) ∧
      ∀ counter, d.sink.total counter = d'.sink.total counter := by
  intro plain d labelled d'
  obtain ⟨xs, hrun, hperm⟩ :=
    exists_measured_run settings senders .emptyTotals moment chance actions
  obtain ⟨ys, hrun', hperm'⟩ :=
    exists_measured_run settings senders .emptyLabelled moment chance actions
  have htotal (counter : Counter) :
      d.sink.total counter = some (xs.countP fun x => x.counter = counter) := by
    have hsink : d.sink = Metrics.emptyTotals.recordAll xs :=
      congrArg Desk.sink (hrun .emptyTotals)
    rw [hsink, Metrics.total_recordAll, Metrics.total_emptyTotals, Option.map_some, Nat.zero_add]
  have hsample (counter : Counter) (label : String) :
      d'.sink.sample counter label = some (ys.count ⟨counter, label⟩) := by
    have hsink : d'.sink = Metrics.emptyLabelled.recordAll ys :=
      congrArg Desk.sink (hrun' .emptyLabelled)
    rw [hsink, Metrics.sample_recordAll, Metrics.sample_emptyLabelled, Option.map_some,
      Nat.zero_add]
  obtain ⟨htotals, hduplicates, hrefusals⟩ := shownAs_totals hperm plain htotal
  obtain ⟨htopics, hchannels⟩ := shownAs_statsNamed hperm' labelled hsample
  refine ⟨htotals, hduplicates, hrefusals, htopics, hchannels, fun counter => ?_⟩
  -- The run with one sink is the run with the other one.
  have hsink : d'.sink = Metrics.emptyLabelled.recordAll xs :=
    congrArg Desk.sink (hrun .emptyLabelled)
  rw [htotal, hsink, Metrics.total_recordAll, Metrics.total_emptyLabelled, Option.map_some,
    Nat.zero_add]

end Pipeline

end Courier

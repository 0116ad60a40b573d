import Courier.Proofs.Intake.Keys
import Courier.Proofs.Intake.Reports
import Courier.Proofs.Pipeline.Idleness

/-! # The balance of a pipeline

What callers were told when they queued their requests agrees at any time with
what the consumers of the pipeline have counted together: each event that a
report counts as enqueued has an outcome or is outstanding, and each one that it
counts as dropped was refused.
-/

namespace Courier

namespace Stats

/-- Statistics are added up field by field. -/
theorem sum_eq_mk (parts : List Stats) :
    sum parts =
      ⟨(parts.map handled).sum, (parts.map delivered).sum, (parts.map failedAttempts).sum,
        (parts.map retried).sum, (parts.map deadLettered).sum, (parts.map dropped).sum,
        (parts.map abandoned).sum, (parts.map outstanding).sum⟩ := by
  rw [← sum_eq handled rfl (fun _ _ => rfl), ← sum_eq delivered rfl (fun _ _ => rfl),
    ← sum_eq failedAttempts rfl (fun _ _ => rfl), ← sum_eq retried rfl (fun _ _ => rfl),
    ← sum_eq deadLettered rfl (fun _ _ => rfl), ← sum_eq dropped rfl (fun _ _ => rfl),
    ← sum_eq abandoned rfl (fun _ _ => rfl), ← sum_eq outstanding rfl (fun _ _ => rfl)]

/-- The order of the parts does not matter. -/
theorem sum_perm {parts parts' : List Stats} (hperm : parts.Perm parts') :
    sum parts = sum parts' := by
  apply hperm.foldl_eq'
  intro x _ y _ total
  simp only [add, Nat.add_right_comm]

theorem accepted_add (a b : Stats) : (a.add b).accepted = a.accepted + b.accepted := by
  simp only [accepted, settled, add]
  omega

end Stats

namespace PipelineStats

/-- The totals agree with what callers were told. -/
structure Covers (stats : PipelineStats) (reports : List PublishReport) : Prop where
  enqueued : (reports.map (·.enqueued)).sum =
    stats.totals.delivered + stats.totals.deadLettered + stats.totals.abandoned +
      stats.totals.outstanding
  dropped : (reports.map (·.dropped)).sum = stats.totals.dropped

/-- The totals are the sums of what is shown for the topics, in whatever order. -/
structure AddsUp (stats : PipelineStats) : Prop where
  totals : stats.totals =
    ⟨(stats.topics.map (·.stats.handled)).sum, (stats.topics.map (·.stats.delivered)).sum,
      (stats.topics.map (·.stats.failedAttempts)).sum, (stats.topics.map (·.stats.retried)).sum,
      (stats.topics.map (·.stats.deadLettered)).sum, (stats.topics.map (·.stats.dropped)).sum,
      (stats.topics.map (·.stats.abandoned)).sum, (stats.topics.map (·.stats.outstanding)).sum⟩
  order : ∀ topics : List TopicStats, topics.Perm stats.topics →
    Stats.sum (topics.map (·.stats)) = stats.totals

end PipelineStats

namespace Pipeline

theorem map_stats_topics (p : Pipeline) :
    p.stats.topics.map (·.stats) = p.world.broker.consumers.map (·.stats) :=
  List.map_map

theorem addsUp_stats (p : Pipeline) : p.stats.AddsUp where
  totals := by
    have htotals : p.stats.totals = Stats.sum (p.stats.topics.map (·.stats)) := by
      rw [map_stats_topics]
      rfl
    rw [htotals, Stats.sum_eq_mk]
    simp only [List.map_map, Function.comp_def]
  order topics hperm := by
    rw [Stats.sum_perm (hperm.map _), map_stats_topics]
    rfl

section

variable {settings : Settings} {senders : List Transport} {metrics : Metrics} {moment : Moment}
  {chance : StdGen} {p : Pipeline} {d : Desk} {actions : List Desk.Action}

theorem totals_withIntake (f : Stats → Nat) (hzero : f .zero = 0)
    (hadd : ∀ a b, f (a.add b) = f a + f b) (s : Intake) :
    f (p.withIntake s).stats.totals = s.broker.sumOf f := by
  have htotals : (p.withIntake s).stats.totals = Stats.sum (s.broker.consumers.map (·.stats)) := rfl
  rw [htotals, Stats.sum_eq f hzero hadd, List.map_map]
  rfl

/-- Before the first request there is nothing to account for. -/
theorem accounted_create : (create settings senders metrics moment chance).desk.Accounted := by
  have hconsumers : (create settings senders metrics moment chance).desk.intake.broker.consumers =
      senders.map (consumerFor settings.pipeline) := consumers_create
  have hnone (f : Stats → Nat) (hzero : f .zero = 0) :
      0 = (create settings senders metrics moment chance).desk.intake.broker.sumOf f := by
    rw [Broker.sumOf, hconsumers, List.map_map, eq_comm, List.sum_eq_zero_iff_forall_eq_nat]
    intro n hmem
    obtain ⟨t, -, rfl⟩ := List.mem_map.mp hmem
    exact hzero
  constructor
  · intro k hmem
    rw [hconsumers] at hmem
    obtain ⟨t, -, rfl⟩ := List.mem_map.mp hmem
    exact Consumer.create_balanced ..
  · intro i hlists
    rw [hconsumers, List.length_map]
    exact lt_of_lists_create hlists
  · exact hnone _ rfl
  · exact hnone _ rfl

/-- The statistics cover what requests have published. -/
theorem covers_of_accounted (haccounted : d.Accounted) :
    (p.withIntake d.intake).stats.Covers (d.reports ++ d.drafts) where
  enqueued := by
    rw [Desk.sum_reports_append_drafts d _ rfl, haccounted.enqueued,
      ← totals_withIntake (p := p) Stats.accepted rfl Stats.accepted_add]
    rfl
  dropped := by
    rw [Desk.sum_reports_append_drafts d _ rfl, haccounted.dropped,
      ← totals_withIntake (p := p) Stats.dropped rfl fun _ _ => rfl]

/-- As long as nobody else publishes, the reports of requests are covered by the
statistics at any time, with those that requests are about to come back with. If
the pipeline is idle before the signal, all that was enqueued is delivered or
dead-lettered. -/
theorem covers_of_run (settings : Settings) (senders : List Transport) (metrics : Metrics)
    (moment : Moment) (chance : StdGen) (actions : List Desk.Action)
    (hown : ∀ a ∈ actions, a.isForeign = false) :
    let p := create settings senders metrics moment chance
    let d := p.desk.run actions
    let stats := (p.withIntake d.intake).stats
    stats.AddsUp ∧ stats.Covers (d.reports ++ d.drafts) ∧
      (d.drafts = [] → stats.Covers d.reports) ∧
      ((∀ a ∈ actions, a.isSignal = false) → (∀ a ∈ actions, a.isClearing = false) →
        d.intake.broker.isIdle = true →
        ((d.reports ++ d.drafts).map (·.enqueued)).sum =
          stats.totals.delivered + stats.totals.deadLettered) := by
  intro p d stats
  have haccounted : d.Accounted := Desk.accounted_run accounted_create hown
  have hcovers : stats.Covers (d.reports ++ d.drafts) := covers_of_accounted haccounted
  refine ⟨addsUp_stats _, hcovers, fun hnone => ?_, fun hquiet hkeeps hidle => ?_⟩
  · rwa [hnone, List.append_nil] at hcovers
  · have hlength : d.intake.broker.consumers.length = senders.length := by
      have hsame := Desk.length_consumers_run (d := p.desk) hown
      have hconsumers : p.desk.intake.broker.consumers =
          senders.map (consumerFor settings.pipeline) := consumers_create
      rw [hconsumers, List.length_map] at hsame
      exact hsame
    have htotals : stats.totals = d.intake.broker.totals senders.length := by
      rw [← hlength]
      exact totals_stats (p.withIntake d.intake)
    have habandoned := abandoned_totals_of_reaches (d := d) ⟨actions, hquiet, rfl⟩
    have houtstanding : (d.intake.broker.totals senders.length).outstanding = 0 := by
      apply (Broker.totals_eq_zero_iff _ _ Stats.outstanding rfl fun _ _ => rfl).mpr
      intro i k hi hk
      exact Broker.isIdle_iff.mp hidle i k (lists_of_reaches ⟨actions, hkeeps, rfl⟩ hi) hk
    rw [hcovers.enqueued, htotals, habandoned, houtstanding]
    rfl

/-- One sender, whose consumer has room for one event. -/
def narrow : Pipeline :=
  create { oneWorker with pipeline := { oneWorker.pipeline with queueCapacity := 1 } } [slowMail 0]
    .none ⟨0, .newYear2024⟩ default

/-- Two requests come, and only the event of the first one finds room. -/
def twoRequests : List Desk.Action :=
  let now : Moment := ⟨0, .newYear2024⟩
  let first := Identity.request ⟨"a", .transaction, "paid"⟩ (.ofNat 1)
  let second := Identity.request ⟨"a", .transaction, "refunded"⟩ (.ofNat 2)
  .arrive first :: .arrive second ::
    (List.replicate 10 (.proceed 0 now) ++ List.replicate 10 (.proceed 1 now) ++
      [.act 0 .start, .act 0 (.take 0), .act 0 (.succeed 0)])

theorem covers_of_two_requests :
    let d := narrow.desk.run twoRequests
    let stats := (narrow.withIntake d.intake).stats
    d.reports = [⟨1, 1, 0⟩, ⟨1, 0, 1⟩] ∧ stats.AddsUp ∧ stats.Covers d.reports ∧
      (stats.totals.delivered, stats.totals.dropped) = (1, 1) ∧
      ((d.reports ++ d.drafts).map (·.enqueued)).sum =
        stats.totals.delivered + stats.totals.deadLettered := by
  intro d stats
  obtain ⟨hadds, -, hcovers, hidle⟩ := covers_of_run
    { oneWorker with pipeline := { oneWorker.pipeline with queueCapacity := 1 } } [slowMail 0] .none
    ⟨0, .newYear2024⟩ default twoRequests (by decide)
  exact ⟨rfl, hadds, hcovers rfl, rfl, hidle (by decide) (by decide) rfl⟩

end

end Pipeline

end Courier

import Courier.Proofs.Broker.Publications
import Courier.Proofs.Metrics.Labels
import Mathlib.Data.List.Count

/-! # What statistics say of the sink

Consumers count everything twice, in their statistics and in the sink. Whatever
the sink is, the measurements that it gets are those that the statistics stand
for, and one for each event that was accepted, for which there is no statistic.
-/

namespace Courier

/-- The statistic of a consumer that goes with a counter, if there is one. -/
def Stats.figure (s : Stats) : Counter → Nat
  | .dropped => s.dropped
  | .delivered => s.delivered
  | .failedAttempts => s.failedAttempts
  | .retried => s.retried
  | .deadLettered => s.deadLettered
  | .published | .rateLimited | .duplicates => 0

theorem Stats.figure_zero (counter : Counter) : zero.figure counter = 0 := by
  cases counter <;> rfl

/-- The measurement of an event that the consumer with this name accepts. -/
def acceptance (name : String) : Measurement :=
  ⟨.published, name⟩

theorem Stats.figure_add (a b : Stats) (counter : Counter) :
    (a.add b).figure counter = a.figure counter + b.figure counter := by
  cases counter <;> rfl

theorem count_map_mk (counters : List Counter) (name : String) (x : Measurement) :
    (counters.map (Measurement.mk · name)).count x =
      if x.label = name then counters.count x.counter else 0 := by
  obtain ⟨counter, label⟩ := x
  by_cases hlabel : label = name
  · subst hlabel
    have hinjective : Function.Injective (Measurement.mk · label) := by
      rintro first second ⟨⟩
      rfl
    rw [if_pos rfl, List.count_map_of_injective _ (Measurement.mk · label) hinjective counter]
  · rw [if_neg hlabel, List.count_eq_zero]
    intro hmem
    obtain ⟨other, -, heq⟩ := List.mem_map.mp hmem
    cases heq
    exact hlabel rfl

theorem count_map_label (measured counter : Counter) (labels : List String) (label : String) :
    (labels.map (Measurement.mk measured)).count ⟨counter, label⟩ =
      if counter = measured then labels.count label else 0 := by
  by_cases hcounter : counter = measured
  · subst hcounter
    have hinjective : Function.Injective (Measurement.mk counter) := by
      rintro first second ⟨⟩
      rfl
    rw [if_pos rfl, List.count_map_of_injective _ _ hinjective]
  · rw [if_neg hcounter, List.count_eq_zero]
    intro hmem
    obtain ⟨other, -, heq⟩ := List.mem_map.mp hmem
    cases heq
    exact hcounter rfl

namespace Consumer

/-- The measurements that the statistics of a consumer stand for. -/
def readings (k : Consumer) : List Measurement :=
  Counter.all.flatMap fun counter => List.replicate (k.stats.figure counter) ⟨counter, k.name⟩

/-- The consumer by name, if it accepts an event by an action. -/
def takers (k : Consumer) (a : Action) : List String :=
  (k.admitted? a).toList.map fun _ => k.name

variable {c c' : Consumer} {a : Action} {moved : List Counter}

theorem count_readings (k : Consumer) (x : Measurement) :
    k.readings.count x = if x.label = k.name then k.stats.figure x.counter else 0 := by
  obtain ⟨counter, label⟩ := x
  by_cases hlabel : label = k.name
  · subst hlabel
    cases counter <;> simp [readings, Counter.all, List.count_replicate, Stats.figure]
  · have hother (measured : Counter) : Measurement.mk measured k.name ≠ ⟨counter, label⟩ := by
      rintro ⟨⟩
      exact hlabel rfl
    simp [readings, Counter.all, List.count_replicate, hlabel, hother]

theorem readings_create (name : String) (config : ConsumerConfig) :
    (create name config).readings = [] := by
  simp [readings, create, Stats.figure_zero, Counter.all]

theorem countP_readings (k : Consumer) (counter : Counter) :
    k.readings.countP (fun x => x.counter = counter) = k.stats.figure counter := by
  cases counter <;> simp [readings, Counter.all, List.countP_replicate, Stats.figure]

theorem count_map_takers (k : Consumer) (a : Action) (x : Measurement) :
    ((k.takers a).map acceptance).count x =
      if x.label = k.name then
        if x.counter = .published then (k.admitted? a).toList.length else 0
      else 0 := by
  have hmap : (k.takers a).map acceptance =
      (List.replicate (k.admitted? a).toList.length Counter.published).map
        (Measurement.mk · k.name) := by
    rw [takers, List.map_const', List.map_replicate, List.map_replicate]
    rfl
  rw [hmap, count_map_mk, List.count_replicate]
  by_cases hcounter : x.counter = .published
  · simp [hcounter]
  · simp [hcounter, Ne.symm hcounter]

theorem Step.name_eq (hstep : Step c a c' moved) : c'.name = c.name := by
  cases hstep <;> rfl

/-- A statistic grows with the counter that goes with it. -/
theorem Step.figure_add (hstep : Step c a c' moved) (counter : Counter) :
    c'.stats.figure counter +
        (if counter = .published then (c.admitted? a).toList.length else 0) =
      c.stats.figure counter + moved.count counter := by
  cases hstep with
  | accept hroom =>
      rw [admitted?_offer, if_pos hroom]
      cases counter <;> rfl
  | refuse hfull =>
      rw [admitted?_offer, if_neg (Nat.not_lt.mpr hfull)]
      cases counter <;> rfl
  | _ => cases counter <;> rfl

/-- What the sink gets in a step is what the statistics grow by, and the events
that are accepted. -/
theorem Step.readings_perm (hstep : Step c a c' moved) :
    (c'.readings ++ (c.takers a).map acceptance).Perm
      (c.readings ++ moved.map (Measurement.mk · c.name)) := by
  rw [List.perm_iff_count]
  intro x
  have hfigure := hstep.figure_add x.counter
  rw [List.count_append, List.count_append, count_readings, count_readings, count_map_takers,
    count_map_mk, hstep.name_eq]
  split
  next => exact hfigure
  next => rfl

theorem admitted?_of_step?_eq_none (hnone : c.step? a = none) : c.admitted? a = none := by
  cases a with
  | offer e =>
      obtain ⟨moved, hstep⟩ := exists_step_offer c e
      cases hnone.symm.trans hstep.step?_eq
  | _ => rfl

end Consumer

namespace Broker

def withMetrics (b : Broker) (m : Metrics) : Broker :=
  { b with metrics := m }

def readings (b : Broker) : List Measurement :=
  b.consumers.flatMap Consumer.readings

/-- The consumer by name, if it accepts an event by an action. -/
def takers (b : Broker) (c : Nat) (a : Consumer.Action) : List String :=
  b.consumers[c]?.elim [] (·.takers a)

/-- The consumers by name that accept an event which they are offered one after
the other. -/
def takersOf (b : Broker) (e : Event) : List Nat → List String
  | [] => []
  | c :: rest => b.takers c (.offer e) ++ (b.offer c e).1.takersOf e rest

variable {b : Broker} {c : Nat} {a : Consumer.Action}

theorem subscribe_withMetrics (b : Broker) (t : Topic) (c : Nat) (m : Metrics) :
    ((b.withMetrics m).subscribe t c).1 = (b.subscribe t c).1.withMetrics m := by
  have hsame : (b.withMetrics m).subscribers t = b.subscribers t := rfl
  rw [subscribe, subscribe, hsame]
  by_cases hold : c ∈ b.subscribers t
  · rw [if_pos hold, if_pos hold]
  · rw [if_neg hold, if_neg hold]
    rfl

theorem readings_addConsumer (b : Broker) (name : String) (config : ConsumerConfig) :
    readings { b with consumers := b.consumers ++ [.create name config] } = b.readings := by
  simp [readings, Consumer.readings_create]

/-- The measurements of a counter, under all names. -/
theorem countP_readings (b : Broker) (counter : Counter) :
    b.readings.countP (fun x => x.counter = counter) =
      (b.consumers.map fun k => k.stats.figure counter).sum := by
  rw [readings, List.countP_flatMap]
  congr 1
  apply List.map_congr_left
  intro k _
  exact k.countP_readings counter

/-- The measurements of a counter under one name. -/
theorem count_readings (b : Broker) (counter : Counter) (name : String) :
    b.readings.count ⟨counter, name⟩ =
      ((b.consumers.filter (·.name = name)).map fun k => k.stats.figure counter).sum := by
  rw [readings]
  induction b.consumers with
  | nil => rfl
  | cons k rest ih =>
      rw [List.flatMap_cons, List.count_append, ih, Consumer.count_readings]
      by_cases hname : k.name = name
      · simp [hname]
      · simp [hname, Ne.symm hname]

/-- What is measured where one consumer changes. -/
theorem readings_set_perm {k k' : Consumer} {seen xs : List Measurement}
    (hk : b.consumers[c]? = some k) (hperm : (k'.readings ++ seen).Perm (k.readings ++ xs)) :
    ((b.consumers.set c k').flatMap Consumer.readings ++ seen).Perm (b.readings ++ xs) := by
  rw [List.perm_iff_count] at hperm ⊢
  intro x
  have hset := Consumer.sum_map_set (List.count x ∘ Consumer.readings) k' hk
  have hboth := hperm x
  simp only [readings, List.count_append, List.count_flatMap, Function.comp_apply] at *
  omega

/-- What happens to a consumer is measured, whatever the sink. -/
theorem exists_measured_act (b : Broker) (c : Nat) (a : Consumer.Action) :
    ∃ xs,
      (∀ m, ((b.withMetrics m).act? c a).getD (b.withMetrics m) =
        ((b.act? c a).getD b).withMetrics (m.recordAll xs)) ∧
      (((b.act? c a).getD b).readings ++ (b.takers c a).map acceptance).Perm
        (b.readings ++ xs) := by
  cases hk : b.consumers[c]? with
  | none =>
      refine ⟨[], fun m => ?_, ?_⟩
      · simp [act?, withMetrics, hk, Metrics.recordAll]
      · simp [act?, takers, hk]
  | some k =>
      cases hstep : k.step? a with
      | none =>
          have hnone := Consumer.admitted?_of_step?_eq_none hstep
          refine ⟨[], fun m => ?_, ?_⟩
          · simp [act?, withMetrics, hk, hstep, Metrics.recordAll]
          · simp [act?, takers, Consumer.takers, hk, hstep, hnone]
      | some after =>
          obtain ⟨k', moved⟩ := after
          have hmoves := Consumer.Step.of_step? hstep
          refine ⟨moved.map (Measurement.mk · k.name), fun m => ?_, ?_⟩
          · simp [act?, withMetrics, hk, hstep, hmoves.name_eq]
          · have hset := readings_set_perm hk hmoves.readings_perm
            simpa [act?, takers, readings, hk, hstep] using hset

/-- Measurements of one part of a run and of the next are those of both. -/
theorem perm_append {first second third seen seen' xs ys : List Measurement}
    (hfirst : (second ++ seen).Perm (first ++ xs))
    (hsecond : (third ++ seen').Perm (second ++ ys)) :
    (third ++ (seen ++ seen')).Perm (first ++ (xs ++ ys)) := by
  rw [List.perm_iff_count] at *
  intro x
  have hfirst' := hfirst x
  have hsecond' := hsecond x
  simp only [List.count_append] at *
  omega

/-- What is offered to several consumers is measured, whatever the sink. -/
theorem exists_measured_offerAll (b : Broker) (e : Event) (audience : List Nat) :
    ∃ xs,
      (∀ m, (b.withMetrics m).offerAll e audience =
        ((b.offerAll e audience).1.withMetrics (m.recordAll xs), (b.offerAll e audience).2)) ∧
      ((b.offerAll e audience).1.readings ++ (b.takersOf e audience).map acceptance).Perm
        (b.readings ++ xs) := by
  induction audience generalizing b with
  | nil => exact ⟨[], fun _ => rfl, by simp [offerAll, takersOf]⟩
  | cons c rest ih =>
      obtain ⟨xs, hfirst, hperm⟩ := b.exists_measured_act c (.offer e)
      obtain ⟨ys, hrest, hperm'⟩ := ih (b.offer c e).1
      have hoffer (m : Metrics) : (b.withMetrics m).offer c e =
          ((b.offer c e).1.withMetrics (m.recordAll xs), (b.offer c e).2) :=
        Prod.ext (hfirst m) rfl
      refine ⟨xs ++ ys, fun m => ?_, ?_⟩
      · simp only [offerAll, hoffer, hrest, Metrics.recordAll_append]
      · rw [takersOf, List.map_append]
        exact perm_append hperm hperm'

end Broker

end Courier

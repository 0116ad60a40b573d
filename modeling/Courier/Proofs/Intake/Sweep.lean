import Courier.Proofs.Intake.Evolution

/-! # Looking for idleness

A broker is idle just if the consumers that it lists are empty. Who looks at them
does not see them all at once: while the next one is looked at, the tasks of the
others go on. As long as nobody publishes that does no harm, since a consumer
that was found idle stays as it was found.
-/

namespace Courier.Desk

/-- Looks whether consumers are idle, at one after the other; after each look
other things happen. -/
def sweep (d : Desk) : List (Nat × List Action) → Desk × Bool
  | [] => (d, true)
  | (c, meanwhile) :: rest =>
      let idle := d.intake.broker.consumers[c]?.any (·.isIdle)
      let (d, found) := (d.run meanwhile).sweep rest
      (d, idle && found)

variable {d : Desk} {actions : List Action} {looks : List (Nat × List Action)} {i : Nat}
  {k : Consumer}

/-- Looking changes nothing. -/
theorem sweep_fst (d : Desk) (looks : List (Nat × List Action)) :
    (d.sweep looks).1 = d.run (looks.flatMap Prod.snd) := by
  induction looks generalizing d with
  | nil => rfl
  | cons look rest ih =>
      rw [List.flatMap_cons, run_append]
      exact ih _

/-- As long as nobody publishes, an idle consumer stays as it is. -/
theorem exists_unmoved_run (heach : d.intake.broker.Each Consumer.Balanced)
    (hsilent : (d.run actions).published = d.published)
    (hk : d.intake.broker.consumers[i]? = some k) (hidle : k.isIdle = true) :
    ∃ k', (d.run actions).intake.broker.consumers[i]? = some k' ∧ k.Unmoved k' := by
  obtain ⟨k', hk', hgoes⟩ := evolves_run_of_silent hsilent i k hk
  exact ⟨k', hk', hgoes.unmoved (heach.of_getElem? hk) hidle⟩

/-- Each consumer that the sweep has found idle is idle when it ends. -/
theorem isIdle_of_sweep (heach : d.intake.broker.Each Consumer.Balanced)
    (hsilent : (d.sweep looks).1.published = d.published) (hfound : (d.sweep looks).2 = true)
    (hlooked : i ∈ looks.map Prod.fst)
    (hk : (d.sweep looks).1.intake.broker.consumers[i]? = some k) : k.isIdle = true := by
  induction looks generalizing d with
  | nil => cases hlooked
  | cons look rest ih =>
      obtain ⟨c, meanwhile⟩ := look
      obtain ⟨hlook, hrest⟩ := Bool.and_eq_true_iff.mp hfound
      rcases List.mem_cons.mp hlooked with rfl | hlater
      · -- It was idle at this look, and from then on nothing was published.
        obtain ⟨seen, hseen, hidle⟩ := (Option.any_eq_true _ _).mp hlook
        rw [sweep_fst] at hsilent hk
        obtain ⟨k', hk', hsame⟩ := exists_unmoved_run heach hsilent hseen hidle
        cases hk'.symm.trans hk
        rwa [Consumer.isIdle, hsame.stats]
      · have hafter : (d.run meanwhile).published = d.published := by
          have hgrows := published_run (d.run meanwhile) (rest.flatMap Prod.snd)
          rw [← sweep_fst] at hgrows
          have hfewer := hgrows.length_le
          exact ((published_run d meanwhile).eq_of_length_le (hsilent ▸ hfewer)).symm
        exact ih (each_run Consumer.isInvariant_balanced heach) (hsilent.trans hafter.symm) hrest
          hlater hk

/-- Whatever has happened, a broker is idle just if the consumers that it lists
are empty. From then on an idle consumer stays as it is until something is
published, and so a sweep over all listed consumers that finds each idle ends
with an idle broker. -/
theorem idle_iff_empty_and_unmoved_of_run (metrics : Metrics) (config : RateLimit)
    (window : Duration) (history : List Action) :
    let d := (fresh metrics config window).run history
    (d.intake.broker.isIdle = true ↔
      ∀ i k, d.intake.broker.Lists i → d.intake.broker.consumers[i]? = some k → k.Empty) ∧
    (∀ later, (d.run later).published = d.published →
      ∀ (i : Nat) (k : Consumer), d.intake.broker.consumers[i]? = some k → k.isIdle = true →
        ∃ k', (d.run later).intake.broker.consumers[i]? = some k' ∧ k.Unmoved k') ∧
    ∀ looks, (d.sweep looks).1.published = d.published →
      (∀ look ∈ looks, ∀ a ∈ look.2, a.isSubscription = false) →
      (∀ i, d.intake.broker.Lists i → i ∈ looks.map Prod.fst) →
      (d.sweep looks).2 = true → (d.sweep looks).1.intake.broker.isIdle = true := by
  intro d
  have heach : d.intake.broker.Each Consumer.Balanced := by
    apply each_run Consumer.isInvariant_balanced
    intro k hmem
    cases hmem
  refine ⟨?_, ?_, ?_⟩
  · rw [Broker.isIdle_iff]
    constructor
    · intro hidle i k hlists hk
      exact (heach.of_getElem? hk).isIdle_iff.mp (decide_eq_true (hidle i k hlists hk))
    · intro hempty i k hlists hk
      exact of_decide_eq_true ((heach.of_getElem? hk).isIdle_iff.mpr (hempty i k hlists hk))
  · intro later hsilent i k hk hidle
    exact exists_unmoved_run heach hsilent hk hidle
  · intro looks hsilent hlisting hall hfound
    rw [Broker.isIdle_iff]
    intro i k hlists hk
    have hbefore : d.intake.broker.Lists i := by
      rw [sweep_fst] at hlists
      apply lists_of_run _ hlists
      intro a hmem
      obtain ⟨look, hlook, ha⟩ := List.mem_flatMap.mp hmem
      exact hlisting look hlook a ha
    exact of_decide_eq_true (isIdle_of_sweep heach hsilent hfound (hall i hbefore) hk)

/-- Two consumers have taken an event each, and the first one has delivered it. -/
def halfDone : Desk :=
  (fresh .none .default (.ofSeconds 60)).run
    [.around (.addConsumer "mail" .default) rfl, .around (.addConsumer "push" .default) rfl,
      .around (.subscribe "mail" 0) rfl, .around (.subscribe "push" 1) rfl,
      .act 0 .start, .act 1 .start, .around (.publish "mail" default) rfl,
      .around (.publish "push" default) rfl, .act 0 (.take 0), .act 1 (.take 0),
      .act 0 (.succeed 0)]

/-- The second one delivers its event after the first look. -/
def twoLooks : List (Nat × List Action) :=
  [(0, [.act 1 (.succeed 0)]), (1, [.act 0 .signal, .act 0 (.stop 0)])]

theorem idle_after_two_looks :
    halfDone.intake.broker.isIdle = false ∧ (halfDone.sweep twoLooks).2 = true ∧
      (halfDone.sweep twoLooks).1.intake.broker.isIdle = true := by
  have hlisted : ∀ i, halfDone.intake.broker.Lists i → i ∈ twoLooks.map Prod.fst := by
    rintro i ⟨t, hmem⟩
    have hvalues := (Broker.mem_values_iff (List.ne_nil_of_mem hmem)).mpr ⟨t, rfl⟩
    have hlists : halfDone.intake.broker.topics.values = [[1], [0]] := rfl
    rw [hlists, List.mem_cons, List.mem_singleton] at hvalues
    rcases hvalues with heq | heq <;> rw [heq, List.mem_singleton] at hmem <;> rw [hmem] <;> decide
  obtain ⟨-, -, hsweep⟩ := idle_iff_empty_and_unmoved_of_run .none .default (.ofSeconds 60) _
  exact ⟨rfl, rfl, hsweep twoLooks rfl (by decide) hlisted rfl⟩

end Courier.Desk

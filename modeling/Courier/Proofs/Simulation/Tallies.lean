import Courier.Proofs.Simulation.Completion

/-! # Tallies add up

At the end of a simulation every number has been handled by one publisher, every
request was queued or rate limited, and the repository has what was queued. This
does not depend on how the publishers were interrupted, nor on who the requests
were for, nor on the limiter.
-/

namespace Courier

namespace Intake

variable {s : Intake}

theorem Unused.perform (h : s.Unused) {a : Action} (htask : a.isTask = true) :
    (s.perform a).Unused := by
  obtain ⟨hseen, hnotifications⟩ := perform_of_answer?_eq_none (answer?_of_isTask s htask)
  exact ⟨hnotifications.trans h.notifications, (rejectsWrites_perform s htask).trans h.accepts,
    hseen.trans h.seen⟩

theorem Unused.run (h : s.Unused) {actions : List Action}
    (htasks : ∀ a ∈ actions, a.isTask = true) : (s.run actions).Unused := by
  induction actions generalizing s with
  | nil => exact h
  | cons a rest ih =>
      obtain ⟨ha, hrest⟩ := List.forall_mem_cons.mp htasks
      exact ih (h.perform ha) hrest

end Intake

/-! ## A pipeline that has just been started -/

namespace World

theorem Works.unused {w w' : World} (hworks : w.Works w') (hunused : w.intake.Unused) :
    w'.intake.Unused := by
  obtain ⟨actions, htasks, hintake⟩ := hworks
  rw [hintake]
  exact hunused.run htasks

theorem works_startWorkers (w : World) (c : Nat) : w.Works (w.start c) := by
  rw [start]
  split
  next => exact .refl w
  next => exact (works_act w c rfl).trans ((Works.of_intake_eq rfl).trans (works_settle _))

theorem works_startDrain (w : World) (c : Nat) : w.Works (w.startDrain c) := by
  rw [startDrain]
  split
  next => exact .refl w
  next => exact (works_act w c rfl).trans ((Works.of_intake_eq rfl).trans (works_settle _))

end World

namespace Pipeline

theorem works_start (p : Pipeline) : p.world.Works p.start.world := by
  rw [start]
  split
  next => exact .refl _
  next =>
    have hconsumers := World.works_foldl
      (fun w c => (World.works_startWorkers w c).trans (World.works_startDrain _ c))
      (List.range p.world.broker.consumers.length) p.world
    dsimp only
    split
    next => exact hconsumers.trans (.of_intake_eq rfl)
    next => exact hconsumers

theorem unused_create (settings : Settings) (senders : List Transport) (metrics : Metrics)
    (moment : Moment) (chance : StdGen) :
    (create settings senders metrics moment chance).world.intake.Unused := by
  have hfold : ∀ w : World, w.intake.Unused →
      (senders.foldl (addSender settings.pipeline) w).intake.Unused := by
    induction senders with
    | nil => exact fun _ hunused => hunused
    | cons t rest ih =>
        intro w hunused
        exact ih _ ⟨hunused.notifications, hunused.accepts, hunused.seen⟩
  exact hfold _ ⟨rfl, rfl, rfl⟩

end Pipeline

namespace Simulation

/-- The tally counts so many requests, and the intake has what was queued. -/
structure AddsUp (count : Nat) (tally : Tally) (s : Intake) : Prop where
  duplicates : tally.duplicates = 0
  noChannels : tally.noChannels = 0
  errors : tally.errors = 0
  total : tally.queued + tally.rateLimited = count
  stored : s.repository.notifications.size = tally.queued

/-- The publishers have handled the numbers below `count`, each once. -/
structure Crew.Completes (t : Traffic) (count : Nat) (c : Crew) : Prop where
  once : (c.counted.map Job.number).Perm (List.range count)
  own : ∀ x ∈ c.counted, ∃ date, x.request = t.request x.number date
  addsUp : AddsUp count c.tally c.intake

theorem atLeastOne_pos (n : UInt64) : 0 < atLeastOne n :=
  Nat.lt_of_lt_of_le Nat.zero_lt_one (Nat.le_max_right ..)

variable {t : Traffic} {c : Crew} {count publishers users : Nat}

theorem Crew.Consistent.completes (h : c.Consistent t count) (hover : c.isOver = true) :
    c.Completes t count := by
  have hends : ∀ x ∈ c.publishers, x.left = [] ∧ x.current = none := by
    intro x hx
    have hx := List.all_eq_true.mp hover x hx
    rwa [Publisher.isOver, Bool.and_eq_true, List.isEmpty_iff, Option.isNone_iff_eq_none] at hx
  have hjobs : c.jobs = c.counted := by
    rw [Crew.jobs, List.filterMap_eq_nil_iff.mpr fun x hx => (hends x hx).2, List.append_nil]
  have hunbegun : c.unbegun = [] :=
    List.flatMap_eq_nil_iff.mpr fun x hx => (hends x hx).1
  have hnumbers := h.numbers
  rw [hjobs, hunbegun, List.append_nil] at hnumbers
  have hfits := h.fits
  rw [hjobs] at hfits
  refine ⟨hnumbers, hfits.own, ?_⟩
  rw [h.tally]
  refine ⟨rfl, rfl, rfl, ?_, hfits.size⟩
  calc c.counted.countP Job.isStored + c.counted.countP (fun x => !x.isStored)
      = c.counted.length := by simp [List.length_eq_countP_add_countP Job.isStored]
    _ = count := by simpa using hnumbers.length_eq

/-- However the publishers interrupt each other, they can come to their end, and
what they have counted then adds up. -/
theorem Crew.completes_run {s : Intake} (hunused : s.Unused) (hdraws : t.Draws count users)
    (hpositive : 0 < publishers) (actions : List Crew.Action)
    (hover : ((Crew.start s count publishers).run t actions).isOver = true) :
    ((Crew.start s count publishers).run t actions).Completes t count :=
  (Crew.consistent_run hdraws (Crew.consistent_start hunused hpositive)).completes hover

/-- One publisher after the other is one of the ways. -/
theorem addsUp_submitAll {q : Pipeline} (hunused : q.world.intake.Unused)
    (hdraws : t.Draws count users) (hpositive : 0 < publishers) :
    AddsUp count (submitAll t (Traffic.order count publishers) q .zero).2
      (submitAll t (Traffic.order count publishers) q .zero).1.world.intake := by
  have hcurrent : ∀ x ∈ (Crew.start q.world.intake count publishers).publishers,
      x.current = none := by
    intro x hx
    obtain ⟨p, -, rfl⟩ := List.mem_map.mp hx
    rfl
  obtain ⟨actions, hover, hintake, htally⟩ := Crew.exists_run_submitAll t q
    (List.nil_append _).symm (List.forall_mem_nil _) hcurrent rfl
  have hnumbers : (Crew.start q.world.intake count publishers).publishers.flatMap Publisher.left =
      Traffic.order count publishers := by
    rw [Crew.start, List.flatMap_map]
    rfl
  rw [hnumbers] at hintake htally
  have hcompletes := Crew.completes_run hunused hdraws hpositive actions hover
  have haddsUp := hcompletes.addsUp
  rw [hintake, htally] at haddsUp
  exact haddsUp

/-- What is reported of a whole simulation adds up. -/
theorem total_run (settings : Settings) (seed : Nat) (moment : Moment) :
    let tally := (run settings seed moment).tally
    tally.duplicates = 0 ∧ tally.noChannels = 0 ∧ tally.errors = 0 ∧
      tally.queued + tally.rateLimited = settings.simulation.notifications.toNat := by
  have hunused := (Pipeline.works_start _).unused (Pipeline.unused_create settings
    (senders settings.simulation) .emptyLabelled moment (mkStdGen seed))
  have hdraws := Traffic.draws_ofSeed seed (Nat.le_of_lt settings.simulation.notifications.toNat_lt)
    (atLeastOne_pos settings.simulation.users)
  have haddsUp := addsUp_submitAll hunused hdraws (atLeastOne_pos settings.simulation.publishers)
  exact ⟨haddsUp.duplicates, haddsUp.noChannels, haddsUp.errors, haddsUp.total⟩

/-- Every simulation shares out its numbers, and its tallies add up to them. -/
theorem tallies_add_up (s : SimulationSettings)
    (hdraws : t.Draws s.notifications.toNat (atLeastOne s.users)) :
    let count := s.notifications.toNat
    let publishers := atLeastOne s.publishers
    Traffic.SharedOut count publishers ∧
      (∀ intake : Intake, intake.Unused → ∀ actions,
        let c := (Crew.start intake count publishers).run t actions
        (∀ now, ∃ turns : List Nat, (c.run t (turns.map fun p => .turn p now)).isOver = true) ∧
          (c.isOver = true → c.Completes t count)) ∧
      ∀ q : Pipeline, q.world.intake.Unused →
        let last := submitAll t (Traffic.order count publishers) q .zero
        AddsUp count last.2 last.1.world.intake := by
  intro count publishers
  have hpositive := atLeastOne_pos s.publishers
  refine ⟨Traffic.sharedOut hpositive, ?_, ?_⟩
  · intro intake hunused actions
    exact ⟨Crew.exists_turns_isOver t _, Crew.completes_run hunused hdraws hpositive actions⟩
  · intro q hunused
    exact addsUp_submitAll hunused hdraws hpositive

/-- All requests are for one user. -/
def ofOneUser : Traffic :=
  ⟨fun _ => "user-0", .ofNat⟩

/-- Two publishers with one request each, at a limiter that lets one pass. -/
def Crew.ofTwo : Crew :=
  .start (Intake.fresh default (.withLimit 1 (.ofMillis 1000))) 2 2

/-- Both look for their keys before the first asks the limiter for all its
channels. -/
def Crew.turnsOfTwo : List Crew.Action :=
  [0, 1, 0, 1, 0, 0, 1, 1, 1, 1, 0, 0, 0, 0, 0, 0].map fun p => .turn p ⟨0, .newYear2024⟩

theorem tallies_add_up_of_two :
    let s : SimulationSettings := ⟨1, 2, 2, 0⟩
    let c := Crew.ofTwo.run ofOneUser Crew.turnsOfTwo
    ofOneUser.Draws s.notifications.toNat (atLeastOne s.users) ∧ Crew.ofTwo.intake.Unused ∧
      c.isOver = true ∧ c.Completes ofOneUser 2 ∧ c.tally = ⟨1, 0, 0, 1, 0⟩ := by
  have hdraws : ofOneUser.Draws 2 1 := by
    refine ⟨fun i _ => ⟨0, Nat.zero_lt_one, rfl⟩, ?_⟩
    intro i j hi hj heq
    have hvalue : i % _ = j % _ := congrArg (fun id => id.value.toNat) heq
    omega
  have hunused : Crew.ofTwo.intake.Unused := ⟨rfl, rfl, rfl⟩
  have hover : (Crew.ofTwo.run ofOneUser Crew.turnsOfTwo).isOver = true := by rfl
  have htally : (Crew.ofTwo.run ofOneUser Crew.turnsOfTwo).tally = ⟨1, 0, 0, 1, 0⟩ := by rfl
  have hruns := (tallies_add_up ⟨1, 2, 2, 0⟩ hdraws).2.1 Crew.ofTwo.intake hunused Crew.turnsOfTwo
  exact ⟨hdraws, hunused, hover, hruns.2 hover, htally⟩

end Simulation

end Courier

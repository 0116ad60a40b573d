import Courier.Proofs.Consumer.Balance
import Courier.Proofs.Consumer.Ledger

/-! # One event in each place

The journeys of a ledger fill the places of its consumer: each position of a
queue and each worker with an event is the place of one journey, a free one is
the place of none, and as many journeys have ended in one way as are counted.
-/

namespace Courier

/-- How many events have come to an end in one way. -/
def Stats.ended (s : Stats) : Fate → Nat
  | .delivered => s.delivered
  | .deadLettered => s.deadLettered
  | .abandoned => s.abandoned

namespace Consumer

/-- How many accepted events there must be at a place. -/
def occupancy (c : Consumer) : Spot → Nat
  | .queued i => if i < c.queue.length then 1 else 0
  | .held w => if c.workers[w]?.any Worker.holds then 1 else 0
  | .buried i => if i < c.dlq.length then 1 else 0
  | .settled fate => c.stats.ended fate

section Counting

variable {α : Type} [DecidableEq α] {f : α → α} {x y u v : α}

theorem count_map_of_forall_ne (hne : ∀ x, f x ≠ y) (l : List α) : (l.map f).count y = 0 := by
  rw [List.count_eq_zero]
  intro hmem
  obtain ⟨x, _, hx⟩ := List.mem_map.mp hmem
  exact hne x hx

theorem count_map_of_iff (hiff : ∀ x, f x = y ↔ x = u) (l : List α) :
    (l.map f).count y = l.count u := by
  induction l with
  | nil => rfl
  | cons x rest ih => simp [List.count_cons, ih, hiff]

theorem count_map_of_iff_or (hne : u ≠ v) (hiff : ∀ x, f x = y ↔ x = u ∨ x = v) (l : List α) :
    (l.map f).count y = l.count u + l.count v := by
  induction l with
  | nil => rfl
  | cons x rest ih =>
      simp only [List.map_cons, List.count_cons, beq_iff_eq, hiff, ih]
      by_cases hu : x = u
      · have hv : x ≠ v := fun hv => hne (hu.symm.trans hv)
        simp only [hu, true_or, if_true, hu ▸ hv, if_false]
        omega
      · simp only [hu, false_or, if_false]
        omega

end Counting

variable {c c' : Consumer} {a : Action} {moved : List Counter} {w : Nat} {worker : Worker}

/-- An action that lets the event of a worker go, and no other event. -/
theorem count_map_next_of_release (w : Nat) (target : Spot)
    (hnext : ∀ s : Spot, s.next c a = if s = .held w then target else s)
    (htarget : target ≠ .held w) (spots : List Spot) (s : Spot) :
    (spots.map (Spot.next c a)).count s =
      if s = .held w then 0
      else if s = target then spots.count (.held w) + spots.count target
      else spots.count s := by
  split
  next hs =>
    subst s
    apply count_map_of_forall_ne
    intro x hx
    rw [hnext] at hx
    split at hx <;> contradiction
  next hs =>
    split
    next hs' =>
      subst s
      apply count_map_of_iff_or htarget.symm
      intro x
      rw [hnext]
      by_cases hx : x = .held w <;> simp [hx, htarget.symm]
    next hs' =>
      apply count_map_of_iff
      intro x
      rw [hnext]
      by_cases hx : x = .held w
      · simp [hx, Ne.symm hs, Ne.symm hs']
      · simp [hx]

theorem occupancy_held_self {stage : Stage} (hworkers : c'.workers = (c.setStage w stage).workers)
    (hworker : c.workers[w]? = some worker) :
    c'.occupancy (.held w) = if stage.event?.isSome then 1 else 0 := by
  rw [occupancy, hworkers, setStage_workers_self c w stage hworker, Option.any_some]
  rfl

theorem occupancy_held_of_ne {stage : Stage} {k : Nat}
    (hworkers : c'.workers = (c.setStage w stage).workers)
    (hne : k ≠ w) : c'.occupancy (.held k) = c.occupancy (.held k) := by
  rw [occupancy, hworkers, setStage_workers_of_ne c w stage hne]
  rfl

theorem occupancy_held (hworker : c.workers[w]? = some worker) :
    c.occupancy (.held w) = if worker.holds then 1 else 0 := by
  rw [occupancy, hworker, Option.any_some]

/-- A worker that neither takes an event nor lets one go changes nothing. -/
theorem occupancy_of_restage (s : Spot) (stage : Stage)
    (hworkers : c'.workers = (c.setStage w stage).workers)
    (hworker : c.workers[w]? = some worker) (hholds : stage.event?.isSome = worker.holds)
    (hqueue : c'.queue = c.queue) (hdlq : c'.dlq = c.dlq)
    (hended : c'.stats.ended = c.stats.ended) : c'.occupancy s = c.occupancy s := by
  cases s with
  | queued i => rw [occupancy, hqueue, occupancy]
  | held k =>
      by_cases hk : k = w
      · subst k
        rw [occupancy_held_self hworkers hworker, occupancy_held hworker, hholds]
      · exact occupancy_held_of_ne hworkers hk
  | buried i => rw [occupancy, hdlq, occupancy]
  | settled fate => rw [occupancy, hended, occupancy]

variable {spots : List Spot}

theorem census_of_quiet (s : Spot) (hspots : ∀ s, spots.count s = c.occupancy s)
    (hnext : ∀ s : Spot, s.next c a = s) (hoccupancy : c'.occupancy s = c.occupancy s) :
    (spots.map (Spot.next c a)).count s = c'.occupancy s := by
  rw [count_map_of_iff (u := s) fun x => by rw [hnext], hspots, hoccupancy]

/-- A worker lets its event go, to a place that has room for one more. -/
theorem census_of_release (s : Spot) (stage : Stage) (target : Spot)
    (hspots : ∀ s, spots.count s = c.occupancy s)
    (hworkers : c'.workers = (c.setStage w stage).workers)
    (hworker : c.workers[w]? = some worker) (hholds : worker.holds = true)
    (hreleased : stage.event? = none)
    (hnext : ∀ s : Spot, s.next c a = if s = .held w then target else s)
    (htarget : ∀ k, target ≠ .held k)
    (hrest : ∀ s, (∀ k, s ≠ .held k) →
      c'.occupancy s = c.occupancy s + if s = target then 1 else 0) :
    (spots.map (Spot.next c a)).count s = c'.occupancy s := by
  have hone : spots.count (.held w) = 1 := by
    rw [hspots, occupancy_held hworker, if_pos hholds]
  rw [count_map_next_of_release w target hnext (htarget w)]
  by_cases hs : s = .held w
  · subst s
    rw [if_pos rfl, occupancy_held_self hworkers hworker, hreleased]
    rfl
  · rw [if_neg hs, hone, hspots, hspots]
    cases s with
    | held k =>
        have hk : k ≠ w := fun hk => hs (hk ▸ rfl)
        rw [if_neg (htarget k).symm, occupancy_held_of_ne hworkers hk]
    | _ =>
        rw [hrest _ fun k heq => by cases heq]
        split
        next heq => rw [← heq, Nat.add_comm]
        next => rfl

theorem occupancy_start (s : Spot) : c.start.occupancy s = c.occupancy s := by
  cases s with
  | held k =>
      simp only [occupancy, start, List.getElem?_append]
      split
      next => rfl
      next hlt =>
        rw [List.getElem?_replicate, List.getElem?_eq_none (Nat.not_lt.mp hlt)]
        split <;> rfl
  | _ => rfl

theorem occupancy_signal (s : Spot) : c.signal.occupancy s = c.occupancy s := by
  cases s with
  | held k =>
      simp only [occupancy, signal, List.getElem?_map, Option.any_map]
      rfl
  | _ => rfl

/-- The worker that takes the first event of the live queue gets it. -/
theorem census_of_take (s : Spot) (stage : Stage) (hspots : ∀ s, spots.count s = c.occupancy s)
    (hworkers : c'.workers = (c.setStage w stage).workers)
    (hworker : c.workers[w]? = some worker) (hholds : worker.holds = false)
    (htaken : stage.event?.isSome) (hqueue : c.queue.length = c'.queue.length + 1)
    (hdlq : c'.dlq = c.dlq) (hended : c'.stats.ended = c.stats.ended) :
    (spots.map (Spot.next c (.take w))).count s = c'.occupancy s := by
  cases s with
  | queued i =>
      rw [count_map_of_iff (u := .queued (i + 1)) ?_, hspots]
      · simp only [occupancy, hqueue, Nat.add_lt_add_iff_right]
      · rintro ((_ | _) | _ | _ | _) <;> simp [Spot.next]
  | held k =>
      by_cases hk : k = w
      -- Two places lead to the hands of the worker; one of them was free.
      · subst k
        rw [count_map_of_iff_or (u := .queued 0) (v := .held w) (by simp) ?_, hspots, hspots,
          occupancy_held hworker, hholds, occupancy_held_self hworkers hworker, htaken]
        · simp [occupancy, hqueue]
        · rintro ((_ | _) | _ | _ | _) <;> simp [Spot.next, eq_comm]
      · rw [count_map_of_iff (u := .held k) ?_, hspots, occupancy_held_of_ne hworkers hk]
        rintro ((_ | _) | _ | _ | _) <;> simp [Spot.next, Ne.symm hk]
  | buried i =>
      rw [count_map_of_iff (u := .buried i) ?_, hspots, occupancy, occupancy, hdlq]
      rintro ((_ | _) | _ | _ | _) <;> simp [Spot.next]
  | settled fate =>
      rw [count_map_of_iff (u := .settled fate) ?_, hspots, occupancy, occupancy, hended]
      rintro ((_ | _) | _ | _ | _) <;> simp [Spot.next]

/-- The first event of the dead-letter queue is settled. -/
theorem census_of_drain (s : Spot) (hspots : ∀ s, spots.count s = c.occupancy s) {d : Nat}
    (hworkers : c'.workers = c.workers) (hqueue : c'.queue = c.queue)
    (hdlq : c.dlq.length = c'.dlq.length + 1)
    (hended : ∀ fate, c'.stats.ended fate =
      c.stats.ended fate + if fate = .deadLettered then 1 else 0) :
    (spots.map (Spot.next c (.drain d))).count s = c'.occupancy s := by
  cases s with
  | queued i =>
      rw [count_map_of_iff (u := .queued i) ?_, hspots, occupancy, occupancy, hqueue]
      rintro (_ | _ | (_ | _) | _) <;> simp [Spot.next]
  | held k =>
      rw [count_map_of_iff (u := .held k) ?_, hspots, occupancy, occupancy, hworkers]
      rintro (_ | _ | (_ | _) | _) <;> simp [Spot.next]
  | buried i =>
      rw [count_map_of_iff (u := .buried (i + 1)) ?_, hspots]
      · simp only [occupancy, hdlq, Nat.add_lt_add_iff_right]
      · rintro (_ | _ | (_ | _) | _) <;> simp [Spot.next]
  | settled fate =>
      by_cases hfate : fate = .deadLettered
      · subst fate
        rw [count_map_of_iff_or (u := .buried 0) (v := .settled .deadLettered) (by simp) ?_,
          hspots, hspots]
        · simp only [occupancy, hdlq, hended, if_true, Nat.zero_lt_succ]
          omega
        · rintro (_ | _ | (_ | _) | _) <;> simp [Spot.next, eq_comm]
      · rw [count_map_of_iff (u := .settled fate) ?_, hspots, occupancy, occupancy, hended,
          if_neg hfate, Nat.add_zero]
        rintro (_ | _ | (_ | _) | _) <;> simp [Spot.next, Ne.symm hfate]

theorem census_of_accept (s : Spot) (hspots : ∀ s, spots.count s = c.occupancy s) {e : Event}
    (hqueue : c'.queue = c.queue ++ [e]) (hworkers : c'.workers = c.workers)
    (hdlq : c'.dlq = c.dlq) (hended : c'.stats.ended = c.stats.ended) :
    (spots.map (Spot.next c (.offer e))).count s + [Spot.queued c.queue.length].count s =
      c'.occupancy s := by
  rw [count_map_of_iff (u := s) fun x => by cases x <;> rfl, hspots]
  cases s with
  | queued i =>
      simp only [occupancy, hqueue, List.count_cons, List.count_nil, beq_iff_eq,
        Spot.queued.injEq, List.length_append, List.length_singleton]
      split <;> split <;> split <;> omega
  | held k => rw [occupancy, occupancy, hworkers]; rfl
  | buried i => rw [occupancy, occupancy, hdlq]; rfl
  | settled fate => rw [occupancy, occupancy, hended]; rfl

theorem Step.census_of_not_admitted (hstep : Step c a c' moved)
    (hspots : ∀ s, spots.count s = c.occupancy s) (hadmitted : c.admitted? a = none) (s : Spot) :
    (spots.map (Spot.next c a)).count s = c'.occupancy s := by
  cases hstep with
  | accept hroom =>
      rw [admitted?_offer, if_pos hroom] at hadmitted
      cases hadmitted
  | start => exact census_of_quiet s hspots (fun s => by cases s <;> rfl) (occupancy_start s)
  | signal => exact census_of_quiet s hspots (fun s => by cases s <;> rfl) (occupancy_signal s)
  | @take w _ e _ hworker hqueue =>
      exact census_of_take s (.handling e) hspots rfl hworker rfl rfl (by rw [hqueue]; rfl) rfl rfl
  | succeed hworker =>
      refine census_of_release s .idle (.settled .delivered) hspots rfl hworker rfl rfl ?_ (by simp)
        ?_
      · rintro (_ | _ | _ | _) <;> simp [Spot.next]
      · rintro (_ | k | _ | _ | _ | _) hs
        case held => exact absurd rfl (hs k)
        all_goals rfl
  | backOff hworker =>
      exact census_of_quiet s hspots (fun s => by cases s <;> rfl)
        (occupancy_of_restage s (.backingOff _ _) rfl hworker rfl rfl rfl rfl)
  | retryAtOnce hworker =>
      exact census_of_quiet s hspots (fun s => by cases s <;> rfl)
        (occupancy_of_restage s (.requeueing _) rfl hworker rfl rfl rfl rfl)
  | exhaust hworker =>
      exact census_of_quiet s hspots (fun s => by cases s <;> rfl)
        (occupancy_of_restage s (.deadLettering _) rfl hworker rfl rfl rfl rfl)
  | wake hworker =>
      exact census_of_quiet s hspots (fun s => by cases s <;> rfl)
        (occupancy_of_restage s (.requeueing _) rfl hworker rfl rfl rfl rfl)
  | requeue hworker =>
      refine census_of_release s .idle (.queued c.queue.length) hspots rfl hworker rfl rfl ?_
        (by simp) ?_
      · rintro (_ | _ | _ | _) <;> simp [Spot.next]
      · rintro (i | k | _ | _ | _ | _) hs
        case queued =>
          simp only [occupancy, List.length_append, List.length_singleton, Spot.queued.injEq]
          split <;> split <;> split <;> omega
        case held => exact absurd rfl (hs k)
        all_goals rfl
  | bury hworker =>
      refine census_of_release s .idle (.buried c.dlq.length) hspots rfl hworker rfl rfl ?_
        (by simp) ?_
      · rintro (_ | _ | _ | _) <;> simp [Spot.next]
      · rintro (_ | k | i | _ | _ | _) hs
        case buried =>
          simp only [occupancy, List.length_append, List.length_singleton, Spot.buried.injEq]
          split <;> split <;> split <;> omega
        case held => exact absurd rfl (hs k)
        all_goals rfl
  | drain _ hdlq =>
      refine census_of_drain s hspots rfl rfl (by rw [hdlq]; rfl) ?_
      rintro (_ | _ | _) <;> rfl
  | @stopIdle w hworker =>
      -- The worker has no event that could be abandoned.
      have hnone : spots.count (.held w) = 0 := by rw [hspots, occupancy_held hworker]; rfl
      have hnext : ∀ s : Spot,
          s.next c (.stop w) = if s = .held w then .settled .abandoned else s := by
        rintro (_ | _ | _ | _) <;> simp [Spot.next]
      rw [count_map_next_of_release w (.settled .abandoned) hnext (by simp), hnone,
        occupancy_of_restage s .stopped rfl hworker rfl rfl rfl rfl, ← hspots]
      split
      next hs => rw [hs, hnone]
      next =>
        split
        next hs => rw [hs, Nat.zero_add]
        next => rfl
  | @abandon w stage e hworker hwaiting =>
      refine census_of_release s .stopped (.settled .abandoned) hspots rfl hworker ?_ rfl ?_
        (by simp) ?_
      · rw [Worker.holds, Stage.event?_of_waiting? hwaiting, Option.isSome_some]
      · rintro (_ | _ | _ | _) <;> simp [Spot.next]
      · rintro (_ | k | _ | _ | _ | _) hs
        case held => exact absurd rfl (hs k)
        all_goals rfl
  | @lose w stage _ e hworker _ hevent =>
      refine census_of_quiet s hspots (fun s => by cases s <;> rfl)
        (occupancy_of_restage s (.lost e) rfl hworker ?_ rfl rfl rfl)
      rw [Worker.holds, hevent]
      rfl
  | loseIdle hworker =>
      exact census_of_quiet s hspots (fun s => by cases s <;> rfl)
        (occupancy_of_restage s .stopped rfl hworker rfl rfl rfl rfl)
  | _ =>
      refine census_of_quiet s hspots (fun s => by cases s <;> rfl) ?_
      rcases s with _ | _ | _ | _ | _ | _ <;> rfl

theorem Step.census (hstep : Step c a c' moved) (hspots : ∀ s, spots.count s = c.occupancy s)
    (s : Spot) :
    (spots.map (Spot.next c a)).count s +
      ((c.admitted? a).toList.map fun _ => Spot.queued c.queue.length).count s =
        c'.occupancy s := by
  cases hadmitted : c.admitted? a with
  | none => exact hstep.census_of_not_admitted hspots hadmitted s
  | some e =>
      cases hstep with
      | accept hroom => exact census_of_accept s hspots rfl rfl rfl rfl
      | refuse hfull =>
          rw [admitted?_offer, if_neg (Nat.not_lt.mpr hfull)] at hadmitted
          cases hadmitted
      | _ => cases hadmitted

end Consumer

namespace Ledger

variable {l l' : Ledger} {c : Consumer} {actions : List Consumer.Action}

/-- Each place is that of as many journeys as there must be events. -/
def Census (l : Ledger) : Prop :=
  ∀ spot, (l.journeys.map Journey.spot).count spot = l.consumer.occupancy spot

theorem create_census (name : String) (config : ConsumerConfig) :
    (create name config).Census := by
  rintro (_ | _ | _ | _ | _ | _) <;> rfl

theorem Census.advance (hcensus : l.Census) {a : Consumer.Action} {moved : List Counter}
    (hstep : Consumer.Step l.consumer a c moved) : (l.advance a c).Census := by
  intro spot
  have hspots : (l.advance a c).journeys.map Journey.spot =
      (l.journeys.map Journey.spot).map (Spot.next l.consumer a) ++
        (l.consumer.admitted? a).toList.map fun _ => .queued l.consumer.queue.length := by
    simp only [Ledger.advance, List.map_append, List.map_map]
    rfl
  rw [hspots, List.count_append]
  exact hstep.census hcensus spot

theorem census_run? (hrun : l.run? actions = some l') (hcensus : l.Census) : l'.Census :=
  run?_induction hrun hcensus fun _ _ _ _ hbefore hstep => hbefore.advance hstep

end Ledger

end Courier

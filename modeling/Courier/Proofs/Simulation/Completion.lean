import Courier.Proofs.Consumer.Balance
import Courier.Proofs.Simulation.Publishers

/-! # Publishers come to an end

Every turn of a publisher that is not over is one of finitely many, so that all
publishers come to an end if each gets its turns. The simulation itself lets
one publisher after the other handle its numbers, and no request is interrupted:
this is one of the ways in which turns can follow each other.
-/

namespace Courier

/-- More turns than a request takes from here, with the one in which it is
counted. -/
def Progress.effort : Progress → Nat
  | .arrived => 11
  | .asking left admitted => 2 * left.length + admitted.length + 4
  | .stored _ channels => channels.length + 3
  | .publishing _ _ left _ => left.length + 2
  | .done _ _ => 1

theorem Request.length_routed_le (r : Request) : r.routed.length ≤ 3 := by
  have hdefaults : r.notification.category.defaultChannels.length ≤ 3 := by
    cases r.notification.category <;> decide
  rw [routed, resolveChannels.eq_def]
  dsimp only
  split
  next =>
    split
    next => exact hdefaults
    next => exact Nat.le_trans (List.length_filter_le ..) hdefaults
  next => exact hdefaults

theorem Intake.Stride.effort_lt {s : Intake} {r : Request} {now : Moment} {progress : Progress}
    {after : Intake × Progress} (hstride : Stride s r now progress after)
    (hrunning : ∀ n result, progress ≠ .done n result) : after.2.effort < progress.effort := by
  cases hstride with
  | start =>
      have hrouted := r.length_routed_le
      simp only [Progress.effort, List.length_nil]
      omega
  | @ask c rest admitted =>
      simp only [Progress.effort, List.length_cons]
      split
      next =>
        rw [List.length_append, List.length_singleton]
        omega
      next => omega
  | rest => exact absurd rfl (hrunning _ _)
  | publish | finish | keep | save | unsaved | rateLimited | invalid | duplicate | noChannels =>
      simp only [Progress.effort, List.length_cons, List.length_nil]
      omega

namespace Simulation

open Intake (Stride Leads)

/-- More turns than the publisher takes from here. -/
def Publisher.work (x : Publisher) : Nat :=
  12 * x.left.length + (x.current.map fun job => job.progress.effort).getD 0

namespace Crew

def work (c : Crew) : Nat :=
  (c.publishers.map Publisher.work).sum

variable {t : Traffic} {c : Crew} {p i : Nat} {left : List Nat} {r : Request} {progress : Progress}
  {now : Moment} {x : Publisher}

theorem work_put_lt {y : Publisher} (hturn : c.publishers[p]? = some x) (hless : y.work < x.work) :
    (c.put p y).work < c.work := by
  have hsum : (c.put p y).work + x.work = c.work + y.work :=
    Consumer.sum_map_set Publisher.work y hturn
  omega

theorem advance_of_running (hrunning : ∀ n result, progress ≠ .done n result) (now : Moment) :
    c.advance t p now ⟨left, some ⟨i, r, progress⟩⟩ =
      { c.put p ⟨left, some ⟨i, r, (c.intake.stride r now progress).2⟩⟩ with
        intake := (c.intake.stride r now progress).1 } := by
  cases progress with
  | done n result => exact absurd rfl (hrunning n result)
  | arrived | asking | stored | publishing => rfl

/-- Every turn of a publisher that is not over takes it on. -/
theorem work_advance_lt (t : Traffic) (hturn : c.publishers[p]? = some x)
    (hgoing : x.isOver = false) (now : Moment) : (c.advance t p now x).work < c.work := by
  match x with
  | ⟨[], none⟩ => cases hgoing
  | ⟨i :: left, none⟩ =>
      refine work_put_lt hturn ?_
      change 12 * left.length + 11 < 12 * (left.length + 1) + 0
      omega
  | ⟨left, some ⟨i, r, progress⟩⟩ =>
      by_cases hdone : ∃ n result, progress = .done n result
      · obtain ⟨n, result, rfl⟩ := hdone
        refine work_put_lt hturn ?_
        change 12 * left.length + 0 < 12 * left.length + 1
        omega
      · have hrunning : ∀ n result, progress ≠ .done n result :=
          fun n result heq => hdone ⟨n, result, heq⟩
        rw [advance_of_running hrunning]
        refine work_put_lt hturn ?_
        have hless := (Intake.stride_stride c.intake r now progress).effort_lt hrunning
        exact Nat.add_lt_add_left hless _

/-- Some turns are left until everybody is done. -/
theorem exists_turns_isOver (t : Traffic) (c : Crew) (now : Moment) :
    ∃ turns : List Nat, (c.run t (turns.map fun p => .turn p now)).isOver = true := by
  induction hwork : c.work using Nat.strong_induction_on generalizing c with
  | _ n ih =>
      cases hover : c.isOver with
      | true => exact ⟨[], hover⟩
      | false =>
          obtain ⟨x, hx, hgoing⟩ := List.all_eq_false.mp hover
          obtain ⟨p, hturn⟩ := List.mem_iff_getElem?.mp hx
          have hless := work_advance_lt t hturn (Bool.not_eq_true _ ▸ hgoing) now
          obtain ⟨turns, hturns⟩ := ih _ (hwork ▸ hless) _ rfl
          refine ⟨p :: turns, ?_⟩
          rw [List.map_cons, run, perform, hturn]
          exact hturns

/-! ## One after the other -/

theorem run_append (t : Traffic) (c : Crew) (first second : List Action) :
    c.run t (first ++ second) = (c.run t first).run t second := by
  induction first generalizing c with
  | nil => rfl
  | cons a rest ih => exact ih (c.perform t a)

/-- A job goes on by turns of its publisher alone. -/
theorem exists_run_of_leads {before after : Intake × Progress} (hleads : Leads r now before after)
    (hintake : c.intake = before.1)
    (hturn : c.publishers[p]? = some ⟨left, some ⟨i, r, before.2⟩⟩) :
    ∃ actions, c.run t actions =
      { c.put p ⟨left, some ⟨i, r, after.2⟩⟩ with intake := after.1 } := by
  induction hleads with
  | refl =>
      obtain ⟨hlt, hget⟩ := List.getElem?_eq_some_iff.mp hturn
      refine ⟨[], ?_⟩
      rw [run, put, ← hget, List.set_getElem_self, ← hintake]
  | @tail middle after _ hstride ih =>
      obtain ⟨actions, hrun⟩ := ih
      by_cases hdone : ∃ n result, middle.2 = .done n result
      · obtain ⟨n, result, hdone⟩ := hdone
        rw [hdone] at hstride hrun
        exact ⟨actions, by rw [hrun, hstride]; rfl⟩
      · have hrunning : ∀ n result, middle.2 ≠ .done n result :=
          fun n result heq => hdone ⟨n, result, heq⟩
        have hplace : (c.publishers.set p ⟨left, some ⟨i, r, middle.2⟩⟩)[p]? =
            some ⟨left, some ⟨i, r, middle.2⟩⟩ :=
          List.getElem?_set_self (List.getElem?_eq_some_iff.mp hturn).1
        refine ⟨actions ++ [.turn p now], ?_⟩
        rw [run_append, hrun, run, run, perform]
        simp only [put, hplace]
        rw [advance_of_running hrunning, hstride]
        simp only [put, List.set_set]

/-- One publisher handles its next number from start to finish. -/
theorem exists_run_submit (hturn : c.publishers[p]? = some ⟨i :: left, none⟩) (now : Moment) :
    let response := c.intake.submit (t.request i now.date) now
    ∃ actions, c.run t actions =
      { c.close p left ⟨i, t.request i now.date, .done response.notification response.result⟩
          response.result with
        intake := response.intake } := by
  intro response
  have hlt := (List.getElem?_eq_some_iff.mp hturn).1
  let begun := c.put p ⟨left, some ⟨i, t.request i now.date, .arrived⟩⟩
  have hbegin : c.run t [.turn p now] = begun := by
    rw [run, run, perform, hturn]
    rfl
  obtain ⟨actions, hrun⟩ := exists_run_of_leads (t := t) (c := begun)
    (Intake.leads_submit c.intake (t.request i now.date) now) rfl (List.getElem?_set_self hlt)
  refine ⟨[.turn p now] ++ actions ++ [.turn p now], ?_⟩
  rw [run_append, run_append, hbegin, hrun, run, run, perform]
  have hplace : ∀ y, (begun.put p y).publishers[p]? = some y := by
    intro y
    change ((c.publishers.set p _).set p y)[p]? = some y
    rw [List.set_set, List.getElem?_set_self hlt]
  rw [hplace]
  simp only [advance, close, put, begun, List.set_set]
  rfl

/-- What tasks do is one of the things that happen around publishers. -/
theorem exists_run_of_tasks {actions : List Intake.Action}
    (htasks : ∀ a ∈ actions, a.isTask = true) :
    ∃ around, c.run t around = { c with intake := c.intake.run actions } := by
  induction actions generalizing c with
  | nil => exact ⟨[], rfl⟩
  | cons a rest ih =>
      obtain ⟨ha, hrest⟩ := List.forall_mem_cons.mp htasks
      obtain ⟨around, hrun⟩ := ih (c := c.perform t (.around a ha)) hrest
      exact ⟨.around a ha :: around, hrun⟩

/-- One publisher handles all its numbers while the others rest. -/
theorem exists_run_share (t : Traffic) (q : Pipeline) {numbers : List Nat}
    (hturn : c.publishers[p]? = some ⟨numbers, none⟩) (hintake : c.intake = q.world.intake) :
    ∃ actions, (c.run t actions).publishers = c.publishers.set p ⟨[], none⟩ ∧
      (c.run t actions).intake = (submitAll t numbers q c.tally).1.world.intake ∧
      (c.run t actions).tally = (submitAll t numbers q c.tally).2 := by
  induction numbers generalizing c q with
  | nil =>
      obtain ⟨hlt, hget⟩ := List.getElem?_eq_some_iff.mp hturn
      refine ⟨[], ?_, hintake, rfl⟩
      rw [run, ← hget, List.set_getElem_self]
  | cons i rest ih =>
      let r := t.request i q.world.moment.date
      obtain ⟨submits, hsubmits⟩ := exists_run_submit (t := t) hturn q.world.moment
      -- The world settles after the request, and only tasks do something then.
      obtain ⟨tasks, htasks, hsettled⟩ := World.works_settle
        { q.world with intake := (q.world.intake.submit r q.world.moment).intake }
      obtain ⟨around, haround⟩ := exists_run_of_tasks (t := t) (c := c.run t submits) htasks
      rw [← run_append, hsubmits, hintake] at haround
      have hplace : (c.publishers.set p ⟨rest, none⟩)[p]? = some ⟨rest, none⟩ :=
        List.getElem?_set_self (List.getElem?_eq_some_iff.mp hturn).1
      obtain ⟨actions, hpublishers, hafter, htally⟩ :=
        ih (q.submit r).1 (c := c.run t (submits ++ around)) (by rw [haround]; exact hplace)
          (by rw [haround]; exact hsettled.symm)
      rw [← run_append] at hpublishers hafter htally
      refine ⟨submits ++ around ++ actions, ?_, ?_, ?_⟩
      · rw [hpublishers, haround]
        exact List.set_set _
      · rw [hafter, haround]
        rfl
      · rw [htally, haround]
        rfl

theorem submitAll_append (t : Traffic) (first second : List Nat) (q : Pipeline) (tally : Tally) :
    submitAll t (first ++ second) q tally =
      submitAll t second (submitAll t first q tally).1 (submitAll t first q tally).2 := by
  induction first generalizing q tally with
  | nil => rfl
  | cons i rest ih => exact ih _ _

/-- The publishers that have not begun handle their numbers one after the
other. -/
theorem exists_run_submitAll (t : Traffic) (q : Pipeline) {done rest : List Publisher}
    (hpublishers : c.publishers = done ++ rest) (hdone : ∀ x ∈ done, x.isOver = true)
    (hrest : ∀ x ∈ rest, x.current = none) (hintake : c.intake = q.world.intake) :
    let numbers := rest.flatMap Publisher.left
    ∃ actions, (c.run t actions).isOver = true ∧
      (c.run t actions).intake = (submitAll t numbers q c.tally).1.world.intake ∧
      (c.run t actions).tally = (submitAll t numbers q c.tally).2 := by
  induction rest generalizing c q done with
  | nil =>
      refine ⟨[], ?_, hintake, rfl⟩
      rw [List.append_nil] at hpublishers
      rw [run, isOver, hpublishers, List.all_eq_true]
      exact hdone
  | cons x rest ih =>
      obtain ⟨hx, hrest⟩ := List.forall_mem_cons.mp hrest
      have hturn : c.publishers[done.length]? = some ⟨x.left, none⟩ := by
        rw [hpublishers, List.getElem?_append_right (Nat.le_refl _), Nat.sub_self, ← hx]
        rfl
      obtain ⟨first, hset, hafter, htally⟩ := exists_run_share t q hturn hintake
      have hpublishers' : (c.run t first).publishers = (done ++ [⟨[], none⟩]) ++ rest := by
        rw [hset, hpublishers, List.set_append_right _ _ (Nat.le_refl _), Nat.sub_self,
          List.set_cons_zero, List.append_assoc]
        rfl
      have hdone' : ∀ y ∈ done ++ [⟨[], none⟩], y.isOver = true :=
        List.forall_mem_append.mpr ⟨hdone, List.forall_mem_singleton.mpr rfl⟩
      obtain ⟨second, hover, hafter', htally'⟩ := ih _ hpublishers' hdone' hrest hafter
      refine ⟨first ++ second, ?_, ?_, ?_⟩
      · rw [run_append]
        exact hover
      · rw [run_append, hafter', htally, List.flatMap_cons, submitAll_append]
      · rw [run_append, htally', htally, List.flatMap_cons, submitAll_append]

end Crew

end Simulation

end Courier

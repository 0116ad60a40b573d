import Courier.Proofs.Delivery.Records
import Courier.Proofs.Intake.Deduplication
import Courier.Proofs.Intake.Strides
import Courier.Proofs.Simulation.Shares
import Courier.Proofs.World.Work
import Courier.Simulation.Run
import Mathlib.Data.List.Perm.Basic

/-! # Publishers side by side

A publisher handles its numbers one after the other: it makes a request, waits
until the request has ended, and counts how. Publishers interrupt each other
after every stride of a request, and tasks do what they do in between.

No request ends in a way that a simulation does not want, however it is
interrupted: the key and the identifier of a request are nobody else's, so that
it can be found in the intake by its own doing only.
-/

namespace Courier

namespace Intake

/-- No request was stored or remembered, and writes go on. -/
structure Unused (s : Intake) : Prop where
  notifications : s.repository.notifications = Table.empty
  accepts : s.repository.rejectsWrites = false
  seen : s.seen = SeenKeys.empty

/-- Tasks make no requests. -/
theorem answer?_of_isTask (s : Intake) {a : Action} (htask : a.isTask = true) :
    s.answer? a = none := by
  cases a with
  | submit => cases htask
  | _ => rfl

/-- No task makes the repository reject writes. -/
theorem rejectsWrites_perform (s : Intake) {a : Action} (htask : a.isTask = true) :
    (s.perform a).repository.rejectsWrites = s.repository.rejectsWrites := by
  cases a with
  | saveAttempt => exact Repository.rejectsWrites_save
  | updateAttempt => exact Repository.rejectsWrites_update
  | act | limit => rfl
  | _ => cases htask

end Intake

namespace Simulation

open Intake (Stride Leads)

/-- A request with its number, and how far it has come. -/
structure Job where
  number : Nat
  request : Request
  progress : Progress

/-- The notification of the job is in the repository. -/
def Job.isStored (x : Job) : Bool :=
  x.progress.record?.isSome

/-- A publisher with the numbers that are left, and the job that it is at. -/
structure Publisher where
  left : List Nat
  current : Option Job

def Publisher.isOver (x : Publisher) : Bool :=
  x.left.isEmpty && x.current.isNone

/-- Publishers at one intake. What jobs were counted is remembered, and nothing
depends on it. -/
structure Crew where
  intake : Intake
  publishers : List Publisher
  counted : List Job
  tally : Tally

namespace Crew

inductive Action where
  /-- A publisher goes on, at the moment that the clocks show then. -/
  | turn (p : Nat) (now : Moment)
  /-- A task does something. -/
  | around (a : Intake.Action) (htask : a.isTask = true)

/-- Publishers that have not begun. -/
def start (s : Intake) (count publishers : Nat) : Crew :=
  ⟨s, (List.range publishers).map fun p => ⟨Traffic.share count publishers p, none⟩, [], .zero⟩

def isOver (c : Crew) : Bool :=
  c.publishers.all Publisher.isOver

def put (c : Crew) (p : Nat) (x : Publisher) : Crew :=
  { c with publishers := c.publishers.set p x }

/-- A publisher counts how its job has ended, and has the rest of its numbers
left. -/
def close (c : Crew) (p : Nat) (left : List Nat) (x : Job)
    (result : Except RequestError QueueOutcome) : Crew :=
  { c.put p ⟨left, none⟩ with
    counted := x :: c.counted
    tally := c.tally.count result }

/-- What a publisher does next: it begins a job, goes on with it, or counts
it. -/
def advance (t : Traffic) (c : Crew) (p : Nat) (now : Moment) (x : Publisher) : Crew :=
  match x.current, x.left with
  | none, [] => c
  | none, i :: left => c.put p ⟨left, some ⟨i, t.request i now.date, .arrived⟩⟩
  | some ⟨i, r, .done n result⟩, left => c.close p left ⟨i, r, .done n result⟩ result
  | some ⟨i, r, progress⟩, left =>
      let (intake, progress) := c.intake.stride r now progress
      { c.put p ⟨left, some ⟨i, r, progress⟩⟩ with intake := intake }

def perform (t : Traffic) (c : Crew) : Action → Crew
  | .turn p now =>
      match c.publishers[p]? with
      | some x => c.advance t p now x
      | none => c
  | .around a _ => { c with intake := c.intake.perform a }

def run (t : Traffic) (c : Crew) : List Action → Crew
  | [] => c
  | a :: rest => (c.perform t a).run t rest

/-- One rule for each thing that can happen. -/
inductive Step (t : Traffic) (c : Crew) : Crew → Prop where
  | begin {p i : Nat} {left : List Nat} {date : Timestamp}
      (hturn : c.publishers[p]? = some ⟨i :: left, none⟩) :
      Step t c (c.put p ⟨left, some ⟨i, t.request i date, .arrived⟩⟩)
  | stride {p i : Nat} {left : List Nat} {r : Request} {progress : Progress} {now : Moment}
      {after : Intake × Progress} (hturn : c.publishers[p]? = some ⟨left, some ⟨i, r, progress⟩⟩)
      (hrunning : ∀ n result, progress ≠ .done n result)
      (hstride : Stride c.intake r now progress after) :
      Step t c { c.put p ⟨left, some ⟨i, r, after.2⟩⟩ with intake := after.1 }
  | count {p i : Nat} {left : List Nat} {r : Request} {n : Notification}
      {result : Except RequestError QueueOutcome}
      (hturn : c.publishers[p]? = some ⟨left, some ⟨i, r, .done n result⟩⟩) :
      Step t c (c.close p left ⟨i, r, .done n result⟩ result)
  | around {a : Intake.Action} (htask : a.isTask = true) :
      Step t c { c with intake := c.intake.perform a }

variable {t : Traffic} {c c' : Crew} {p count users : Nat} {now : Moment} {x : Publisher}
  {actions : List Action}

theorem step_advance (hturn : c.publishers[p]? = some x) (hgoing : x.isOver = false)
    (now : Moment) : Step t c (c.advance t p now x) := by
  match x with
  | ⟨[], none⟩ => cases hgoing
  | ⟨i :: left, none⟩ => exact .begin hturn
  | ⟨left, some ⟨i, r, progress⟩⟩ =>
      have hstride := Intake.stride_stride c.intake r now progress
      cases progress with
      | done n result => exact .count hturn
      | arrived | asking | stored | publishing =>
          refine .stride hturn ?_ hstride
          intro n result hdone
          cases hdone

theorem advance_of_isOver (hover : x.isOver = true) (now : Moment) :
    c.advance t p now x = c := by
  match x with
  | ⟨[], none⟩ => rfl
  | ⟨_ :: _, none⟩ | ⟨[], some _⟩ | ⟨_ :: _, some _⟩ => cases hover

/-- An action makes a step, or there is nothing to do. -/
theorem perform_eq_or_step (t : Traffic) (c : Crew) (a : Action) :
    c.perform t a = c ∨ Step t c (c.perform t a) := by
  cases a with
  | turn p now =>
      rw [perform]
      split
      next x hturn =>
        cases hover : x.isOver with
        | true => exact .inl (advance_of_isOver hover now)
        | false => exact .inr (step_advance hturn hover now)
      next => exact .inl rfl
  | around a htask => exact .inr (.around htask)

/-- What every step keeps holds after a run. -/
theorem run_induction {P : Crew → Prop} (hstart : P c)
    (hstep : ∀ before after, P before → Step t before after → P after) : P (c.run t actions) := by
  induction actions generalizing c with
  | nil => exact hstart
  | cons a rest ih =>
      refine ih ?_
      obtain heq | hmade := perform_eq_or_step t c a
      · rwa [heq]
      · exact hstep c _ hstart hmade

end Crew

/-! ## What the intake has of the jobs -/

/-- The intake has nothing but what these jobs have left in it, and none of them
has ended in another way than queued or rate limited. -/
structure Fits (t : Traffic) (s : Intake) (jobs : List Job) : Prop where
  accepts : s.repository.rejectsWrites = false
  own : ∀ x ∈ jobs, ∃ date, x.request = t.request x.number date
  keys : ∀ key, s.seen.contains key = true →
    ∃ x ∈ jobs, x.request.key = key ∧ x.progress.kept?.isSome = true
  ids : ∀ id, s.repository.notifications.contains id = true →
    ∃ x ∈ jobs, x.request.notification.id = id ∧ x.isStored = true
  size : s.repository.notifications.size = jobs.countP Job.isStored
  ends : ∀ x ∈ jobs, ∀ n result, x.progress = .done n result →
    Intake.isQueued result = true ∨ result = .ok .rateLimited

/-- The numbers of these jobs differ, and they are below `count`. -/
structure Numbered (count : Nat) (jobs : List Job) : Prop where
  nodup : (jobs.map Job.number).Nodup
  lt : ∀ x ∈ jobs, x.number < count

section Fits

theorem exists_mem_cons_iff {α : Type} {a : α} {l : List α} {P : α → Prop} :
    (∃ x ∈ a :: l, P x) ↔ P a ∨ ∃ x ∈ l, P x := by
  simp only [List.mem_cons, exists_eq_or_imp]

variable {t : Traffic} {s : Intake} {jobs others : List Job} {count users i : Nat} {r : Request}
  {progress : Progress} {now : Moment} {after : Intake × Progress} {x : Job}

theorem Numbered.perm (h : Numbered count jobs) (hperm : jobs.Perm others) :
    Numbered count others where
  nodup := (hperm.map _).nodup_iff.mp h.nodup
  lt := fun x hx => h.lt x (hperm.mem_iff.mpr hx)

theorem Fits.perm (h : Fits t s jobs) (hperm : jobs.Perm others) : Fits t s others where
  accepts := h.accepts
  own := fun x hx => h.own x (hperm.mem_iff.mpr hx)
  keys := by
    intro key hseen
    obtain ⟨x, hx, hrest⟩ := h.keys key hseen
    exact ⟨x, hperm.mem_iff.mp hx, hrest⟩
  ids := by
    intro id hheld
    obtain ⟨x, hx, hrest⟩ := h.ids id hheld
    exact ⟨x, hperm.mem_iff.mp hx, hrest⟩
  size := h.size.trans (hperm.countP_eq _)
  ends := fun x hx => h.ends x (hperm.mem_iff.mpr hx)

theorem Fits.begin (h : Fits t s jobs) (i : Nat) (date : Timestamp) :
    Fits t s (⟨i, t.request i date, .arrived⟩ :: jobs) where
  accepts := h.accepts
  own := List.forall_mem_cons.mpr ⟨⟨date, rfl⟩, h.own⟩
  keys := by
    intro key hseen
    obtain ⟨x, hx, hrest⟩ := h.keys key hseen
    exact ⟨x, List.mem_cons_of_mem _ hx, hrest⟩
  ids := by
    intro id hheld
    obtain ⟨x, hx, hrest⟩ := h.ids id hheld
    exact ⟨x, List.mem_cons_of_mem _ hx, hrest⟩
  size := by
    rw [List.countP_cons_of_neg (by exact Bool.false_ne_true)]
    exact h.size
  ends := by
    refine List.forall_mem_cons.mpr ⟨?_, h.ends⟩
    intro n result hdone
    cases hdone

/-- Tasks do not touch keys and notifications, and writes go on. -/
theorem Fits.around (h : Fits t s jobs) {a : Intake.Action} (htask : a.isTask = true) :
    Fits t (s.perform a) jobs := by
  obtain ⟨hseen, hnotifications⟩ :=
    Intake.perform_of_answer?_eq_none (Intake.answer?_of_isTask s htask)
  refine ⟨?_, h.own, ?_, ?_, ?_, h.ends⟩
  · exact (Intake.rejectsWrites_perform s htask).trans h.accepts
  · rw [hseen]
    exact h.keys
  · rw [hnotifications]
    exact h.ids
  · rw [Table.size, hnotifications]
    exact h.size

/-- A job that has not kept its key does not find it. -/
theorem Fits.contains_key_eq_false (h : Fits t s (⟨i, r, progress⟩ :: others))
    (hnumbered : Numbered count (⟨i, r, progress⟩ :: others)) (hdraws : t.Draws count users)
    (hnone : progress.kept? = none) : s.seen.contains r.key = false := by
  rw [← Bool.not_eq_true]
  intro hseen
  obtain ⟨x, hx, hkey, hkept⟩ := h.keys _ hseen
  obtain ⟨date, hown⟩ := h.own x hx
  obtain ⟨date', hown'⟩ := h.own _ List.mem_cons_self
  rw [hown, show r = t.request i date' from hown'] at hkey
  have heq := Traffic.eq_of_key_request_eq hdraws (hnumbered.lt x hx)
    (hnumbered.lt _ List.mem_cons_self) hkey
  obtain rfl | hother := List.mem_cons.mp hx
  · rw [hnone] at hkept
    cases hkept
  · exact (List.nodup_cons.mp hnumbered.nodup).1 (heq ▸ List.mem_map_of_mem hother)

/-- The identifier of a job that is not stored is free. -/
theorem Fits.contains_id_eq_false (h : Fits t s (⟨i, r, progress⟩ :: others))
    (hnumbered : Numbered count (⟨i, r, progress⟩ :: others)) (hdraws : t.Draws count users)
    (hnone : progress.record? = none) :
    s.repository.notifications.contains r.notification.id = false := by
  rw [← Bool.not_eq_true]
  intro hheld
  obtain ⟨x, hx, hid, hstored⟩ := h.ids _ hheld
  obtain ⟨date, hown⟩ := h.own x hx
  obtain ⟨date', hown'⟩ := h.own _ List.mem_cons_self
  rw [hown, show r = t.request i date' from hown'] at hid
  have heq := hdraws.id _ _ (hnumbered.lt x hx) (hnumbered.lt _ List.mem_cons_self) hid
  obtain rfl | hother := List.mem_cons.mp hx
  · rw [Job.isStored, hnone] at hstored
    cases hstored
  · exact (List.nodup_cons.mp hnumbered.nodup).1 (heq ▸ List.mem_map_of_mem hother)

/-- How a stride can end a request. -/
theorem Fits.ends_stride (h : Fits t s (⟨i, r, progress⟩ :: others))
    (hnumbered : Numbered count (⟨i, r, progress⟩ :: others)) (hdraws : t.Draws count users)
    (hstride : Stride s r now progress after) {n : Notification}
    {result : Except RequestError QueueOutcome} (hdone : after.2 = .done n result) :
    Intake.isQueued result = true ∨ result = .ok .rateLimited := by
  obtain ⟨date, hown⟩ := h.own _ List.mem_cons_self
  obtain rfl : r = t.request i date := hown
  have hvalid := Traffic.validate_request hdraws (hnumbered.lt _ List.mem_cons_self) date
  cases hstride with
  | invalid hinvalid => cases hvalid.symm.trans hinvalid
  | duplicate _ hseen =>
      rw [h.contains_key_eq_false hnumbered hdraws rfl] at hseen
      cases hseen
  | noChannels _ _ hnowhere => exact absurd hnowhere (Traffic.routed_request t i date)
  | unsaved _ hfailed =>
      have hfree := h.contains_id_eq_false hnumbered hdraws rfl
      have hsaved : ∃ repository, s.repository.save ((t.request i date).queuedAt now) =
          .ok repository := ⟨_, Repository.save_eq_ok_iff.mpr ⟨h.accepts, hfree, rfl⟩⟩
      obtain ⟨repository, hsaved⟩ := hsaved
      cases hfailed.symm.trans hsaved
  | rateLimited =>
      cases hdone
      exact .inr rfl
  | finish =>
      cases hdone
      exact .inl rfl
  | rest => exact h.ends _ List.mem_cons_self n result hdone
  | start | ask | save | keep | publish => cases hdone

/-- One job makes a stride, and the others are where they were. -/
theorem Fits.stride (h : Fits t s (⟨i, r, progress⟩ :: others))
    (hnumbered : Numbered count (⟨i, r, progress⟩ :: others)) (hdraws : t.Draws count users)
    (hstride : Stride s r now progress after) : Fits t after.1 (⟨i, r, after.2⟩ :: others) where
  accepts := by
    obtain ⟨-, hrepository⟩ | ⟨-, -, hsaved⟩ := hstride.record
    · rw [hrepository, h.accepts]
    · obtain ⟨haccepts, -, hafter⟩ := Repository.save_eq_ok_iff.mp hsaved
      rw [hafter, haccepts]
  own := by
    obtain ⟨hown, hothers⟩ := List.forall_mem_cons.mp h.own
    exact List.forall_mem_cons.mpr ⟨hown, hothers⟩
  keys := by
    intro key hseen
    rw [exists_mem_cons_iff]
    obtain ⟨hsame, hstill⟩ | ⟨hstored, n, hkept⟩ := hstride.kept
    · rw [hsame] at hseen
      refine (exists_mem_cons_iff.mp (h.keys key hseen)).imp_left ?_
      rintro ⟨hkey, hbefore⟩
      obtain ⟨n, hn⟩ := Option.isSome_iff_exists.mp hbefore
      exact ⟨hkey, Option.isSome_of_eq_some (hstill n hn)⟩
    · rw [hstored, SeenKeys.contains_store] at hseen
      have hmine : after.2.kept?.isSome = true := Option.isSome_of_eq_some hkept
      obtain hkey | hseen := hseen
      · exact .inl ⟨hkey.symm, hmine⟩
      · exact (exists_mem_cons_iff.mp (h.keys key hseen)).imp_left fun hbefore => ⟨hbefore.1, hmine⟩
  ids := by
    intro id hheld
    rw [exists_mem_cons_iff]
    obtain ⟨hrecord, hrepository⟩ | ⟨-, hrecord, hsaved⟩ := hstride.record
    · rw [hrepository] at hheld
      refine (exists_mem_cons_iff.mp (h.ids id hheld)).imp_left ?_
      rintro ⟨hid, hstored⟩
      exact ⟨hid, (congrArg Option.isSome hrecord).trans hstored⟩
    · obtain ⟨-, -, hafter⟩ := Repository.save_eq_ok_iff.mp hsaved
      have hmine : after.2.record?.isSome = true := Option.isSome_of_eq_some hrecord
      rw [hafter, Table.contains_eq_isSome, Table.get?_insert] at hheld
      split at hheld
      next hid => exact .inl ⟨hid.symm, hmine⟩
      next =>
        rw [← Table.contains_eq_isSome] at hheld
        exact (exists_mem_cons_iff.mp (h.ids id hheld)).imp_left fun hbefore => ⟨hbefore.1, hmine⟩
  size := by
    obtain ⟨hrecord, hrepository⟩ | ⟨hnone, hrecord, hsaved⟩ := hstride.record
    · rw [hrepository, h.size, List.countP_cons, List.countP_cons, Job.isStored, Job.isStored,
        hrecord]
    · obtain ⟨-, hfree, hafter⟩ := Repository.save_eq_ok_iff.mp hsaved
      rw [hafter, Table.size_insert, hfree, h.size, List.countP_cons, List.countP_cons,
        Job.isStored, Job.isStored, hrecord, hnone]
      rfl
  ends := by
    obtain ⟨-, hothers⟩ := List.forall_mem_cons.mp h.ends
    exact List.forall_mem_cons.mpr
      ⟨fun n result => h.ends_stride hnumbered hdraws hstride, hothers⟩

end Fits

/-! ## What the publishers have of the numbers -/

namespace Crew

/-- The jobs that have been begun. -/
def jobs (c : Crew) : List Job :=
  c.counted ++ c.publishers.filterMap Publisher.current

/-- The numbers that nobody has begun. -/
def unbegun (c : Crew) : List Nat :=
  c.publishers.flatMap Publisher.left

/-- Every number belongs to one job or is still to be begun, the intake has what
the jobs have left there, and the tally is that of the counted jobs. -/
structure Consistent (t : Traffic) (count : Nat) (c : Crew) : Prop where
  numbers : (c.jobs.map Job.number ++ c.unbegun).Perm (List.range count)
  fits : Fits t c.intake c.jobs
  tally : c.tally =
    ⟨c.counted.countP Job.isStored, 0, 0, c.counted.countP fun x => !x.isStored, 0⟩

section Steps

variable {t : Traffic} {c c' : Crew} {p count users : Nat} {x : Publisher}
  {others : List Publisher} {actions : List Action}

/-- The turn of one publisher leaves the others alone. -/
theorem exists_others (hturn : c.publishers[p]? = some x) :
    ∃ others, c.publishers.Perm (x :: others) ∧
      ∀ y, (c.put p y).publishers.Perm (y :: others) := by
  obtain ⟨hlt, rfl⟩ := List.getElem?_eq_some_iff.mp hturn
  exact ⟨c.publishers.eraseIdx p, (List.getElem_cons_eraseIdx_perm hlt).symm,
    fun y => List.set_perm_cons_eraseIdx hlt y⟩

theorem jobs_perm (hperm : c.publishers.Perm (x :: others)) :
    c.jobs.Perm (x.current.toList ++ (c.counted ++ others.filterMap Publisher.current)) := by
  refine ((hperm.filterMap _).append_left c.counted).trans ?_
  cases hcurrent : x.current with
  | none => rw [List.filterMap_cons_none hcurrent]; exact .refl _
  | some job => rw [List.filterMap_cons_some hcurrent]; exact List.perm_middle

theorem unbegun_perm (hperm : c.publishers.Perm (x :: others)) :
    c.unbegun.Perm (x.left ++ others.flatMap Publisher.left) :=
  hperm.flatMap_right _

theorem Consistent.numbered (h : c.Consistent t count) : Numbered count c.jobs where
  nodup := (h.numbers.nodup_iff.mpr List.nodup_range).of_append_left
  lt := by
    intro job hjob
    exact List.mem_range.mp
      (h.numbers.mem_iff.mp (List.mem_append_left _ (List.mem_map_of_mem hjob)))

theorem Consistent.step (h : c.Consistent t count) (hdraws : t.Draws count users)
    (hstep : Step t c c') : c'.Consistent t count := by
  cases hstep with
  | @begin p i left date hturn =>
      obtain ⟨others, hbefore, hafter⟩ := exists_others hturn
      have hjobs := jobs_perm hbefore
      have hjobs' := jobs_perm (hafter ⟨left, some ⟨i, t.request i date, .arrived⟩⟩)
      refine ⟨?_, ?_, h.tally⟩
      · refine (((hjobs'.map _).append (unbegun_perm (hafter _))).trans ?_).trans h.numbers
        exact List.perm_middle.symm.trans ((hjobs.map _).append (unbegun_perm hbefore)).symm
      · exact ((h.fits.perm hjobs).begin i date).perm hjobs'.symm
  | @stride p i left r progress now after hturn _ hstride =>
      obtain ⟨others, hbefore, hafter⟩ := exists_others hturn
      have hjobs := jobs_perm hbefore
      have hjobs' := jobs_perm (hafter ⟨left, some ⟨i, r, after.2⟩⟩)
      refine ⟨?_, ?_, h.tally⟩
      · refine ((hjobs'.map _).append (unbegun_perm (hafter _))).trans ?_
        exact ((hjobs.map _).append (unbegun_perm hbefore)).symm.trans h.numbers
      · have hstrode := (h.fits.perm hjobs).stride (h.numbered.perm hjobs) hdraws hstride
        exact hstrode.perm hjobs'.symm
  | @count p i left r n result hturn =>
      obtain ⟨others, hbefore, hafter⟩ := exists_others hturn
      have hjobs := jobs_perm hbefore
      have hjobs' : (c.close p left ⟨i, r, .done n result⟩ result).jobs.Perm c.jobs := by
        refine List.Perm.trans ?_ hjobs.symm
        exact ((hafter ⟨left, none⟩).filterMap _).append_left (_ :: c.counted)
      refine ⟨?_, h.fits.perm hjobs'.symm, ?_⟩
      · refine ((hjobs'.map _).append (unbegun_perm (hafter _))).trans ?_
        exact ((unbegun_perm hbefore).append_left _).symm.trans h.numbers
      · have hends := h.fits.ends _ (hjobs.mem_iff.mpr List.mem_cons_self) n result rfl
        rw [close, h.tally, List.countP_cons, List.countP_cons]
        match result, hends with
        | .ok (.queued _ _), _ => rfl
        | .ok .rateLimited, _ => rfl
  | around htask => exact ⟨h.numbers, h.fits.around htask, h.tally⟩

/-- No publisher has begun, and the shares are all the numbers. -/
theorem consistent_start {s : Intake} (hunused : s.Unused) {publishers : Nat}
    (hpositive : 0 < publishers) : (start s count publishers).Consistent t count := by
  have hjobs : (start s count publishers).jobs = [] := by
    rw [jobs, start, List.nil_append, List.filterMap_map]
    exact List.filterMap_eq_nil_iff.mpr fun _ _ => rfl
  have hunbegun : (start s count publishers).unbegun = Traffic.order count publishers := by
    rw [unbegun, start, List.flatMap_map]
    rfl
  refine ⟨?_, ?_, rfl⟩
  · rw [hjobs, hunbegun]
    exact Traffic.order_perm hpositive
  · rw [hjobs]
    refine ⟨hunused.accepts, List.forall_mem_nil _, ?_, ?_, ?_, List.forall_mem_nil _⟩
    · intro key hseen
      change s.seen.contains key = true at hseen
      rw [hunused.seen] at hseen
      cases hseen
    · intro id hheld
      change s.repository.notifications.contains id = true at hheld
      rw [hunused.notifications] at hheld
      cases hheld
    · change s.repository.notifications.size = 0
      rw [hunused.notifications]
      rfl

theorem consistent_run (hdraws : t.Draws count users) (h : c.Consistent t count) :
    (c.run t actions).Consistent t count :=
  run_induction h fun _ _ hbefore hstep => hbefore.step hdraws hstep

end Steps

end Crew

end Simulation

end Courier

import Courier.Proofs.Delivery.Counting
import Courier.Proofs.Delivery.Tally
import Mathlib.Data.List.Perm.Basic

/-! # Deliveries that share a record

Several consumers may be subscribed to one topic, so the same notification may
be delivered on the same channel by several handlers at once. They share one
record, read it before the send and write it after. A try is counted for good
unless another delivery reads the record before it is written.
-/

namespace Courier

namespace Delivery

/-- The delivery has looked for the record and has not written it yet. -/
def Point.isOpen : Point → Bool
  | .creating | .sending _ | .writing _ _ => true
  | .arrived | .done _ => false

/-- A delivery with what it has read. -/
structure Visit where
  event : Event
  point : Point
  /-- How many tries the record counted when it was looked for. -/
  seen : Nat

/-- The number that the delivery has read and not written back yet. -/
def Visit.read? (visit : Visit) : Option Nat :=
  if visit.point.isOpen then some visit.seen else none

/-- A repository with all deliveries of one notification on one channel. What
the record counts is also kept as a number that nothing depends on. -/
structure Crowd where
  repository : Repository
  visits : List Visit
  counted : Nat

namespace Crowd

inductive Action (id : NotificationId) (c : Channel) where
  /-- A handler is called. -/
  | call (e : Event) (hsame : e.routed.notification.id = id)
  /-- A delivery makes one stride, with this answer should it call its sender. -/
  | proceed (k : Nat) (now : Timestamp) (answer : Except SendError Unit)
  /-- Something else is written to the repository. -/
  | around (w : Repository.Write) (hother : w.key? ≠ some (id, c))

/-- A repository and no delivery so far. -/
def gather (r : Repository) : Crowd := ⟨r, [], 0⟩

/-- The delivery at this place makes a stride. -/
def advance (x : Crowd) (c : Channel) (k : Nat) (visit : Visit) (now : Timestamp)
    (answer : Except SendError Unit) : Crowd :=
  let (repository, _, point) :=
    stride Repository.store (fun _ _ => ((), answer)) c now visit.event x.repository () visit.point
  let (seen, counted) := account x.counted visit.seen visit.point
  ⟨repository, x.visits.set k ⟨visit.event, point, seen⟩, counted⟩

variable {id : NotificationId} {c : Channel}

def perform (x : Crowd) : Action id c → Crowd
  | .call e _ => { x with visits := x.visits ++ [⟨e, .arrived, 0⟩] }
  | .proceed k now answer =>
      match x.visits[k]? with
      | some visit => x.advance c k visit now answer
      | none => x
  | .around w _ => { x with repository := x.repository.perform w }

def run (x : Crowd) : List (Action id c) → Crowd
  | [] => x
  | a :: rest => (x.perform a).run rest

/-- How often a sender was called. -/
def sends (x : Crowd) : Nat :=
  x.visits.countP fun visit => visit.point.hasSent

/-- The deliveries as readers and writers of one count. -/
def tally (x : Crowd) : Tally where
  counted := x.counted
  written := x.visits.countP fun visit => visit.point.hasWritten
  seen := x.visits.filterMap Visit.read?

/-- From looking for the record to writing it, no delivery meets another. -/
def Serial (x : Crowd) : List (Action id c) → Prop
  | [] => x.tally.seen.length ≤ 1
  | a :: rest => x.tally.seen.length ≤ 1 ∧ (x.perform a).Serial rest

/-- What the record and the deliveries know of each other. -/
structure Coherent (id : NotificationId) (c : Channel) (x : Crowd) : Prop where
  accepts : x.repository.rejectsWrites = false
  recorded : Recorded id c (x.repository.findAttempt? id c) x.counted
    (x.visits.any fun visit => visit.point.hasRecord)
  visits : ∀ visit ∈ x.visits, visit.event.routed.notification.id = id ∧
    visit.point.Counts id c visit.seen

variable {x : Crowd} {a : Action id c} {actions : List (Action id c)} {k : Nat} {visit : Visit}
  {now : Timestamp} {answer : Except SendError Unit}

/-- One delivery moves, and all others are where they were. -/
theorem exists_others (hvisit : x.visits[k]? = some visit) :
    ∃ others : List Visit, x.visits.Perm (visit :: others) ∧
      ∀ next, (x.visits.set k next).Perm (next :: others) := by
  obtain ⟨hlt, rfl⟩ := List.getElem?_eq_some_iff.mp hvisit
  exact ⟨x.visits.eraseIdx k, (List.getElem_cons_eraseIdx_perm hlt).symm,
    List.set_perm_cons_eraseIdx hlt⟩

/-- A stride reads the count, writes it back, or does neither. -/
theorem shift_advance (hvisit : x.visits[k]? = some visit) (c : Channel) (now : Timestamp)
    (answer : Except SendError Unit) :
    Tally.Shift x.tally (x.advance c k visit now answer).tally := by
  obtain ⟨others, hbefore, hafter⟩ := exists_others hvisit
  obtain ⟨event, point, seen⟩ := visit
  have hseen := hbefore.filterMap Visit.read?
  have hwritten := hbefore.countP_eq fun visit => visit.point.hasWritten
  have hstride := stride_stride Repository.store (fun _ _ => ((), answer)) c now event x.repository
    () point
  unfold advance
  dsimp only
  generalize stride Repository.store _ c now event x.repository () point = after at hstride ⊢
  have hseen' := (hafter ⟨event, after.2.2, (account x.counted seen point).1⟩).filterMap Visit.read?
  have hwritten' := (hafter ⟨event, after.2.2, (account x.counted seen point).1⟩).countP_eq
    fun visit => visit.point.hasWritten
  cases hstride with
  | refuse | rest | create | send =>
      exact .read [] nofun rfl (hwritten'.trans hwritten.symm) (hseen'.trans hseen.symm)
  | load | miss | fallBack =>
      refine .read [x.counted] (fun _ hnew => List.mem_singleton.mp hnew) rfl
        (hwritten'.trans hwritten.symm) ?_
      exact hseen'.trans (hseen.symm.cons _)
  | @write a answer =>
      rw [List.countP_cons] at hwritten hwritten'
      have hdone : (Point.done (outcome answer)).hasWritten = true := by
        rw [Point.hasWritten, Point.hasSent, Point.answer?_outcome]
        rfl
      rw [hdone] at hwritten'
      refine .write (n := seen) rfl ?_ ?_
      · exact hwritten'.trans (congrArg (· + 1) hwritten.symm)
      · exact hseen.trans (hseen'.symm.cons _)

theorem shift_perform (x : Crowd) (a : Action id c) : Tally.Shift x.tally (x.perform a).tally := by
  have hstay : Tally.Shift x.tally x.tally := .read [] nofun rfl rfl (.refl _)
  cases a with
  | call e hsame =>
      refine .read [] nofun rfl ?_ (.of_eq ?_)
      · exact List.countP_append.trans (Nat.add_zero _)
      · exact List.filterMap_append.trans (List.append_nil _)
  | proceed k now answer =>
      rw [perform]
      split
      next visit hvisit => exact shift_advance hvisit c now answer
      next => exact hstay
  | around w hother => exact hstay

theorem Coherent.advance (h : Coherent id c x) (hvisit : x.visits[k]? = some visit)
    (now : Timestamp) (answer : Except SendError Unit) :
    Coherent id c (x.advance c k visit now answer) := by
  obtain ⟨haccepts, hrecorded, hvisits⟩ := h
  obtain ⟨others, hbefore, hafter⟩ := exists_others hvisit
  obtain ⟨hsame, hcounts⟩ := hvisits visit (List.mem_of_getElem? hvisit)
  rw [hbefore.any_eq, List.any_cons] at hrecorded
  have hstride := stride_stride Repository.store (fun _ _ => ((), answer)) c now visit.event
    x.repository () visit.point
  obtain ⟨haccepts', hrecorded', hcounts'⟩ :=
    recorded_stride hstride haccepts hsame hrecorded hcounts
  refine ⟨haccepts', ?_, ?_⟩
  · have hknown (next : Visit) : ((x.visits.set k next).any fun visit => visit.point.hasRecord) =
        (next.point.hasRecord || others.any fun visit => visit.point.hasRecord) :=
      (hafter next).any_eq
    rw [Crowd.advance]
    dsimp only
    rw [hknown]
    exact hrecorded'
  · intro other hmem
    obtain hold | rfl := List.mem_or_eq_of_mem_set hmem
    · exact hvisits other hold
    · exact ⟨hsame, hcounts'⟩

theorem Coherent.perform (h : Coherent id c x) (a : Action id c) :
    Coherent id c (x.perform a) := by
  cases a with
  | call e hsame =>
      obtain ⟨haccepts, hrecorded, hvisits⟩ := h
      refine ⟨haccepts, ?_, ?_⟩
      · rw [Crowd.perform, List.any_append]
        exact (Bool.or_false _).symm ▸ hrecorded
      · intro visit hmem
        obtain hold | hnew := List.mem_append.mp hmem
        · exact hvisits visit hold
        · rw [List.mem_singleton.mp hnew]
          exact ⟨hsame, trivial⟩
  | proceed k now answer =>
      rw [Crowd.perform]
      split
      next visit hvisit => exact h.advance hvisit now answer
      next => exact h
  | around w hother =>
      obtain ⟨haccepts, hrecorded, hvisits⟩ := h
      refine ⟨Repository.rejectsWrites_perform.trans haccepts, ?_, hvisits⟩
      rw [Crowd.perform, Repository.findAttempt?_perform hother]
      exact hrecorded

/-- What every action keeps holds after a run. -/
theorem run_induction {P : Crowd → Prop} (hstart : P x)
    (hstep : ∀ (before : Crowd) (a : Action id c), P before → P (before.perform a)) :
    P (x.run actions) := by
  induction actions generalizing x with
  | nil => exact hstart
  | cons a rest ih => exact ih (hstep x a hstart)

theorem coherent_run (h : Coherent id c x) : Coherent id c (x.run actions) :=
  run_induction h fun _ a hbefore => hbefore.perform a

theorem bounded_run (actions : List (Action id c)) (h : x.tally.Bounded) :
    (x.run actions).tally.Bounded :=
  run_induction h fun before a hbefore => (shift_perform before a).bounded hbefore

/-- The count keeps up with the writes while no two deliveries overlap. -/
theorem exact_run (hserial : x.Serial actions) (h : x.tally.Exact) :
    (x.run actions).tally.Exact := by
  induction actions generalizing x with
  | nil => exact h
  | cons a rest ih =>
      obtain ⟨halone, hrest⟩ := hserial
      exact ih hrest ((shift_perform x a).exact halone h)

theorem late_run (actions : List (Action id c)) (hbounded : x.tally.Bounded)
    (h : x.tally.Late) : (x.run actions).tally.Late := by
  have hboth : (x.run actions).tally.Bounded ∧ (x.run actions).tally.Late :=
    run_induction (P := fun after => after.tally.Bounded ∧ after.tally.Late) ⟨hbounded, h⟩
      fun before a ⟨hbefore, hlate⟩ =>
        ⟨(shift_perform before a).bounded hbefore, (shift_perform before a).late hbefore hlate⟩
  exact hboth.2

/-- Deliveries that overlap once leave the count behind. -/
theorem late_of_not_serial (hoverlap : ¬ x.Serial actions) (hbounded : x.tally.Bounded) :
    (x.run actions).tally.Late := by
  induction actions generalizing x with
  | nil => exact .crowded (Nat.lt_of_not_le hoverlap)
  | cons a rest ih =>
      by_cases halone : x.tally.seen.length ≤ 1
      · exact ih (fun hrest => hoverlap ⟨halone, hrest⟩)
          ((shift_perform x a).bounded hbounded)
      · exact late_run (a :: rest) hbounded (.crowded (Nat.lt_of_not_le halone))

/-- Where all deliveries are done, each that called its sender has written. -/
theorem tally_of_done (hdone : ∀ visit ∈ x.visits, visit.point.isDone = true) :
    x.tally.written = x.sends ∧ x.tally.seen = [] := by
  constructor
  · apply List.countP_congr
    intro visit hmem
    simp [Point.hasWritten, hdone visit hmem]
  · rw [tally, List.filterMap_eq_nil_iff]
    intro visit hmem
    obtain ⟨event, point, seen⟩ := visit
    have hpoint := hdone _ hmem
    cases point <;> first | rfl | cases hpoint

/-- Where all deliveries are done, there is a record if a sender was called. -/
theorem any_hasRecord_of_done (hdone : ∀ visit ∈ x.visits, visit.point.isDone = true) :
    (x.visits.any fun visit => visit.point.hasRecord) = true ↔ 0 < x.sends := by
  rw [sends, List.countP_pos_iff, List.any_eq_true]
  apply exists_congr
  intro visit
  apply and_congr_right
  intro hmem
  obtain ⟨event, point, seen⟩ := visit
  have hpoint := hdone _ hmem
  cases point <;> first | rfl | cases hpoint

theorem gather_coherent {r : Repository} (haccepts : r.rejectsWrites = false)
    (hnew : r.findAttempt? id c = none) : Coherent id c (gather r) := by
  refine ⟨haccepts, ⟨congrArg Option.isSome hnew, fun _ => rfl, ?_⟩, ?_⟩
  · intro a hfound
    cases hnew.symm.trans hfound
  · intro visit hmem
    cases hmem

/-- Whatever several handlers of one channel do at once with a notification that
had no record, once all of them are done there is one record if a sender was
called, and else none. It counts no more tries than were made, and as many
exactly if no delivery looked for the record before another had written it. -/
theorem counted_iff_serial (id : NotificationId) (c : Channel) (r : Repository)
    (haccepts : r.rejectsWrites = false) (hnew : r.findAttempt? id c = none)
    (actions : List (Action id c))
    (hdone : ∀ visit ∈ ((gather r).run actions).visits, visit.point.isDone = true) :
    ((gather r).run actions).sends = 0 ∧
        ((gather r).run actions).repository.recordsOf id c = [] ∨
      ∃ a n, ((gather r).run actions).repository.recordsOf id c = [a] ∧
        a.count = UInt32.ofNat n ∧ 1 ≤ n ∧ n ≤ ((gather r).run actions).sends ∧
        (n = ((gather r).run actions).sends ↔ (gather r).Serial actions) := by
  have hcoherent : Coherent id c ((gather r).run actions) :=
    coherent_run (gather_coherent haccepts hnew)
  have hfresh : (gather r).tally.Bounded := ⟨Nat.le_refl 0, fun hpos => hpos, nofun⟩
  have hbounded := bounded_run actions hfresh
  have hexact (hserial : (gather r).Serial actions) := exact_run hserial ⟨rfl, nofun⟩
  have hlate (hoverlap : ¬ (gather r).Serial actions) := late_of_not_serial hoverlap hfresh
  generalize (gather r).run actions = x at *
  obtain ⟨hwritten, hseen⟩ := tally_of_done hdone
  have hknown := any_hasRecord_of_done hdone
  obtain ⟨hfound, -, hrecord⟩ := hcoherent.recorded
  rw [Repository.recordsOf_eq]
  cases hfind : x.repository.findAttempt? id c with
  | none =>
      left
      rw [hfind] at hfound
      have hunknown : ¬ 0 < x.sends := fun hsent => by
        rw [hknown.mpr hsent] at hfound
        cases hfound
      exact ⟨by omega, rfl⟩
  | some a =>
      right
      rw [hfind] at hfound
      have hsent := hknown.mp hfound.symm
      refine ⟨a, x.counted, rfl, (hrecord a hfind).2, hbounded.positive ?_, ?_, ?_⟩
      · rw [hwritten]
        exact hsent
      · rw [← hwritten]
        exact hbounded.counted
      · rw [← hwritten]
        constructor
        · intro hall
          by_contra hoverlap
          exact Nat.ne_of_lt ((hlate hoverlap).counted_lt hseen) hall
        · intro hserial
          exact (hexact hserial).counted

/-- Two handlers get the same event, and the second one looks for the record
before the first one has written it. -/
def encounter : List (Action default .email) :=
  let e := Event.ofNotification "" ⟨default, [.email]⟩
  let down : Except SendError Unit := .error (.unavailable .email "")
  [.call e rfl, .call e rfl, .proceed 0 default down, .proceed 0 default down,
    .around (.save default) nofun, .proceed 0 default down, .proceed 1 default (.ok ()),
    .proceed 0 default down, .proceed 1 default (.ok ()), .proceed 1 default (.ok ())]

theorem counted_iff_serial_of_encounter :
    (Repository.empty.rejectsWrites = false ∧
      Repository.empty.findAttempt? default .email = none) ∧
    (∀ visit ∈ ((gather .empty).run encounter).visits, visit.point.isDone = true) ∧
    ((gather .empty).run encounter).sends = 2 ∧
    (((gather .empty).run encounter).sends = 0 ∧
        ((gather .empty).run encounter).repository.recordsOf default .email = [] ∨
      ∃ a n, ((gather .empty).run encounter).repository.recordsOf default .email = [a] ∧
        a.count = UInt32.ofNat n ∧ 1 ≤ n ∧ n ≤ ((gather .empty).run encounter).sends ∧
        (n = ((gather .empty).run encounter).sends ↔ (gather .empty).Serial encounter)) :=
  ⟨⟨rfl, rfl⟩, by decide, rfl,
    counted_iff_serial default .email .empty rfl rfl encounter (by decide)⟩

/-- It is not so that every try is counted. -/
theorem not_forall_counted :
    ¬ ∀ (id : NotificationId) (c : Channel) (r : Repository) (actions : List (Action id c)),
      r.rejectsWrites = false → r.findAttempt? id c = none →
      (∀ visit ∈ ((gather r).run actions).visits, visit.point.isDone = true) →
      0 < ((gather r).run actions).sends →
      ∃ a, ((gather r).run actions).repository.recordsOf id c = [a] ∧
        a.count = UInt32.ofNat ((gather r).run actions).sends := by
  intro hcounted
  obtain ⟨a, hrecord, hcount⟩ :=
    hcounted default .email .empty encounter rfl rfl (by decide) (by decide)
  have hone : ((gather .empty).run encounter).repository.recordsOf default .email =
      [⟨default, .email, 1, some default, .success⟩] := rfl
  rw [hone] at hrecord
  cases hrecord
  exact absurd hcount (by decide)

end Crowd

end Delivery

end Courier

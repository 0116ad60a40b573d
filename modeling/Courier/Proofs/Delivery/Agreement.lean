import Courier.Proofs.Consumer.Conservation
import Courier.Proofs.Delivery.Outlet
import Mathlib.Data.List.Nodup

/-! # Records agree with outcomes

A consumer that is the only one of its channel delivers events of different
notifications. However its workers interleave and however often sends fail,
there is a record for each event that was handled, and none for the others. It
counts the calls of the handler and says what came of the last one.
-/

namespace Courier

open Consumer (Step)

/-- The notification that an event is about. -/
def Event.subject (e : Event) : NotificationId :=
  e.routed.notification.id

def Journey.subject (j : Journey) : NotificationId :=
  j.offered.subject

theorem Ledger.run?_concat {l l' : Ledger} {actions : List Consumer.Action} {a : Consumer.Action}
    {c : Consumer} {moved : List Counter} (hrun : l.run? actions = some l')
    (hstep : Step l'.consumer a c moved) : l.run? (actions ++ [a]) = some (l'.advance a c) := by
  induction actions generalizing l with
  | nil =>
      cases hrun
      exact run?_cons_eq_some_iff.mpr ⟨c, moved, hstep, rfl⟩
  | cons b rest ih =>
      obtain ⟨after, counted, hfirst, hrest⟩ := run?_cons_eq_some_iff.mp hrun
      exact run?_cons_eq_some_iff.mpr ⟨after, counted, hfirst, ih hrest⟩

namespace Delivery

/-! ## One delivery -/

/-- The delivery of a notification whose sender was called `n` times before. -/
structure Underway (id : NotificationId) (c : Channel) (n : Nat) (found : Option Attempt)
    (p : Point) : Prop where
  recorded : Recorded id c found (if p.hasWritten then n + 1 else n) (p.hasRecord || decide (0 < n))
  counts : p.Counts id c n
  answered : p.isDone = true → p.hasSent = true
  status : ∀ a answer, p = .done (outcome answer) → found = some a → a.status = statusOf answer

theorem outcome_injective {x y : Except SendError Unit} (h : outcome x = outcome y) : x = y := by
  cases x <;> cases y <;> cases h <;> rfl

section Strides

variable {τ : Type} {send : τ → Notification → τ × Except SendError Unit} {t : τ}
  {r : Repository} {id : NotificationId} {c : Channel} {now : Timestamp} {e : Event} {p : Point}
  {after : Repository × τ × Point} {n : Nat}

theorem Underway.of_not_done {found : Option Attempt} (hopen : p.isDone = false)
    (hrecorded : Recorded id c found (if p.hasWritten then n + 1 else n)
      (p.hasRecord || decide (0 < n))) (hcounts : p.Counts id c n) : Underway id c n found p where
  recorded := hrecorded
  counts := hcounts
  answered hdone := by cases hopen.symm.trans hdone
  status _ _ hpoint := by
    rw [hpoint] at hopen
    cases hopen

theorem Underway.recorded_of_done {found : Option Attempt} {answer : Except SendError Unit}
    (h : Underway id c n found (.done (outcome answer))) :
    Recorded id c found (n + 1) (decide (0 < n + 1)) := by
  have hrecorded := h.recorded
  cases answer with
  | ok => exact hrecorded
  | error => exact hrecorded

/-- A delivery that nobody else reaches into counts one call of the sender. -/
theorem Underway.stride (h : Underway id c n (r.findAttempt? id c) p)
    (hstride : Stride Repository.store send c now e r t p after)
    (haccepts : r.rejectsWrites = false) (hsame : e.subject = id)
    (hrouted : isRouted e c = true) : Underway id c n (after.1.findAttempt? id c) after.2.2 := by
  obtain ⟨-, hrecorded, hcounts⟩ := recorded_stride hstride haccepts hsame h.recorded h.counts
  cases hstride with
  | refuse hunrouted => cases hunrouted.symm.trans hrouted
  | load | miss | fallBack | create | send => exact .of_not_done rfl hrecorded hcounts
  | rest => exact ⟨hrecorded, hcounts, h.answered, h.status⟩
  | @write a answer =>
      have hwritten : (Point.done (outcome answer)).hasWritten = true := by
        rw [Point.hasWritten, Point.hasSent_outcome]
        rfl
      refine ⟨?_, hcounts, fun _ => Point.hasSent_outcome answer, ?_⟩
      · rw [if_pos hwritten]
        exact hrecorded
      · intro b given hpoint hfound
        obtain rfl : answer = given := outcome_injective (Point.done.inj hpoint)
        have hkey : (a.withStatus (statusOf answer)).key = (id, c) := h.counts.1
        rw [finish, Repository.findAttempt?_update_self haccepts hkey] at hfound
        obtain ⟨-, -, rfl⟩ := Option.map_eq_some_iff.mp hfound
        rfl

end Strides

namespace Outlet

/-! ## Each journey and its record -/

/-- The record of the event of a journey. -/
def found? (o : Outlet) (j : Journey) : Option Attempt :=
  o.repository.findAttempt? j.subject o.channel

/-- The record counts all calls of the handler, but for the one that is going
on. -/
inductive Tracks (o : Outlet) (j : Journey) : Prop where
  | resting (hphase : j.phase ≠ .handling)
      (hrecorded : Recorded j.subject o.channel (o.found? j) j.calls (decide (0 < j.calls)))
      (hstatus : ∀ a, o.found? j = some a →
        a.status = if j.phase = .settled .delivered then .success else .failed)
  | delivering {w n : Nat} {p : Point} (hphase : j.phase = .handling) (hspot : j.spot = .held w)
      (hcall : o.call? w = some p) (hcalls : j.calls = n + 1)
      (hunderway : Underway j.subject o.channel n (o.found? j) p)

/-- Events that one outlet can deliver so that each has a record of its own. -/
structure Fed (c : Channel) (r : Repository) (events : List Event) : Prop where
  fresh : ∀ e ∈ events, e.retries = 0
  routed : ∀ e ∈ events, isRouted e c = true
  unrecorded : ∀ e ∈ events, r.findAttempt? e.subject c = none
  distinct : (events.map Event.subject).Nodup

theorem Fed.of_prefix {c : Channel} {r : Repository} {events more : List Event}
    (h : Fed c r more) (hearlier : events <+: more) : Fed c r events where
  fresh e hmem := h.fresh e (hearlier.subset hmem)
  routed e hmem := h.routed e (hearlier.subset hmem)
  unrecorded e hmem := h.unrecorded e (hearlier.subset hmem)
  distinct := h.distinct.sublist (hearlier.sublist.map _)

variable {o : Outlet} {j : Journey} {a : Consumer.Action} {c' : Consumer} {moved : List Counter}
  {w : Nat} {p : Point}

/-- A delivery that is going on does not notice what other workers do. -/
theorem call?_callsAfter (hmatched : o.Matched) (hstep : Step o.consumer a c' moved)
    (hcall : o.call? w = some p) (hsucceed : a ≠ .succeed w) (hfail : a ≠ .fail w) :
    (o.callsAfter a)[w]?.join = some p := by
  have hw := call?_eq_some_iff.mp hcall
  have hother {v : Nat} (hne : v ≠ w) (call : Option Point) :
      (o.calls.set v call)[w]?.join = some p := by
    rw [List.getElem?_set_ne hne]
    exact hcall
  cases hstep with
  | start =>
      rw [callsAfter, List.getElem?_append_left (List.getElem?_eq_some_iff.mp hw).1]
      exact hcall
  | take hworker =>
      apply hother
      rintro rfl
      cases hw.symm.trans (hmatched.getElem?_none hworker (by simp [Stage.kind]))
  | succeed => exact hother (fun heq => hsucceed (congrArg _ heq)) none
  | backOff | retryAtOnce | exhaust => exact hother (fun heq => hfail (congrArg _ heq)) none
  | _ => exact hcall

theorem Tracks.act (h : o.Tracks j) (hlocated : j.Located o.consumer) (hmatched : o.Matched)
    (hstep : Step o.consumer a c' moved) (hfits : o.Fits a) :
    Tracks { o with ledger := o.ledger.advance a c', calls := o.callsAfter a }
      (j.follow o.consumer c' a) := by
  cases h with
  | resting hphase hrecorded hstatus =>
      obtain ⟨w, rfl, hspot, hphase', hcalls⟩ | ⟨hleft, hcalls, hdelivered⟩ :=
        hlocated.follow_of_ne hstep hphase
      · cases hstep with
        | take hworker =>
            have hidle := hmatched.getElem?_none hworker nofun
            have hcall : (o.calls.set w (some Point.arrived))[w]?.join = some .arrived := by
              rw [List.getElem?_set_self (List.getElem?_eq_some_iff.mp hidle).1]
              rfl
            exact .delivering hphase' hspot hcall hcalls (.of_not_done rfl hrecorded trivial)
      · refine .resting hleft ?_ ?_
        · rw [hcalls]
          exact hrecorded
        · intro found hfound
          simp only [hdelivered]
          exact hstatus found hfound
  | @delivering w n p hphase hspot hcall hcalls hunderway =>
      by_cases hsucceed : a = .succeed w
      · subst hsucceed
        obtain rfl : p = .done (outcome (.ok ())) := Option.some.inj (hcall.symm.trans hfits)
        obtain ⟨hdelivered, hsame⟩ := hlocated.follow_succeed hstep hspot hphase
        refine .resting (by rw [hdelivered]; nofun) ?_ ?_
        · rw [hsame, hcalls]
          exact hunderway.recorded_of_done
        · intro found hfound
          rw [if_pos hdelivered]
          exact hunderway.status found (.ok ()) rfl hfound
      by_cases hfail : a = .fail w
      · subst hfail
        obtain ⟨cause, hdone⟩ := hfits
        obtain rfl : p = .done (outcome (.error cause)) :=
          Option.some.inj (hcall.symm.trans hdone)
        obtain ⟨hleft, hundelivered, hsame⟩ := hlocated.follow_fail hstep hspot hphase
        refine .resting hleft ?_ ?_
        · rw [hsame, hcalls]
          exact hunderway.recorded_of_done
        · intro found hfound
          rw [if_neg hundelivered]
          exact hunderway.status found (.error cause) rfl hfound
      by_cases hlose : a = .lose w
      · subst hlose
        cases hcall.symm.trans hfits
      · obtain ⟨e, signalled, hworker⟩ := hmatched.stage_of_call? hcall
        obtain rfl : e = j.event := by
          rw [Journey.Located, hspot, Consumer.view?_held hworker] at hlocated
          exact congrArg Prod.snd (Option.some.inj hlocated)
        have hstays := hstep.stays hworker hsucceed hfail hlose
        rw [Journey.follow_of_stays hspot hphase hstays]
        exact .delivering hphase hspot (call?_callsAfter hmatched hstep hcall hsucceed hfail) hcalls
          hunderway

/-! ## Runs -/

/-- Everything that a run keeps: `r` is the repository as it was at first. -/
structure Kept (name : String) (config : ConsumerConfig) (r : Repository) (o : Outlet) : Prop where
  accepts : o.repository.rejectsWrites = false
  matched : o.Matched
  counted : o.Counted
  traced : ∃ history, (Ledger.create name config).run? history = some o.ledger
  /-- No record is written but for events that were accepted. -/
  untouched : ∀ id, id ∉ o.accepted.map Event.subject →
    o.repository.findAttempt? id o.channel = r.findAttempt? id o.channel
  tracks : ∀ j ∈ o.ledger.journeys, o.Tracks j

variable {name : String} {config : ConsumerConfig} {r : Repository}

theorem Kept.located (h : o.Kept name config r) : o.ledger.Located := by
  obtain ⟨history, hrun⟩ := h.traced
  exact Ledger.located_run? hrun (Ledger.create_located name config)

theorem Kept.census (h : o.Kept name config r) : o.ledger.Census := by
  obtain ⟨history, hrun⟩ := h.traced
  exact Ledger.census_run? hrun (Ledger.create_census name config)

/-- An event is routed as it was offered. -/
theorem Kept.routed_eq (h : o.Kept name config r) (hj : j ∈ o.ledger.journeys) :
    j.event.routed = j.offered.routed := by
  obtain ⟨history, hrun⟩ := h.traced
  have hunchanged := Ledger.unchanged_run? hrun (Ledger.create_located name config) (by
    intro j hj
    cases hj)
  rw [hunchanged j hj]
  rfl

/-- Where there is one event, there is no other. -/
theorem Kept.subject_eq_of_spot (h : o.Kept name config r) {k : Journey}
    (hk : k ∈ o.ledger.journeys) (hj : j ∈ o.ledger.journeys) (hw : k.spot = .held w)
    (hspot : k.spot = j.spot) : k.subject = j.subject := by
  have hlocated := h.located k hk
  have hlocated' := h.located j hj
  rw [Journey.Located, hw] at hlocated
  rw [Journey.Located, ← hspot, hw] at hlocated'
  have hevent : k.event = j.event :=
    congrArg Prod.snd (Option.some.inj (hlocated.symm.trans hlocated'))
  rw [Journey.subject, Event.subject, ← h.routed_eq hk, hevent, h.routed_eq hj]
  rfl

theorem create_kept (name : String) (config : ConsumerConfig) (c : Channel) (rate : Float)
    {r : Repository} (haccepts : r.rejectsWrites = false) :
    Kept name config r (create name config c rate r) where
  accepts := haccepts
  matched := rfl
  counted := ⟨rfl, rfl, rfl⟩
  traced := ⟨[], rfl⟩
  untouched _ _ := rfl
  tracks j hj := by cases hj

/-- A delivery that is going on is that of a journey. -/
theorem Kept.exists_journey (h : o.Kept name config r) (hcall : o.call? w = some p) :
    ∃ j ∈ o.ledger.journeys, ∃ n, j.spot = .held w ∧ o.event? w = some j.event ∧
      j.phase = .handling ∧ j.calls = n + 1 ∧ Underway j.subject o.channel n (o.found? j) p := by
  obtain ⟨e, signalled, hworker⟩ := h.matched.stage_of_call? hcall
  have hcount : (o.ledger.journeys.map Journey.spot).count (.held w) =
      o.consumer.occupancy (.held w) := h.census (.held w)
  rw [Consumer.occupancy_held hworker] at hcount
  have hpos : 0 < (o.ledger.journeys.map Journey.spot).count (.held w) := by
    rw [hcount]
    exact Nat.one_pos
  obtain ⟨j, hj, hspot⟩ := List.mem_map.mp (List.count_pos_iff.mp hpos)
  have hlocated := h.located j hj
  rw [Journey.Located, hspot, Consumer.view?_held hworker] at hlocated
  obtain ⟨hphase, hevent⟩ := Prod.mk.inj (Option.some.inj hlocated)
  cases h.tracks j hj with
  | resting hresting => exact absurd hphase.symm hresting
  | delivering hphase' hspot' hcall' hcalls hunderway =>
      cases hspot.symm.trans hspot'
      cases hcall.symm.trans hcall'
      refine ⟨j, hj, _, hspot, ?_, hphase', hcalls, hunderway⟩
      rw [event?, hworker, ← hevent]
      rfl

/-- Events that are accepted come after those that were accepted before. -/
theorem accepted_advance (hstep : Step o.consumer a c' moved) :
    (o.ledger.advance a c').journeys.map Journey.offered =
      o.accepted ++ (o.consumer.admitted? a).toList := by
  have hone : o.ledger.run? [a] = some (o.ledger.advance a c') :=
    Ledger.run?_cons_eq_some_iff.mpr ⟨c', moved, hstep, rfl⟩
  have hoffered := Ledger.offered_run? hone
  have haccepted : o.consumer.accepted [a] = (o.consumer.admitted? a).toList :=
    (Consumer.accepted_cons hstep []).trans (List.append_nil _)
  rw [haccepted] at hoffered
  exact hoffered

/-- An event that is accepted has no record yet. -/
theorem Kept.begin (h : o.Kept name config r) {e : Event}
    (hfed : Fed o.channel r (o.accepted ++ [e])) (after : Outlet)
    (hrepository : after.repository = o.repository) (hchannel : after.channel = o.channel) :
    after.Tracks (Journey.begin o.consumer e) := by
  have hmem : e ∈ o.accepted ++ [e] := List.mem_append_right _ (List.mem_singleton_self e)
  have hnew : e.subject ∉ o.accepted.map Event.subject := by
    intro hold
    have hdistinct := hfed.distinct
    rw [List.map_append] at hdistinct
    exact (List.nodup_append.mp hdistinct).2.2 _ hold _ (List.mem_singleton_self _) rfl
  have hnone : after.found? (Journey.begin o.consumer e) = none := by
    rw [found?, hrepository, hchannel]
    exact (h.untouched _ hnew).trans (hfed.unrecorded e hmem)
  refine .resting nofun ?_ ?_
  · rw [hnone]
    refine ⟨rfl, fun _ => rfl, ?_⟩
    intro found hfound
    cases hfound
  · intro found hfound
    cases hnone.symm.trans hfound

/-- The outlet after a possible action of its consumer. -/
theorem Kept.act (h : o.Kept name config r) (hstep : Step o.consumer a c' moved)
    (hfits : o.Fits a)
    (hfed : Fed o.channel r (o.accepted ++ (o.consumer.admitted? a).toList)) :
    Kept name config r { o with ledger := o.ledger.advance a c', calls := o.callsAfter a } where
  accepts := h.accepts
  matched := h.matched.act hstep hfits
  counted := h.counted.act h.matched hstep hfits
  traced := by
    obtain ⟨history, hrun⟩ := h.traced
    exact ⟨history ++ [a], Ledger.run?_concat hrun hstep⟩
  untouched id hnew := by
    apply h.untouched
    intro hold
    apply hnew
    rw [accepted, accepted_advance hstep, List.map_append]
    exact List.mem_append_left _ hold
  tracks k hk := by
    obtain hold | hnew := List.mem_append.mp hk
    · obtain ⟨j, hj, rfl⟩ := List.mem_map.mp hold
      exact (h.tracks j hj).act (h.located j hj) h.matched hstep hfits
    · obtain ⟨e, he, rfl⟩ := List.mem_map.mp hnew
      have hadmitted : o.consumer.admitted? a = some e := Option.mem_toList.mp he
      rw [hadmitted] at hfed
      exact h.begin hfed _ rfl rfl

theorem Fed.subject_injective (hfed : Fed o.channel r o.accepted) {k : Journey}
    (hj : j ∈ o.ledger.journeys) (hk : k ∈ o.ledger.journeys) (hsame : j.subject = k.subject) :
    j = k := by
  have hdistinct := hfed.distinct
  rw [accepted, List.map_map] at hdistinct
  exact List.inj_on_of_nodup_map hdistinct hj hk hsame

/-- A journey whose record nobody writes and whose worker does not move stays as
it is. -/
theorem Tracks.of_eq (h : o.Tracks j) {o' : Outlet} (hchannel : o'.channel = o.channel)
    (hfound : o'.found? j = o.found? j)
    (hcalls : ∀ w, j.spot = .held w → o'.call? w = o.call? w) : o'.Tracks j := by
  cases h with
  | resting hphase hrecorded hstatus =>
      refine .resting hphase ?_ ?_
      all_goals rw [hfound]
      · rw [hchannel]
        exact hrecorded
      · exact hstatus
  | delivering hphase hspot hcall hcalls' hunderway =>
      refine .delivering hphase hspot ((hcalls _ hspot).trans hcall) hcalls' ?_
      rw [hfound, hchannel]
      exact hunderway

/-- The outlet after a stride of one of its deliveries. -/
theorem Kept.advance (h : o.Kept name config r) (hcall : o.call? w = some p) {e : Event}
    (hevent : o.event? w = some e) (hfed : Fed o.channel r o.accepted) (now : Timestamp)
    (draw : Float) : Kept name config r (o.advance w e p now draw) := by
  obtain ⟨j, hj, n, hspot, hown, hphase, hcalls, hunderway⟩ := h.exists_journey hcall
  obtain rfl : e = j.event := Option.some.inj (hevent.symm.trans hown)
  have hsame := h.routed_eq hj
  have hsubject : j.event.routed.notification.id = j.subject := by
    rw [hsame]
    rfl
  have hrouted : isRouted j.event o.channel = true := by
    rw [isRouted, hsame]
    exact hfed.routed _ (List.mem_map_of_mem hj)
  have hstride := stride_stride Repository.store (fun s n => s.send n draw) o.channel now j.event
    o.repository o.sender p
  have hchannel := channel_advance o w j.event p now draw
  have hcounts : p.Counts j.event.routed.notification.id o.channel n := by
    rw [hsubject]
    exact hunderway.counts
  have hothers (id : NotificationId) (hother : id ≠ j.subject) :
      (o.advance w j.event p now draw).repository.findAttempt? id o.channel =
        o.repository.findAttempt? id o.channel :=
    findAttempt?_stride hstride h.accepts hcounts fun heq => hother (heq.trans hsubject)
  constructor
  · exact (recorded_stride hstride h.accepts hsubject hunderway.recorded hunderway.counts).1
  · exact h.matched.advance hcall j.event now draw
  · exact h.counted.advance hcall j.event now draw
  · exact h.traced
  · intro id hnew
    have hother : id ≠ j.subject := by
      rintro rfl
      exact hnew (List.mem_map_of_mem (List.mem_map_of_mem hj))
    rw [hchannel, hothers id hother]
    exact h.untouched id hnew
  · intro k hk
    by_cases hkj : k = j
    · subst hkj
      refine .delivering hphase hspot (call?_advance_self hcall ..) hcalls ?_
      rw [found?, hchannel]
      exact hunderway.stride hstride h.accepts hsubject hrouted
    · have hother : k.subject ≠ j.subject := fun heq => hkj (hfed.subject_injective hk hj heq)
      refine (h.tracks k hk).of_eq hchannel ?_ ?_
      · rw [found?, hchannel]
        exact hothers _ hother
      · intro v hv
        apply call?_advance_of_ne
        rintro rfl
        exact hother (h.subject_eq_of_spot hk hj hv (hv.trans hspot.symm))

/-- What was accepted is not forgotten. -/
theorem accepted_act (o : Outlet) (a : Consumer.Action) : o.accepted <+: (o.act a).accepted := by
  rw [Outlet.act]
  split
  next c' moved hstep =>
    rw [accepted, accepted, accepted_advance (.of_step? hstep)]
    exact List.prefix_append ..
  next => exact List.prefix_refl _

theorem accepted_perform (o : Outlet) (b : Action) : o.accepted <+: (o.perform b).accepted :=
  have hsame : o.accepted <+: o.accepted := List.prefix_refl _
  perform_induction (P := fun after => o.accepted <+: after.accepted) b hsame
    (fun a _ => accepted_act o a) (fun _ _ _ _ _ _ _ => hsame) (fun _ _ _ => accepted_act o _)
    (fun _ => hsame) (fun _ _ => hsame)

theorem accepted_run (o : Outlet) (actions : List Action) :
    o.accepted <+: (o.run actions).accepted := by
  induction actions generalizing o with
  | nil => exact List.prefix_refl _
  | cons b rest ih => exact (accepted_perform o b).trans (ih (o.perform b))

theorem Kept.act_of_fits (h : o.Kept name config r) (hfits : o.Fits a)
    (hfed : Fed o.channel r (o.act a).accepted) : Kept name config r (o.act a) := by
  rw [Outlet.act] at hfed ⊢
  split at hfed
  next c' moved hstep =>
    have hstep := Step.of_step? hstep
    rw [accepted, accepted_advance hstep] at hfed
    exact h.act hstep hfits hfed
  next => exact h

/-- What a worker goes on with is what its delivery has returned. -/
theorem Kept.fits_conclusion (h : o.Kept name config r) {result : Except DeliveryError Unit}
    (hcall : o.call? w = some (.done result)) : o.Fits (conclusion w result) := by
  obtain ⟨j, hj, n, hspot, hown, hphase, hcalls, hunderway⟩ := h.exists_journey hcall
  have hsent := hunderway.answered rfl
  match result with
  | .ok () => exact hcall
  | .error (.send cause) => exact ⟨cause, hcall⟩
  | .error (.invalidPayload _) | .error (.other _) => cases hsent

theorem fits_of_not_interrupts (hfree : o.interrupts a = false) : o.Fits a := by
  cases a with
  | succeed | fail => cases hfree
  | lose w =>
      rw [interrupts, Option.isSome_eq_false_iff, Option.isNone_iff_eq_none] at hfree
      exact hfree
  | _ => trivial

/-- Other writes are of other channels. -/
theorem Kept.around (h : o.Kept name config r) {x : Repository.Write}
    (hother : x.key?.any (fun key => key.2 = o.channel) = false) :
    Kept name config r { o with repository := o.repository.perform x } := by
  have hfound (id : NotificationId) : (o.repository.perform x).findAttempt? id o.channel =
      o.repository.findAttempt? id o.channel := by
    apply Repository.findAttempt?_perform
    intro hkey
    simp [hkey] at hother
  exact {
    accepts := Repository.rejectsWrites_perform.trans h.accepts
    matched := h.matched
    counted := ⟨h.counted.sent, h.counted.failed, h.counted.handled⟩
    traced := h.traced
    untouched := fun id hnew => (hfound id).trans (h.untouched id hnew)
    tracks := fun j hj => (h.tracks j hj).of_eq rfl (hfound _) fun _ _ => rfl }

theorem Kept.setHealth (h : o.Kept name config r) (healthy : Bool) :
    Kept name config r { o with sender := o.sender.withHealth healthy } where
  accepts := h.accepts
  matched := h.matched
  counted := ⟨h.counted.sent, h.counted.failed, h.counted.handled⟩
  traced := h.traced
  untouched := h.untouched
  tracks j hj := (h.tracks j hj).of_eq rfl rfl fun _ _ => rfl

theorem Kept.perform (h : o.Kept name config r) (b : Action)
    (hfed : Fed o.channel r (o.perform b).accepted) : Kept name config r (o.perform b) := by
  have hfed' := hfed.of_prefix (accepted_perform o b)
  revert hfed
  refine perform_induction (P := fun after => Fed o.channel r after.accepted →
    Kept name config r after) b ?_ ?_ ?_ ?_ ?_ ?_
  · exact fun _ => h
  · exact fun a hfree hfed => h.act_of_fits (fits_of_not_interrupts hfree) hfed
  · exact fun w e p now draw hevent hcall _ => h.advance hcall hevent hfed' now draw
  · exact fun w result hcall hfed => h.act_of_fits (h.fits_conclusion hcall) hfed
  · exact fun healthy _ => h.setHealth healthy
  · exact fun x hother _ => h.around hother

theorem kept_run {actions : List Action} (h : o.Kept name config r)
    (hfed : Fed o.channel r (o.run actions).accepted) : Kept name config r (o.run actions) := by
  induction actions generalizing o with
  | nil => exact h
  | cons b rest ih =>
      apply ih (h.perform b (hfed.of_prefix (accepted_run (o.perform b) rest)))
      rw [channel_perform]
      exact hfed

/-- What the record of an event says, once no handler is busy with it. -/
structure Agrees (limit : UInt32) (o : Outlet) (j : Journey) : Prop where
  unhandled : j.calls = 0 → o.repository.recordsOf j.subject o.channel = []
  handled : 0 < j.calls → ∃ a, o.repository.recordsOf j.subject o.channel = [a] ∧
    a.count = UInt32.ofNat j.calls
  /-- So the count of a record starts again from zero at the highest limit only. -/
  bounded : j.calls ≤ limit.toNat + 1
  delivered : j.phase = .settled .delivered →
    ∃ a, o.repository.recordsOf j.subject o.channel = [a] ∧ a.status = .success ∧
      a.count = j.event.retries + 1
  deadLettered : j.phase = .buried ∨ j.phase = .settled .deadLettered →
    ∃ a, o.repository.recordsOf j.subject o.channel = [a] ∧ a.status = .failed ∧
      a.count = limit + 1

theorem Tracks.agrees {p : RetryPolicy} (h : o.Tracks j) (hphase : j.phase ≠ .handling)
    (hfresh : j.offered.retries = 0)
    (hcourse : Course p j.offered.retries j.phase j.event.retries j.past) :
    Agrees p.limit o j := by
  have hstart : j.offered.retries.toNat = 0 := congrArg UInt32.toNat hfresh
  have hrecords : o.repository.recordsOf j.subject o.channel = (o.found? j).toList :=
    Repository.recordsOf_eq
  cases h with
  | delivering hphase' => exact absurd hphase' hphase
  | resting _ hrecorded hstatus =>
      have hone (hcalled : 0 < j.calls) : ∃ a, o.repository.recordsOf j.subject o.channel = [a] ∧
          a.count = UInt32.ofNat j.calls ∧
          a.status = if j.phase = .settled .delivered then .success else .failed := by
        have hsome := hrecorded.known
        rw [decide_eq_true hcalled] at hsome
        obtain ⟨a, hfound⟩ := Option.isSome_iff_exists.mp hsome
        rw [hrecords, hfound]
        exact ⟨a, rfl, (hrecorded.some a hfound).2, hstatus a hfound⟩
      constructor
      · intro hnone
        have hsome : (o.found? j).isSome = false := by
          rw [hrecorded.known, hnone]
          rfl
        rw [Option.isSome_eq_false_iff, Option.isNone_iff_eq_none] at hsome
        rw [hrecords, hsome]
        rfl
      · intro hcalled
        obtain ⟨a, hrecord, hcount, -⟩ := hone hcalled
        exact ⟨a, hrecord, hcount⟩
      · have hbound := hcourse.calls_le
        rw [hstart] at hbound
        exact hbound
      · intro hdelivered
        rw [hdelivered] at hcourse
        have hcalls : j.calls = j.event.retries.toNat + 1 := by
          have hcount := hcourse.calls_of_delivered
          rw [hstart, Nat.zero_add] at hcount
          exact hcount
        obtain ⟨a, hrecord, hcount, hstatus⟩ := hone (by omega)
        rw [if_pos hdelivered] at hstatus
        rw [hcalls, ← ofNat_add_one, UInt32.ofNat_toNat] at hcount
        exact ⟨a, hrecord, hstatus, hcount⟩
      · intro hburied
        have hcalls : j.calls = p.limit.toNat + 1 := by
          have hcount := (hcourse.exhausted hburied).1
          rw [hstart] at hcount
          exact hcount
        obtain ⟨a, hrecord, hcount, hstatus⟩ := hone (by omega)
        have hundelivered : j.phase ≠ .settled .delivered := by
          obtain hphase | hphase := hburied
          all_goals
            rw [hphase]
            nofun
        rw [if_neg hundelivered] at hstatus
        rw [hcalls, ← ofNat_add_one, UInt32.ofNat_toNat] at hcount
        exact ⟨a, hrecord, hstatus, hcount⟩

/-- A consumer that alone serves its channel is fed events about different
notifications. Then at all times the records agree with what has become of the
events, and whenever no handler is busy the sender has counted what the consumer
has. -/
theorem agrees_of_run (name : String) (config : ConsumerConfig) (c : Channel) (rate : Float)
    (r : Repository) (actions : List Action) (o : Outlet)
    (hrun : (create name config c rate r).run actions = o) (haccepts : r.rejectsWrites = false)
    (hfed : Fed c r o.accepted) :
    (∀ j ∈ o.ledger.journeys, j.phase ≠ .handling → Agrees config.retry.limit o j) ∧
      (o.isQuiet = true →
        o.sender.sent = o.consumer.stats.delivered ∧
          o.sender.failed = o.consumer.stats.failedAttempts ∧
          o.sender.sent + o.sender.failed = o.consumer.stats.handled) := by
  subst hrun
  have hkept := kept_run (create_kept name config c rate haccepts) hfed
  refine ⟨fun j hj hphase => ?_, fun hquiet => ?_⟩
  · obtain ⟨history, hrun⟩ := hkept.traced
    exact (hkept.tracks j hj).agrees hphase (hfed.fresh _ (List.mem_map_of_mem hj))
      (Ledger.course_run? hrun j hj)
  · obtain ⟨hsent, hfailed, hhandled⟩ := hkept.counted
    rw [answered_of_isQuiet hquiet] at hsent hfailed hhandled
    exact ⟨hsent, hfailed, hhandled.symm⟩

/-- While the transport is down, an event fails as often as it may, and another
one waits. -/
theorem agrees_of_outage :
    let config : ConsumerConfig := ⟨1, 1, 1, ⟨1, none⟩⟩
    let event (id : Nat) : Event :=
      .ofNotification "" ⟨{ (default : Notification) with id := .ofNat id }, [.email]⟩
    let stride : Action := .proceed 0 default 0.5
    let actions : List Action :=
      [.setHealth false, .act .start, .act .startDrain, .act (.offer (event 1)), .act (.take 0),
        stride, stride, .around (.save default), stride, stride, .finish 0, .act (.requeue 0),
        .act (.take 0), .act (.offer (event 2)), stride, stride, stride, .finish 0, .act (.bury 0),
        .act (.drain 0)]
    ∃ o, (create "mail" config .email 0.5 .empty).run actions = o ∧
      Fed .email .empty o.accepted ∧ o.accepted = [event 1, event 2] ∧
      o.consumer.stats.deadLettered = 1 ∧ o.isQuiet = true ∧
      (∀ j ∈ o.ledger.journeys, j.phase ≠ .handling → Agrees config.retry.limit o j) ∧
      (o.isQuiet = true →
        o.sender.sent = o.consumer.stats.delivered ∧
          o.sender.failed = o.consumer.stats.failedAttempts ∧
          o.sender.sent + o.sender.failed = o.consumer.stats.handled) := by
  intro config event stride actions
  have haccepted : ((create "mail" config .email 0.5 .empty).run actions).accepted =
      [event 1, event 2] := by decide +kernel
  have hfed : Fed .email .empty
      ((create "mail" config .email 0.5 .empty).run actions).accepted := by
    rw [haccepted]
    exact ⟨by decide, by decide, by decide, by decide⟩
  refine ⟨_, rfl, hfed, haccepted, by decide +kernel, by decide +kernel, ?_⟩
  exact agrees_of_run "mail" config .email 0.5 .empty actions _ rfl rfl hfed

end Outlet

end Delivery

end Courier

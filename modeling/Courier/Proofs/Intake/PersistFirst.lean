import Courier.Proofs.Intake.Deduplication
import Courier.Proofs.Intake.Desk

/-! # Stored before published

However requests interrupt each other, and whatever goes on around them, what a
request publishes was stored before and stays stored, a key is kept only for a
notification that is stored, and no consumer gets the same notification twice
for one channel. The order in which a request stores, keeps and publishes is all
that this rests on, together with the repository, which refuses a second
notification with the same identifier.
-/

namespace Courier

/-- The event is the one for a channel of a queued notification, which the
repository has as the event has it. -/
def Repository.Backs (repository : Repository) (e : Event) : Prop :=
  ∃ n c, e = { Intake.eventFor n c with retries := e.retries } ∧ n.status = .queued ∧
    repository.find? n.id = some n

/-- What requests have published to a consumer, by notification and channel. -/
def targets (i : Nat) (ps : List Publication) : List (NotificationId × List Channel) :=
  (ps.filter fun p => p.source.isSome && p.consumer = i).map fun p =>
    (p.event.routed.notification.id, p.event.routed.channels)

theorem targets_append (i : Nat) (ps qs : List Publication) :
    targets i (ps ++ qs) = targets i ps ++ targets i qs := by
  rw [targets, List.filter_append, List.map_append]
  rfl

theorem targets_eq_nil {ps : List Publication} (hothers : ∀ p ∈ ps, p.source = none) (i : Nat) :
    targets i ps = [] := by
  rw [targets, List.map_eq_nil_iff, List.filter_eq_nil_iff]
  intro p hp
  simp [hothers p hp]

theorem targets_announce (i t : Nat) (n : Notification) (c : Channel) (audience : List Nat) :
    targets i (announce (some t) (Intake.eventFor n c) audience) =
      List.replicate (audience.count i) (n.id, [c]) := by
  induction audience with
  | nil => rfl
  | cons j rest ih =>
      rw [targets, announce] at ih ⊢
      rw [List.map_cons, List.filter_cons, List.count_cons]
      by_cases hj : j = i
      · simpa [hj, List.replicate_succ, Intake.eventFor, Event.ofNotification, Event.routed] using ih
      · simpa [hj] using ih

theorem Repository.find?_of_save {repository after : Repository} {n : Notification}
    (hsaved : repository.save n = .ok after) (id : NotificationId) :
    after.find? id = if id = n.id then some n else repository.find? id := by
  obtain ⟨-, -, rfl⟩ := save_eq_ok_iff.mp hsaved
  exact Table.get?_insert ..

theorem Repository.find?_eq_none_of_save {repository after : Repository} {n : Notification}
    (hsaved : repository.save n = .ok after) : repository.find? n.id = none := by
  obtain ⟨-, hfree, -⟩ := save_eq_ok_iff.mp hsaved
  rw [Table.contains_eq_isSome, Option.isSome_eq_false_iff, Option.isNone_iff_eq_none] at hfree
  exact hfree

namespace Desk

variable {d : Desk} {t : Nat} {task : Task} {r : Request}

/-! ## What is stored -/

/-- The request at this place has stored this notification. -/
def Stores (d : Desk) (t : Nat) (r : Request) (n : Notification) : Prop :=
  ∃ progress, d.tasks[t]? = some ⟨r, progress⟩ ∧ progress.record? = some n

/-- The request at this place has stored this notification and kept its key. -/
def Keeps (d : Desk) (t : Nat) (r : Request) (n : Notification) : Prop :=
  ∃ progress, d.tasks[t]? = some ⟨r, progress⟩ ∧ progress.kept? = some n

/-- The repository and the keys fit with what the requests have done. -/
structure Recorded (d : Desk) : Prop where
  own : ∀ t r n, d.Stores t r n → ∃ now, n = r.queuedAt now
  held : ∀ t r n, d.Stores t r n → d.intake.repository.find? n.id = some n
  /-- No two requests have stored notifications with one identifier. -/
  apart : ∀ t u r q n m, d.Stores t r n → d.Stores u q m → n.id = m.id → t = u
  keys : ∀ key, d.intake.seen.contains key = true → ∃ t r n, r.key = key ∧ d.Keeps t r n

theorem Keeps.stores {n : Notification} (h : d.Keeps t r n) : d.Stores t r n := by
  obtain ⟨progress, htask, hkept⟩ := h
  exact ⟨progress, htask, Progress.record?_of_kept? hkept⟩

theorem stores_arrive {u : Nat} {q : Request} {n : Notification}
    (h : Stores { d with tasks := d.tasks ++ [⟨r, .arrived⟩] } u q n) : d.Stores u q n := by
  obtain ⟨progress, htask, hrecord⟩ := h
  obtain heq | hthere := getElem?_append_task htask
  · cases heq
    cases hrecord
  · exact ⟨progress, hthere, hrecord⟩

/-- A stride stores the notification of its request, or it stores nothing. -/
theorem stores_advance (htask : d.tasks[t]? = some task) (now : Moment) :
    (d.advance t task now).intake.repository = d.intake.repository ∧
        (∀ u q n, (d.advance t task now).Stores u q n → d.Stores u q n) ∨
      d.intake.repository.save (task.request.queuedAt now) =
          .ok (d.advance t task now).intake.repository ∧
        ∀ u q n, (d.advance t task now).Stores u q n →
          d.Stores u q n ∨ u = t ∧ q = task.request ∧ n = q.queuedAt now := by
  obtain ⟨progress, hstride, htasks⟩ := stride_advance htask now
  obtain ⟨hrecord, hrepository⟩ | ⟨hnone, hrecord, hsaved⟩ := hstride.record
  · refine .inl ⟨hrepository, ?_⟩
    rintro u q n ⟨after, hafter, hn⟩
    obtain ⟨rfl, heq⟩ | ⟨-, hthere⟩ := (htasks u _).mp hafter
    · cases heq
      exact ⟨task.progress, htask, hrecord.symm.trans hn⟩
    · exact ⟨after, hthere, hn⟩
  · refine .inr ⟨hsaved, ?_⟩
    rintro u q n ⟨after, hafter, hn⟩
    obtain ⟨rfl, heq⟩ | ⟨-, hthere⟩ := (htasks u _).mp hafter
    · cases heq
      exact .inr ⟨rfl, rfl, Option.some.inj (hn.symm.trans hrecord)⟩
    · exact .inl ⟨after, hthere, hn⟩

/-- What has kept its key has kept it for good. -/
theorem keeps_advance (htask : d.tasks[t]? = some task) (now : Moment) {u : Nat} {q : Request}
    {n : Notification} (h : d.Keeps u q n) : ∃ m, (d.advance t task now).Keeps u q m := by
  obtain ⟨before, hbefore, hkept⟩ := h
  obtain ⟨progress, hstride, htasks⟩ := stride_advance htask now
  by_cases hu : u = t
  · subst hu
    cases htask.symm.trans hbefore
    have hmade := (htasks u _).mpr (.inl ⟨rfl, rfl⟩)
    obtain ⟨-, hstill⟩ | ⟨-, m, hm⟩ := hstride.kept
    · exact ⟨n, progress, hmade, hstill n hkept⟩
    · exact ⟨m, progress, hmade, hm⟩
  · exact ⟨n, before, (htasks u _).mpr (.inr ⟨hu, hbefore⟩), hkept⟩

theorem Recorded.fresh (metrics : Metrics) (config : RateLimit) (window : Duration) :
    (fresh metrics config window).Recorded where
  own := by
    rintro t r n ⟨progress, htask, -⟩
    cases htask
  held := by
    rintro t r n ⟨progress, htask, -⟩
    cases htask
  apart := by
    rintro t u r q n m ⟨progress, htask, -⟩
    cases htask
  keys := by
    intro key hseen
    cases hseen

theorem Recorded.arrive (h : d.Recorded) (r : Request) :
    Recorded { d with tasks := d.tasks ++ [⟨r, .arrived⟩] } where
  own := fun t q n hstores => h.own t q n (stores_arrive hstores)
  held := fun t q n hstores => h.held t q n (stores_arrive hstores)
  apart := fun t u q q' n m hn hm => h.apart t u q q' n m (stores_arrive hn) (stores_arrive hm)
  keys := by
    intro key hseen
    obtain ⟨t, q, n, hkey, progress, htask, hkept⟩ := h.keys key hseen
    have hlt := (List.getElem?_eq_some_iff.mp htask).1
    exact ⟨t, q, n, hkey, progress, (List.getElem?_append_left hlt).trans htask, hkept⟩

/-- Nothing but requests stores notifications or keeps keys. -/
theorem Recorded.around (h : d.Recorded) {b : Intake.Action} (hother : b.isSubmit = false)
    (published : List Publication) :
    Recorded { d with intake := d.intake.perform b, published := published } := by
  have hnone : d.intake.answer? b = none := by
    cases b with
    | submit => cases hother
    | _ => rfl
  obtain ⟨hseen, hnotifications⟩ := Intake.perform_of_answer?_eq_none hnone
  refine ⟨h.own, ?_, h.apart, ?_⟩
  · intro t r n hstores
    rw [Repository.find?, hnotifications]
    exact h.held t r n hstores
  · rw [hseen]
    exact h.keys

theorem Recorded.keys_advance (h : d.Recorded) (htask : d.tasks[t]? = some task) (now : Moment)
    {key : String} (hseen : (d.advance t task now).intake.seen.contains key = true) :
    ∃ u q n, q.key = key ∧ (d.advance t task now).Keeps u q n := by
  have hold : d.intake.seen.contains key = true →
      ∃ u q n, q.key = key ∧ (d.advance t task now).Keeps u q n := by
    intro hbefore
    obtain ⟨u, q, n, hkey, hkeeps⟩ := h.keys key hbefore
    obtain ⟨m, hm⟩ := keeps_advance htask now hkeeps
    exact ⟨u, q, m, hkey, hm⟩
  obtain ⟨progress, hstride, htasks⟩ := stride_advance htask now
  obtain ⟨hsame, -⟩ | ⟨hstored, n, hkept⟩ := hstride.kept
  · exact hold (hsame ▸ hseen)
  · rw [hstored, SeenKeys.contains_store] at hseen
    obtain rfl | hbefore := hseen
    · exact ⟨t, task.request, n, rfl, progress, (htasks t _).mpr (.inl ⟨rfl, rfl⟩), hkept⟩
    · exact hold hbefore

/-- A request that stores its notification is the only one with that
identifier, since the repository takes no second one. -/
theorem Recorded.advance (h : d.Recorded) (htask : d.tasks[t]? = some task) (now : Moment) :
    (d.advance t task now).Recorded := by
  obtain ⟨hrepository, hstores⟩ | ⟨hsaved, hstores⟩ := stores_advance htask now
  · refine ⟨?_, ?_, ?_, fun key => h.keys_advance htask now⟩
    · exact fun u q n hn => h.own u q n (hstores u q n hn)
    · intro u q n hn
      rw [hrepository]
      exact h.held u q n (hstores u q n hn)
    · intro u v q q' n m hn hm
      exact h.apart u v q q' n m (hstores u q n hn) (hstores v q' m hm)
  · have hfree := Repository.find?_eq_none_of_save hsaved
    -- Had another request stored this identifier, the repository would have it.
    have hother : ∀ u q n, d.Stores u q n → n.id ≠ (task.request.queuedAt now).id := by
      intro u q n hn heq
      have hheld := h.held u q n hn
      rw [heq, hfree] at hheld
      cases hheld
    refine ⟨?_, ?_, ?_, fun key => h.keys_advance htask now⟩
    · intro u q n hn
      obtain hbefore | ⟨-, -, hnew⟩ := hstores u q n hn
      · exact h.own u q n hbefore
      · exact ⟨now, hnew⟩
    · intro u q n hn
      rw [Repository.find?_of_save hsaved]
      obtain hbefore | ⟨-, rfl, rfl⟩ := hstores u q n hn
      · rw [if_neg (hother u q n hbefore)]
        exact h.held u q n hbefore
      · exact if_pos rfl
    · intro u v q q' n m hn hm heq
      obtain hn | ⟨hu, rfl, rfl⟩ := hstores u q n hn <;>
        obtain hm | ⟨hv, rfl, rfl⟩ := hstores v q' m hm
      · exact h.apart u v q q' n m hn hm heq
      · exact absurd heq (hother u q n hn)
      · exact absurd heq.symm (hother v q' m hm)
      · exact hu.trans hv.symm

/-! ## What is published -/

/-- What the requests have published fits with what they have stored and with
the channels that they have left. -/
structure Dispatched (d : Desk) : Prop where
  pending : ∀ (t : Nat) (task : Task), d.tasks[t]? = some task → task.progress.pending.Nodup
  sent : ∀ p ∈ d.published, ∀ t, p.source = some t →
    ∃ r progress n c, d.tasks[t]? = some ⟨r, progress⟩ ∧ progress.record? = some n ∧
      p.event = Intake.eventFor n c ∧ c ∉ progress.pending
  once : ∀ i, (targets i d.published).Nodup

theorem Dispatched.fresh (metrics : Metrics) (config : RateLimit) (window : Duration) :
    (fresh metrics config window).Dispatched where
  pending := by
    intro t task htask
    cases htask
  sent := by
    intro p hp
    cases hp
  once := fun _ => List.nodup_nil

theorem Dispatched.arrive (h : d.Dispatched) (r : Request) :
    Dispatched { d with tasks := d.tasks ++ [⟨r, .arrived⟩] } where
  pending := by
    intro t task htask
    obtain rfl | hthere := getElem?_append_task htask
    · exact List.nodup_nil
    · exact h.pending t task hthere
  sent := by
    intro p hp t hsource
    obtain ⟨q, progress, n, c, htask, hrest⟩ := h.sent p hp t hsource
    have hlt := (List.getElem?_eq_some_iff.mp htask).1
    exact ⟨q, progress, n, c, (List.getElem?_append_left hlt).trans htask, hrest⟩
  once := h.once

theorem Dispatched.around (h : d.Dispatched) (b : Intake.Action) (intake : Intake) :
    Dispatched
      { d with intake := intake, published := d.published ++ d.intake.offersAround b } := by
  refine ⟨h.pending, ?_, ?_⟩
  · intro p hp t hsource
    rcases List.mem_append.mp hp with hold | hnew
    · exact h.sent p hold t hsource
    · rw [Intake.source_of_mem_offersAround hnew] at hsource
      cases hsource
  · intro i
    rw [targets_append, targets_eq_nil fun p hp => Intake.source_of_mem_offersAround hp,
      List.append_nil]
    exact h.once i

/-- What a request has published before is not what it still has to publish. -/
theorem Dispatched.notMem_targets (h : d.Dispatched) (hrecorded : d.Recorded)
    (htask : d.tasks[t]? = some task) {n : Notification} {c : Channel}
    (hrecord : task.progress.record? = some n) (hpending : c ∈ task.progress.pending) (i : Nat) :
    (n.id, [c]) ∉ targets i d.published := by
  intro hmem
  obtain ⟨p, hp, heq⟩ := List.mem_map.mp hmem
  obtain ⟨hp, hsource⟩ := List.mem_filter.mp hp
  obtain ⟨u, hu⟩ := Option.isSome_iff_exists.mp (Bool.and_eq_true_iff.mp hsource).1
  obtain ⟨q, progress, m, c', hthere, hm, hevent, hsent⟩ := h.sent p hp u hu
  rw [hevent] at heq
  obtain ⟨hid, hchannel⟩ := Prod.mk.inj heq
  -- Nobody else has stored a notification with this identifier.
  obtain rfl : u = t :=
    hrecorded.apart u t q task.request m n ⟨progress, hthere, hm⟩ ⟨_, htask, hrecord⟩ hid
  obtain rfl : c' = c := List.singleton_inj.mp hchannel
  cases htask.symm.trans hthere
  exact hsent hpending

theorem Dispatched.sent_advance (h : d.Dispatched) (htask : d.tasks[t]? = some task)
    (now : Moment) {p : Publication} (hp : p ∈ (d.advance t task now).published) {u : Nat}
    (hsource : p.source = some u) :
    ∃ r progress n c, (d.advance t task now).tasks[u]? = some ⟨r, progress⟩ ∧
      progress.record? = some n ∧ p.event = Intake.eventFor n c ∧ c ∉ progress.pending := by
  obtain ⟨progress, hstride, htasks⟩ := stride_advance htask now
  rcases List.mem_append.mp hp with hold | hnew
  · obtain ⟨q, before, n, c, hbefore, hrecord, hevent, hsent⟩ := h.sent p hold u hsource
    by_cases hu : u = t
    · subst hu
      cases htask.symm.trans hbefore
      refine ⟨q, progress, n, c, (htasks _ _).mpr (.inl ⟨rfl, rfl⟩),
        hstride.record?_eq_some hrecord, hevent, ?_⟩
      obtain hfewer | ⟨harrived, -⟩ := hstride.pending
      · exact fun hpending => hsent (hfewer.mem hpending)
      -- Whoever has published has stored, and so was received before.
      · cases harrived
        cases hrecord
    · exact ⟨q, before, n, c, (htasks _ _).mpr (.inr ⟨hu, hbefore⟩), hrecord,
        hevent, hsent⟩
  · have hdistinct := h.pending t task htask
    obtain hnone | ⟨n, c, hrecord, hpending, heq⟩ := hstride.offersNext_eq t
    · rw [hnone] at hnew
      cases hnew
    · rw [heq] at hnew
      obtain ⟨i, -, rfl⟩ := List.mem_map.mp hnew
      cases hsource
      rw [hpending] at hdistinct
      exact ⟨task.request, progress, n, c, (htasks _ _).mpr (.inl ⟨rfl, rfl⟩),
        hstride.record?_eq_some hrecord, rfl, (List.nodup_cons.mp hdistinct).1⟩

theorem Dispatched.advance (h : d.Dispatched) (hrecorded : d.Recorded)
    (hdistinct : d.intake.broker.Distinct) (htask : d.tasks[t]? = some task) (now : Moment) :
    (d.advance t task now).Dispatched where
  pending := by
    intro u other hother
    obtain ⟨progress, hstride, htasks⟩ := stride_advance htask now
    obtain ⟨-, rfl⟩ | ⟨-, hthere⟩ := (htasks u other).mp hother
    · obtain hfewer | ⟨-, hrouted⟩ := hstride.pending
      · exact (h.pending t task htask).sublist hfewer
      · rw [hrouted]
        exact nodup_resolveChannels ..
    · exact h.pending u other hthere
  sent := fun p hp u hsource => h.sent_advance htask now hp hsource
  once := by
    intro i
    obtain ⟨progress, hstride, -⟩ := stride_advance htask now
    have hpublished : (d.advance t task now).published =
        d.published ++ d.intake.offersNext t task.progress := rfl
    rw [hpublished]
    obtain hnone | ⟨n, c, hrecord, hpending, heq⟩ := hstride.offersNext_eq t
    · rw [hnone, List.append_nil]
      exact h.once i
    · have hnew : (n.id, [c]) ∉ targets i d.published :=
        h.notMem_targets hrecorded htask hrecord (by rw [hpending]; exact List.mem_cons_self) i
      rw [heq, targets_append, targets_announce, (hdistinct c.topic).count]
      split
      next =>
        refine List.nodup_append.mpr ⟨h.once i, List.pairwise_singleton _ _, ?_⟩
        intro x hx y hy heq
        rw [List.mem_singleton.mp hy] at heq
        exact hnew (heq ▸ hx)
      next =>
        rw [List.replicate_zero, List.append_nil]
        exact h.once i

/-! ## Every desk -/

/-- What holds at every desk, whatever has happened there. -/
structure Consistent (d : Desk) : Prop where
  recorded : d.Recorded
  dispatched : d.Dispatched
  distinct : d.intake.broker.Distinct
  took : d.intake.broker.Took d.published

theorem Consistent.fresh (metrics : Metrics) (config : RateLimit) (window : Duration) :
    (fresh metrics config window).Consistent where
  recorded := .fresh metrics config window
  dispatched := .fresh metrics config window
  distinct := fun _ => List.nodup_nil
  took := by
    intro i k hk
    cases hk

theorem Consistent.advance (h : d.Consistent) (htask : d.tasks[t]? = some task) (now : Moment) :
    (d.advance t task now).Consistent := by
  obtain ⟨progress, hstride, -⟩ := stride_advance htask now
  exact {
    recorded := h.recorded.advance htask now
    dispatched := h.dispatched.advance h.recorded h.distinct htask now
    distinct := h.distinct.of_topics_eq hstride.topics_eq
    took := hstride.took h.took t }

theorem Consistent.perform (h : d.Consistent) (a : Action) : (d.perform a).Consistent := by
  apply perform_induction h
  · intro r
    exact ⟨h.recorded.arrive r, h.dispatched.arrive r, h.distinct, h.took⟩
  · intro t task now htask
    exact h.advance htask now
  · intro b hother
    exact ⟨h.recorded.around hother _, h.dispatched.around b _, Intake.distinct_perform h.distinct,
      Intake.took_perform hother h.took⟩

theorem consistent_run (metrics : Metrics) (config : RateLimit) (window : Duration)
    (actions : List Action) : ((fresh metrics config window).run actions).Consistent :=
  run_induction (.fresh metrics config window) fun _ a h => h.perform a

/-- What requests publish, and what they keep keys for, they have stored. -/
structure PersistsFirst (d : Desk) : Prop where
  /-- What was published by requests is in the repository. -/
  published : ∀ p ∈ d.published, p.source.isSome = true → d.intake.repository.Backs p.event
  /-- The same goes for what consumers have made of it, wherever it is now: on a
  queue, with a worker, among the dead letters, or settled. -/
  everywhere : ∀ (i : Nat) (k : Consumer), d.intake.broker.consumers[i]? = some k →
    ∃ l : Ledger, l.Tracks k (eventsTo i d.published) ∧
      ∀ j ∈ l.journeys,
        (∃ p ∈ d.published, p.source.isSome = true ∧ p.consumer = i ∧ p.event = j.offered) →
          d.intake.repository.Backs j.event
  /-- A key is that of a request whose notification is in the repository. -/
  keys : ∀ key, d.intake.seen.contains key = true →
    ∃ (t : Nat) (r : Request) (n : Notification), d.Keeps t r n ∧ r.key = key ∧
      (∃ now, n = r.queuedAt now) ∧ d.intake.repository.find? n.id = some n
  /-- No consumer is offered a notification twice for one channel. -/
  once : ∀ i, (targets i d.published).Nodup

theorem Consistent.backs (h : d.Consistent) {p : Publication} (hp : p ∈ d.published)
    (hsource : p.source.isSome = true) : d.intake.repository.Backs p.event := by
  obtain ⟨t, ht⟩ := Option.isSome_iff_exists.mp hsource
  obtain ⟨r, progress, n, c, htask, hrecord, hevent, -⟩ := h.dispatched.sent p hp t ht
  have hstores : d.Stores t r n := ⟨progress, htask, hrecord⟩
  obtain ⟨now, hn⟩ := h.recorded.own t r n hstores
  refine ⟨n, c, ?_, ?_, h.recorded.held t r n hstores⟩
  · rw [hevent]
  · rw [hn]
    rfl

/-- In every order of the strides of any number of requests, with whatever goes
on around them, requests store before they publish. -/
theorem persistsFirst_run (metrics : Metrics) (config : RateLimit) (window : Duration)
    (actions : List Action) : ((fresh metrics config window).run actions).PersistsFirst := by
  have h := consistent_run metrics config window actions
  generalize (Desk.fresh metrics config window).run actions = d at h
  refine ⟨fun p hp hsource => h.backs hp hsource, ?_, ?_, h.dispatched.once⟩
  · intro i k hk
    obtain ⟨l, hl⟩ := (h.took i k hk).exists_ledger
    refine ⟨l, hl, ?_⟩
    rintro j hj ⟨p, hp, hsource, -, hoffered⟩
    obtain ⟨n, c, hevent, hqueued, hfound⟩ := h.backs hp hsource
    refine ⟨n, c, ?_, hqueued, hfound⟩
    rw [hl.unchanged j hj, ← hoffered, hevent]
  · intro key hseen
    obtain ⟨t, r, n, hkey, hkeeps⟩ := h.recorded.keys key hseen
    exact ⟨t, r, n, hkeeps, hkey, h.recorded.own t r n hkeeps.stores,
      h.recorded.held t r n hkeeps.stores⟩

end Desk

end Courier

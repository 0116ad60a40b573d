import Courier.Proofs.Delivery.Counting
import Courier.Proofs.Repository.History

/-! # Deliveries while storage fails

What a delivery returns is up to the sender alone, whatever becomes of the record.
A record that could not be saved or updated misses a try. Deliveries that follow
one another read what was written last, so the count falls behind the sends and
never gets ahead of them.
-/

namespace Courier

namespace Delivery

/-! ## What a delivery calls -/

inductive Call where
  | find
  | save
  | send
  | update
  deriving DecidableEq

/-- What the delivery calls in its next stride. -/
def Point.call? (e : Event) (c : Channel) : Point → Option Call
  | .arrived => if isRouted e c then some .find else none
  | .creating => some .save
  | .sending _ => some .send
  | .writing _ _ => some .update
  | .done _ => none

section Calls

variable {σ τ : Type} (store : AttemptStore σ)
  (send : τ → Notification → τ × Except SendError Unit) (c : Channel) (now : Timestamp) (e : Event)

/-- The delivery gets from one point to another with these calls. -/
inductive Calls : List Call → σ × τ × Point → σ × τ × Point → Prop where
  | nil (x : σ × τ × Point) : Calls [] x x
  | stride {s : σ} {t : τ} {p : Point} {calls : List Call} {after last : σ × τ × Point}
      (hstride : Stride store send c now e s t p after) (hrest : Calls calls after last) :
      Calls ((p.call? e c).toList ++ calls) (s, t, p) last

/-- The sender decides what becomes of a delivery. -/
structure SenderDecides (s : σ) (t : τ) : Prop where
  /-- An event for other channels is refused, and nobody is called. -/
  refused : c ∉ e.routed.channels →
    handle store send c now e s t =
        (s, t, .error (.invalidPayload ("event " ++ e.id ++ " is not routed to " ++ c.name))) ∧
      Calls store send c now e [] (s, t, .arrived)
        (s, t, .done (handle store send c now e s t).2.2)
  /-- Otherwise the sender is called once, and its answer is the result. -/
  answered : c ∈ e.routed.channels →
    (handle store send c now e s t).2 =
        ((send t e.routed.notification).1, outcome (send t e.routed.notification).2) ∧
      ∃ calls, calls.count .send = 1 ∧
        Calls store send c now e calls (s, t, .arrived)
          ((handle store send c now e s t).1, (handle store send c now e s t).2.1,
            .done (handle store send c now e s t).2.2)
  /-- With other storage the sender comes to the same, and so does the result. -/
  unaffected : ∀ {σ' : Type} (store' : AttemptStore σ') (s' : σ'),
    (handle store' send c now e s' t).2 = (handle store send c now e s t).2

end Calls

section Decision

variable {σ τ : Type} {store : AttemptStore σ}
  {send : τ → Notification → τ × Except SendError Unit} {c : Channel} {now : Timestamp}
  {e : Event} {s : σ} {t : τ}

theorem isRouted_iff : isRouted e c = true ↔ c ∈ e.routed.channels :=
  List.contains_iff_mem

theorem handle_of_unrouted (hunrouted : isRouted e c = false) :
    handle store send c now e s t = (s, t, .error (.notRouted e c)) := by
  rw [handle, if_neg (Bool.eq_false_iff.mp hunrouted)]

theorem handle_of_routed (hrouted : isRouted e c = true) :
    handle store send c now e s t =
      (finish store (start store s e c now).1 (start store s e c now).2
          (send t e.routed.notification).2,
        (send t e.routed.notification).1, outcome (send t e.routed.notification).2) := by
  rw [handle, if_pos hrouted]

theorem calls_refused (hunrouted : isRouted e c = false) :
    Calls store send c now e [] (s, t, .arrived) (s, t, .done (.error (.notRouted e c))) := by
  have hcalls : Calls store send c now e _ (s, t, .arrived) _ :=
    .stride (.refuse hunrouted) (.nil _)
  rwa [Point.call?, if_neg (Bool.eq_false_iff.mp hunrouted)] at hcalls

theorem calls_arrived {calls : List Call} {after last : σ × τ × Point}
    (hrouted : isRouted e c = true) (hstride : Stride store send c now e s t .arrived after)
    (hrest : Calls store send c now e calls after last) :
    Calls store send c now e (.find :: calls) (s, t, .arrived) last := by
  have hcalls := Calls.stride hstride hrest
  rwa [Point.call?, if_pos hrouted] at hcalls

/-- From the record that was read on, the sender is called and the outcome is written. -/
theorem calls_sending (a : Attempt) :
    Calls store send c now e [.send, .update] (s, t, .sending a)
      (finish store s a (send t e.routed.notification).2, (send t e.routed.notification).1,
        .done (outcome (send t e.routed.notification).2)) :=
  .stride .send (.stride .write (.nil _))

/-- A fresh record is saved where none was found. -/
theorem exists_calls_handle (hrouted : isRouted e c = true) :
    ∃ calls ∈ [[.find, .send, .update], [.find, .save, .send, .update]],
      Calls store send c now e calls (s, t, .arrived)
        ((handle store send c now e s t).1, (handle store send c now e s t).2.1,
          .done (handle store send c now e s t).2.2) := by
  rw [handle_of_routed hrouted, start, AttemptStore.load]
  cases hfind : store.find s e.routed.notification.id c with
  | ok found =>
      cases found with
      | some a =>
          refine ⟨_, List.mem_cons_self, ?_⟩
          exact calls_arrived hrouted (.load hrouted hfind) (calls_sending _)
      | none =>
          refine ⟨_, List.mem_cons_of_mem _ List.mem_cons_self, ?_⟩
          exact calls_arrived hrouted (.miss hrouted hfind) (.stride .create (calls_sending _))
  | error cause =>
      refine ⟨_, List.mem_cons_self, ?_⟩
      exact calls_arrived hrouted (.fallBack hrouted hfind) (calls_sending _)

theorem senderDecides (store : AttemptStore σ)
    (send : τ → Notification → τ × Except SendError Unit) (c : Channel) (now : Timestamp)
    (e : Event) (s : σ) (t : τ) : SenderDecides store send c now e s t where
  refused hother := by
    have hunrouted : isRouted e c = false :=
      Bool.eq_false_iff.mpr fun hrouted => hother (isRouted_iff.mp hrouted)
    rw [handle_of_unrouted hunrouted]
    exact ⟨rfl, calls_refused hunrouted⟩
  answered hlisted := by
    have hrouted := isRouted_iff.mpr hlisted
    obtain ⟨calls, hmem, hcalls⟩ : ∃ calls ∈ _, Calls store send c now e calls (s, t, .arrived) _ :=
      exists_calls_handle hrouted
    refine ⟨by rw [handle_of_routed hrouted], calls, ?_, hcalls⟩
    rw [List.mem_pair] at hmem
    obtain rfl | rfl := hmem <;> rfl
  unaffected store' s' := by
    cases hrouted : isRouted e c with
    | true => rw [handle_of_routed hrouted, handle_of_routed hrouted]
    | false => rw [handle_of_unrouted hrouted, handle_of_unrouted hrouted]

end Decision

/-! ## One delivery after another -/

/-- The write that the next stride makes, if it makes one. -/
def Point.write? (id : NotificationId) (c : Channel) : Point → Option Repository.Write
  | .creating => some (.saveAttempt (.fresh id c))
  | .writing a answer => some (.updateAttempt (a.withStatus (statusOf answer)))
  | _ => none

/-- The sender has answered and the outcome is not written yet. -/
def Point.isWriting : Point → Bool
  | .writing _ _ => true
  | _ => false

/-- What the delivery knows of the record is still so. -/
def Point.Expects (found : Option Attempt) : Point → Prop
  | .creating => found = none
  | .sending _ | .writing _ _ => found.isSome = true
  | .arrived | .done _ => True

/-- A repository with deliveries of one notification on one channel, one at a
time. The numbers are kept beside it, and nothing depends on them. -/
structure Series where
  repository : Repository
  /-- The delivery that is under way. -/
  current : Option (Event × Point)
  sends : Nat
  /-- How many outcomes were written. -/
  counted : Nat
  /-- How many writes of deliveries were not accepted. -/
  failures : Nat

namespace Series

inductive Action (id : NotificationId) (c : Channel) where
  /-- The handler is called, if it is not busy. -/
  | call (e : Event) (hsame : e.routed.notification.id = id)
  /-- The delivery makes one stride, with this answer should it call its sender. -/
  | proceed (now : Timestamp) (answer : Except SendError Unit)
  /-- Writes are rejected from now on, or accepted. -/
  | reject (on : Bool)
  /-- Something else is written to the repository. -/
  | around (w : Repository.Write) (hother : w.key? ≠ some (id, c))

/-- A new repository and no delivery so far. -/
def new : Series := ⟨.empty, none, 0, 0, 0⟩

/-- The repository does not accept this write. -/
def fails (x : Series) (w : Repository.Write) : Bool :=
  !(x.repository.write w).isOk

variable {id : NotificationId} {c : Channel}

/-- The delivery that is under way makes a stride. -/
def advance (x : Series) (id : NotificationId) (c : Channel) (e : Event) (p : Point)
    (now : Timestamp) (answer : Except SendError Unit) : Series :=
  let (repository, sends, point) :=
    stride Repository.store (fun n _ => (n + 1, answer)) c now e x.repository x.sends p
  let failed := (p.write? id c).any x.fails
  { repository
    current := if point.isDone then none else some (e, point)
    sends
    counted := x.counted + (p.isWriting && !failed).toNat
    failures := x.failures + failed.toNat }

/-- The action makes the repository reject writes. -/
def Action.rejects : Action id c → Bool
  | .reject on => on
  | _ => false

def perform (x : Series) : Action id c → Series
  | .call e _ => if x.current.isSome then x else { x with current := some (e, .arrived) }
  | .proceed now answer =>
      match x.current with
      | some (e, p) => x.advance id c e p now answer
      | none => x
  | .reject on => { x with repository := x.repository.rejecting on }
  | .around w _ => { x with repository := x.repository.perform w }

def run (x : Series) (actions : List (Action id c)) : Series :=
  actions.foldl perform x

/-- Sends of which the outcome is not written yet. -/
def unwritten (x : Series) : Nat :=
  (x.current.any fun delivery => delivery.2.isWriting).toNat

/-- A delivery under way, and what was counted when it looked for the record. -/
structure Joins (id : NotificationId) (c : Channel) (counted : Nat) (delivery : Event × Point) :
    Prop where
  same : delivery.1.routed.notification.id = id
  running : delivery.2.isDone = false
  counts : delivery.2.Counts id c counted

/-- What the record, the delivery under way and the numbers know of each other. -/
structure Coherent (id : NotificationId) (c : Channel) (x : Series) : Prop where
  missing : x.repository.findAttempt? id c = none → x.counted = 0
  found : ∀ a, x.repository.findAttempt? id c = some a →
    a.key = (id, c) ∧ a.count = UInt32.ofNat x.counted
  current : ∀ delivery ∈ x.current, Joins id c x.counted delivery
  bounded : x.counted + x.unwritten ≤ x.sends
  complete : x.failures = 0 → x.counted + x.unwritten = x.sends

variable {x : Series} {a : Action id c} {actions : List (Action id c)} {e : Event} {p : Point}
  {now : Timestamp} {answer : Except SendError Unit} {record : Attempt}
  {result : Except SendError Unit}

theorem unwritten_eq (hcurrent : x.current = some (e, p)) : x.unwritten = p.isWriting.toNat := by
  rw [unwritten, hcurrent, Option.any_some]

theorem fails_eq_false_iff {w : Repository.Write} :
    x.fails w = false ↔ x.repository.rejectsWrites = false ∧ x.repository.Fits w := by
  rw [← Repository.exists_write_iff, fails, Bool.not_eq_false']
  cases x.repository.write w <;> simp [Except.isOk, Except.toBool]

/-- A record that is written is found, unless nothing is written at all. -/
theorem write_cases {w : Repository.Write} (hkey : record.key = (id, c))
    (hwrite : w = .saveAttempt record ∨ w = .updateAttempt record) :
    x.fails w = true ∧ x.repository.perform w = x.repository ∨
      x.fails w = false ∧ (x.repository.perform w).findAttempt? id c = some record := by
  cases hkey
  cases hwritten : x.repository.write w with
  | error cause =>
      left
      rw [fails, hwritten]
      exact ⟨rfl, Repository.perform_of_error hwritten⟩
  | ok r' =>
      right
      have htaken := Repository.write_eq_ok_iff.mp hwritten
      rw [fails, hwritten, Repository.perform_of_takes htaken]
      refine ⟨rfl, ?_⟩
      obtain rfl | rfl := hwrite <;> cases htaken <;> exact Repository.findAttempt?_insert_self _ _

/-! ## What each stride makes of the series -/

theorem advance_arrived (hsame : e.routed.notification.id = id) :
    x.advance id c e .arrived now answer =
      { x with
        current :=
          if isRouted e c then
            match x.repository.findAttempt? id c with
            | some a => some (e, .sending (a.increment now))
            | none => some (e, .creating)
          else none } := by
  subst hsame
  cases hrouted : isRouted e c with
  | false =>
      rw [Series.advance, stride, hrouted]
      rfl
  | true =>
      have hfind : Repository.store.find x.repository e.routed.notification.id c =
        .ok (x.repository.findAttempt? e.routed.notification.id c) := rfl
      rw [Series.advance, stride, hrouted, hfind]
      cases x.repository.findAttempt? e.routed.notification.id c <;> rfl

theorem advance_creating (hsame : e.routed.notification.id = id) :
    x.advance id c e .creating now answer =
      { x with
        repository := x.repository.perform (.saveAttempt (.fresh id c))
        current := some (e, .sending ((Attempt.fresh id c).increment now))
        failures := x.failures + (x.fails (.saveAttempt (.fresh id c))).toNat } := by
  subst hsame
  rfl

theorem advance_sending :
    x.advance id c e (.sending record) now answer =
      { x with
        current := some (e, .writing record answer)
        sends := x.sends + 1 } :=
  rfl

theorem advance_writing :
    x.advance id c e (.writing record result) now answer =
      { x with
        repository := x.repository.perform (.updateAttempt (record.withStatus (statusOf result)))
        current := none
        counted := x.counted +
          (!x.fails (.updateAttempt (record.withStatus (statusOf result)))).toNat
        failures := x.failures +
          (x.fails (.updateAttempt (record.withStatus (statusOf result)))).toNat } :=
  rfl

/-- A delivery that goes on without a write or a send. -/
theorem Coherent.goOn {next : Option (Event × Point)} (h : Coherent id c x)
    (hunwritten : { x with current := next }.unwritten = x.unwritten)
    (hjoins : ∀ delivery ∈ next, Joins id c x.counted delivery) :
    Coherent id c { x with current := next } :=
  ⟨h.missing, h.found, hjoins, hunwritten ▸ h.bounded, hunwritten ▸ h.complete⟩

/-- A delivery that finds the record counts on, and else begins to count. -/
theorem Coherent.look (h : Coherent id c x) (hcurrent : x.current = some (e, .arrived)) :
    Coherent id c (x.advance id c e .arrived now answer) := by
  have hsame := (h.current _ hcurrent).same
  rw [advance_arrived hsame]
  apply h.goOn
  · rw [unwritten_eq hcurrent, unwritten]
    cases x.repository.findAttempt? id c <;> split <;> rfl
  · split
    next hrouted =>
      cases hfind : x.repository.findAttempt? id c with
      | none =>
          rintro _ ⟨⟩
          exact ⟨hsame, rfl, h.missing hfind⟩
      | some a =>
          obtain ⟨hkey, hcount⟩ := h.found a hfind
          rintro _ ⟨⟩
          exact ⟨hsame, rfl, hkey, (congrArg (· + 1) hcount).trans (ofNat_add_one x.counted)⟩
    next hunrouted => rintro _ ⟨⟩

/-- Whether the fresh record is saved or not, nothing was counted before. -/
theorem Coherent.create (h : Coherent id c x) (hcurrent : x.current = some (e, .creating)) :
    Coherent id c (x.advance id c e .creating now answer) := by
  obtain ⟨hsame, -, hseen⟩ := h.current _ hcurrent
  have hzero : x.counted = 0 := hseen
  obtain ⟨hmissing, hfound, -, hbounded, hcomplete⟩ := h
  rw [unwritten_eq hcurrent] at hbounded hcomplete
  rw [advance_creating hsame]
  have hnext : Joins id c x.counted (e, .sending ((Attempt.fresh id c).increment now)) := by
    rw [hzero]
    exact ⟨hsame, rfl, rfl, rfl⟩
  have hkey : (Attempt.fresh id c).key = (id, c) := rfl
  -- The delivery goes on alike in both cases, with a record that is perhaps not stored.
  obtain ⟨hfails, hunchanged⟩ | ⟨hfails, hsaved⟩ := write_cases (x := x) hkey (.inl rfl)
  · rw [hfails, hunchanged]
    refine ⟨hmissing, hfound, ?_, hbounded, ?_⟩
    · rintro _ ⟨⟩
      exact hnext
    · rintro ⟨⟩
  · rw [hfails]
    refine ⟨fun _ => hzero, ?_, ?_, hbounded, hcomplete⟩
    · intro a ha
      obtain rfl := Option.some.inj (hsaved.symm.trans ha)
      rw [hzero]
      exact ⟨rfl, rfl⟩
    · rintro _ ⟨⟩
      exact hnext

theorem Coherent.send (h : Coherent id c x) (hcurrent : x.current = some (e, .sending record)) :
    Coherent id c (x.advance id c e (.sending record) now answer) := by
  obtain ⟨hsame, -, hcounts⟩ := h.current _ hcurrent
  obtain ⟨hmissing, hfound, -, hbounded, hcomplete⟩ := h
  rw [unwritten_eq hcurrent] at hbounded hcomplete
  rw [advance_sending]
  refine ⟨hmissing, hfound, ?_, Nat.succ_le_succ hbounded, ?_⟩
  · rintro _ ⟨⟩
    exact ⟨hsame, rfl, hcounts⟩
  · intro hnone
    exact congrArg (· + 1) (hcomplete hnone)

/-- An outcome that is written is counted, and one that is lost is not. -/
theorem Coherent.write (h : Coherent id c x)
    (hcurrent : x.current = some (e, .writing record result)) :
    Coherent id c (x.advance id c e (.writing record result) now answer) := by
  obtain ⟨-, -, hkey, hcount⟩ := h.current _ hcurrent
  obtain ⟨hmissing, hfound, -, hbounded, hcomplete⟩ := h
  rw [unwritten_eq hcurrent] at hbounded hcomplete
  rw [advance_writing]
  have hkey : (record.withStatus (statusOf result)).key = (id, c) := hkey
  obtain ⟨hfails, hunchanged⟩ | ⟨hfails, hwritten⟩ := write_cases (x := x) hkey (.inr rfl)
  · rw [hfails, hunchanged]
    refine ⟨hmissing, hfound, ?_, Nat.le_of_succ_le hbounded, ?_⟩
    · rintro _ ⟨⟩
    · rintro ⟨⟩
  · rw [hfails]
    refine ⟨?_, ?_, ?_, hbounded, hcomplete⟩
    · intro hnone
      cases hnone.symm.trans hwritten
    · intro a ha
      obtain rfl := Option.some.inj (hwritten.symm.trans ha)
      exact ⟨hkey, hcount⟩
    · rintro _ ⟨⟩

theorem Coherent.perform (h : Coherent id c x) (a : Action id c) : Coherent id c (x.perform a) := by
  cases a with
  | call e hsame =>
      rw [Series.perform]
      split
      next => exact h
      next hidle =>
        have hnone : x.current = none := by simpa using hidle
        apply h.goOn
        · rw [unwritten, unwritten, hnone]
          rfl
        · rintro _ ⟨⟩
          exact ⟨hsame, rfl, trivial⟩
  | proceed now answer =>
      rw [Series.perform]
      split
      next e p hcurrent =>
        cases p with
        | arrived => exact h.look hcurrent
        | creating => exact h.create hcurrent
        | sending record => exact h.send hcurrent
        | writing record result => exact h.write hcurrent
        | done result => cases (h.current _ hcurrent).running
      next => exact h
  | reject on => exact ⟨h.missing, h.found, h.current, h.bounded, h.complete⟩
  | around w hother =>
      rw [Series.perform]
      refine ⟨?_, ?_, h.current, h.bounded, h.complete⟩
      · rw [Repository.findAttempt?_perform hother]
        exact h.missing
      · rw [Repository.findAttempt?_perform hother]
        exact h.found

theorem coherent_new : Coherent id c new := by
  refine ⟨fun _ => rfl, ?_, ?_, Nat.le_refl 0, fun _ => rfl⟩
  · rintro _ ⟨⟩
  · rintro _ ⟨⟩

/-- What every action keeps holds after a run. -/
theorem run_induction {P : Series → Prop} (hstart : P x)
    (hstep : ∀ before, ∀ a ∈ actions, P before → P (before.perform a)) : P (x.run actions) := by
  induction actions generalizing x with
  | nil => exact hstart
  | cons a rest ih =>
      apply ih (hstep x a List.mem_cons_self hstart)
      intro before b hmem
      exact hstep before b (List.mem_cons_of_mem a hmem)

theorem Coherent.run (h : Coherent id c x) (actions : List (Action id c)) :
    Coherent id c (x.run actions) :=
  run_induction h fun _ a _ hbefore => hbefore.perform a

/-! ## The record stays, and the count goes up -/

theorem counted_perform (x : Series) (a : Action id c) : x.counted ≤ (x.perform a).counted := by
  cases a with
  | call e hsame =>
      rw [Series.perform]
      split <;> exact Nat.le_refl _
  | proceed now answer =>
      rw [Series.perform]
      split
      next => exact Nat.le_add_right _ _
      next => exact Nat.le_refl _
  | reject on | around w hother => exact Nat.le_refl _

theorem Coherent.isSome_perform (h : Coherent id c x) (a : Action id c)
    (hheld : (x.repository.findAttempt? id c).isSome = true) :
    ((x.perform a).repository.findAttempt? id c).isSome = true := by
  have hwritten {w : Repository.Write} {record : Attempt} (hkey : record.key = (id, c))
      (hwrite : w = .saveAttempt record ∨ w = .updateAttempt record) :
      ((x.repository.perform w).findAttempt? id c).isSome = true := by
    obtain ⟨-, hunchanged⟩ | ⟨-, hfound⟩ := write_cases (x := x) hkey hwrite
    · rwa [hunchanged]
    · rw [hfound]
      rfl
  cases a with
  | call e hsame =>
      rw [Series.perform]
      split <;> exact hheld
  | proceed now answer =>
      rw [Series.perform]
      split
      next e p hcurrent =>
        obtain ⟨hsame, hrunning, hcounts⟩ := h.current _ hcurrent
        cases p with
        | arrived =>
            rw [advance_arrived hsame]
            exact hheld
        | creating =>
            have hkey : (Attempt.fresh id c).key = (id, c) := rfl
            rw [advance_creating hsame]
            exact hwritten hkey (.inl rfl)
        | sending record => exact hheld
        | writing record result =>
            have hkey : (record.withStatus (statusOf result)).key = (id, c) := hcounts.1
            rw [advance_writing]
            exact hwritten hkey (.inr rfl)
        | done result => cases hrunning
      next => exact hheld
  | reject on => exact hheld
  | around w hother =>
      rw [Series.perform, Repository.findAttempt?_perform hother]
      exact hheld

/-! ## Nothing fails while writes are accepted -/

/-- No write was rejected so far, and none will be until writes are. -/
structure Smooth (id : NotificationId) (c : Channel) (x : Series) : Prop where
  accepts : x.repository.rejectsWrites = false
  failures : x.failures = 0
  expects : ∀ delivery ∈ x.current, delivery.2.Expects (x.repository.findAttempt? id c)

/-- A record that fits is accepted, and then found. -/
theorem Smooth.write (hsmooth : Smooth id c x) {w : Repository.Write}
    (hkey : record.key = (id, c)) (hwrite : w = .saveAttempt record ∨ w = .updateAttempt record)
    (hfits : x.repository.Fits w) :
    x.fails w = false ∧ (x.repository.perform w).findAttempt? id c = some record := by
  have hfails : x.fails w = false := fails_eq_false_iff.mpr ⟨hsmooth.accepts, hfits⟩
  obtain ⟨hfails', -⟩ | ⟨-, hfound⟩ := write_cases (x := x) hkey hwrite
  · cases hfails.symm.trans hfails'
  · exact ⟨hfails, hfound⟩

theorem Smooth.advance (hsmooth : Smooth id c x) (h : Coherent id c x)
    (hcurrent : x.current = some (e, p)) : Smooth id c (x.advance id c e p now answer) := by
  obtain ⟨hsame, hrunning, hcounts⟩ := h.current _ hcurrent
  have hexpects := hsmooth.expects _ hcurrent
  cases p with
  | arrived =>
      rw [advance_arrived hsame]
      refine ⟨hsmooth.accepts, hsmooth.failures, ?_⟩
      dsimp only
      cases hfind : x.repository.findAttempt? id c <;> split <;> rintro _ ⟨⟩ <;> rfl
  | creating =>
      have hkey : (Attempt.fresh id c).key = (id, c) := rfl
      obtain ⟨hfails, hfound⟩ := hsmooth.write hkey (.inl rfl) hexpects
      rw [advance_creating hsame, hfails]
      refine ⟨Repository.rejectsWrites_perform.trans hsmooth.accepts, hsmooth.failures, ?_⟩
      rintro _ ⟨⟩
      exact Option.isSome_of_eq_some hfound
  | sending record =>
      refine ⟨hsmooth.accepts, hsmooth.failures, ?_⟩
      rintro _ ⟨⟩
      exact hexpects
  | writing record result =>
      have hkey : (record.withStatus (statusOf result)).key = (id, c) := hcounts.1
      have hfits : x.repository.Fits (.updateAttempt (record.withStatus (statusOf result))) := by
        obtain ⟨hid, hchannel⟩ := Prod.mk.inj hkey
        rw [Repository.Fits, hid, hchannel]
        exact hexpects
      obtain ⟨hfails, -⟩ := hsmooth.write hkey (.inr rfl) hfits
      rw [advance_writing, hfails]
      refine ⟨Repository.rejectsWrites_perform.trans hsmooth.accepts, hsmooth.failures, ?_⟩
      rintro _ ⟨⟩
  | done result => cases hrunning

theorem Smooth.perform (hsmooth : Smooth id c x) (h : Coherent id c x)
    (haccepts : a.rejects = false) : Smooth id c (x.perform a) := by
  cases a with
  | call e hsame =>
      rw [Series.perform]
      split
      next => exact hsmooth
      next =>
        refine ⟨hsmooth.accepts, hsmooth.failures, ?_⟩
        rintro _ ⟨⟩
        exact trivial
  | proceed now answer =>
      rw [Series.perform]
      split
      next e p hcurrent => exact hsmooth.advance h hcurrent
      next => exact hsmooth
  | reject on => exact ⟨haccepts, hsmooth.failures, hsmooth.expects⟩
  | around w hother =>
      refine ⟨Repository.rejectsWrites_perform.trans hsmooth.accepts, hsmooth.failures, ?_⟩
      rw [Series.perform, Repository.findAttempt?_perform hother]
      exact hsmooth.expects

/-! ## What holds of every series -/

/-- The record falls behind the sends, and never gets ahead of them. -/
structure Undercounts (id : NotificationId) (c : Channel) (x : Series) : Prop where
  single : (x.repository.recordsOf id c).length ≤ 1
  counts : ∀ a ∈ x.repository.recordsOf id c, a.count = UInt32.ofNat x.counted
  bounded : ∀ a ∈ x.repository.recordsOf id c, a.count.toNat ≤ x.sends
  /-- What was counted stays counted, as far as a word of 32 bits can tell. -/
  kept : ∀ (more : List (Action id c)), ∀ a ∈ x.repository.recordsOf id c,
    ∃ b ∈ (x.run more).repository.recordsOf id c, x.counted ≤ (x.run more).counted ∧
      ((x.run more).sends < UInt32.size → a.count ≤ b.count)
  /-- If every write was accepted, the record counts every send, except one of which
  the outcome is about to be written. -/
  behind : x.failures = 0 → x.sends = x.counted + x.unwritten
  complete : x.failures = 0 → x.current = none → 0 < x.sends →
    ∃ a, x.repository.recordsOf id c = [a] ∧ a.count = UInt32.ofNat x.sends

theorem mem_recordsOf_iff : record ∈ x.repository.recordsOf id c ↔
    x.repository.findAttempt? id c = some record := by
  rw [Repository.recordsOf_eq, Option.mem_toList]

/-- Whatever follows, the record is still there, and no less is counted. -/
theorem Coherent.kept (h : Coherent id c x) (hheld : x.repository.findAttempt? id c = some record)
    (actions : List (Action id c)) :
    ∃ b, (x.run actions).repository.findAttempt? id c = some b ∧
      x.counted ≤ (x.run actions).counted := by
  have hboth : Coherent id c (x.run actions) ∧
      ((x.run actions).repository.findAttempt? id c).isSome = true ∧
        x.counted ≤ (x.run actions).counted := by
    apply run_induction (P := fun y => Coherent id c y ∧
      (y.repository.findAttempt? id c).isSome = true ∧ x.counted ≤ y.counted)
    · exact ⟨h, Option.isSome_of_eq_some hheld, Nat.le_refl _⟩
    · rintro before a - ⟨hbefore, hsome, hcounted⟩
      exact ⟨hbefore.perform a, hbefore.isSome_perform a hsome,
        Nat.le_trans hcounted (counted_perform before a)⟩
  obtain ⟨-, hsome, hcounted⟩ := hboth
  obtain ⟨b, hfound⟩ := Option.isSome_iff_exists.mp hsome
  exact ⟨b, hfound, hcounted⟩

theorem Coherent.undercounts (h : Coherent id c x) : Undercounts id c x where
  single := by
    rw [Repository.recordsOf_eq]
    cases x.repository.findAttempt? id c <;> simp
  counts a hmem := (h.found a (mem_recordsOf_iff.mp hmem)).2
  bounded a hmem := by
    have hcounted := h.bounded
    rw [(h.found a (mem_recordsOf_iff.mp hmem)).2, UInt32.toNat_ofNat']
    exact Nat.le_trans (Nat.mod_le _ _) (by omega)
  kept more a hmem := by
    obtain ⟨b, hfound, hcounted⟩ := h.kept (mem_recordsOf_iff.mp hmem) more
    refine ⟨b, mem_recordsOf_iff.mpr hfound, hcounted, ?_⟩
    intro hsmall
    -- Both counts are then the numbers that they stand for.
    have hlater := h.run more
    have hbounded := hlater.bounded
    rw [(h.found a (mem_recordsOf_iff.mp hmem)).2, (hlater.found b hfound).2,
      UInt32.le_iff_toNat_le, UInt32.toNat_ofNat_of_lt' (by omega),
      UInt32.toNat_ofNat_of_lt' (by omega)]
    exact hcounted
  behind hnone := (h.complete hnone).symm
  complete hnone hrest hsent := by
    -- Between deliveries nothing waits to be written.
    have hcounted := h.complete hnone
    rw [unwritten, hrest] at hcounted
    have hcounted : x.counted = x.sends := hcounted
    cases hfind : x.repository.findAttempt? id c with
    | none => exact absurd (h.missing hfind) (by omega)
    | some a =>
        refine ⟨a, ?_, ?_⟩
        · rw [Repository.recordsOf_eq, hfind, Option.toList_some]
        · rw [← hcounted]
          exact (h.found a hfind).2

end Series

/-- Whatever the storage does, the sender decides what becomes of a delivery. And
whenever a repository rejects writes, also in the middle of a delivery, there is at
most one record for a series of deliveries; it never counts less than before or more
than were sent, and it counts all of them if every write was accepted. -/
theorem senderDecides_and_undercounts :
    (∀ (σ τ : Type) (store : AttemptStore σ)
      (send : τ → Notification → τ × Except SendError Unit) (c : Channel) (now : Timestamp)
      (e : Event) (s : σ) (t : τ), SenderDecides store send c now e s t) ∧
    ∀ (id : NotificationId) (c : Channel) (actions : List (Series.Action id c)),
      (Series.new.run actions).Undercounts id c ∧
        ((∀ a ∈ actions, a.rejects = false) → (Series.new.run actions).failures = 0) := by
  refine ⟨fun σ τ => senderDecides, ?_⟩
  intro id c actions
  have hcoherent : Series.Coherent id c Series.new := Series.coherent_new
  refine ⟨(hcoherent.run actions).undercounts, ?_⟩
  intro haccepts
  have hboth : Series.Coherent id c (Series.new.run actions) ∧
      Series.Smooth id c (Series.new.run actions) := by
    apply Series.run_induction (P := fun y => Series.Coherent id c y ∧ Series.Smooth id c y)
    · refine ⟨hcoherent, rfl, rfl, ?_⟩
      rintro _ ⟨⟩
    · rintro before a hmem ⟨hbefore, hsmooth⟩
      exact ⟨hbefore.perform a, hsmooth.perform hbefore (haccepts a hmem)⟩
  exact hboth.2.failures

/-- While writes are rejected, one of two tries is sent and not counted. -/
example :
    let e := Event.ofNotification "" ⟨default, [.email]⟩
    let next : Series.Action default .email := .proceed default (.ok ())
    let x := Series.new.run
      [.reject true, .call e rfl, next, next, next, next, .reject false, .call e rfl, next, next,
        next, next]
    (x.repository.recordsOf default .email).map Attempt.count = [1] ∧ x.sends = 2 := by
  decide

end Delivery

end Courier

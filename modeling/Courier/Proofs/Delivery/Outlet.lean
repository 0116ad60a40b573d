import Courier.Proofs.Consumer.Handling
import Courier.Proofs.Delivery.Counting
import Mathlib.Data.List.Perm.Basic

/-! # A consumer that delivers

The handler of a consumer may be the delivery by a sender. Then each worker that
is busy with an event is at some point of a delivery, and the strides of the
workers come in any order. The consumer, the sender and the repository each keep
their own account of what happens.
-/

namespace Courier

namespace Delivery

/-- A consumer with its journeys, the sender and the repository of its handler,
and the deliveries of its workers. -/
structure Outlet where
  ledger : Ledger
  sender : Sender
  repository : Repository
  /-- For each worker the delivery that it is busy with, if it is. -/
  calls : List (Option Point)

namespace Outlet

inductive Action where
  /-- Something happens to the consumer. That a handler returns is `finish`. -/
  | act (a : Consumer.Action)
  /-- The delivery of a worker makes a stride; the number drawn decides should it
  call the sender. -/
  | proceed (w : Nat) (now : Timestamp) (draw : Float)
  /-- The delivery of a worker returns. -/
  | finish (w : Nat)
  | setHealth (healthy : Bool)
  /-- Something else is written to the repository. -/
  | around (x : Repository.Write)

/-- An outlet as it is before the first event, with a new sender. -/
def create (name : String) (config : ConsumerConfig) (c : Channel) (rate : Float)
    (r : Repository) : Outlet :=
  ⟨Ledger.create name config, Sender.ofRate c rate, r, []⟩

abbrev consumer (o : Outlet) : Consumer := o.ledger.consumer

def channel (o : Outlet) : Channel := o.sender.channel

/-- The events that the consumer has accepted, in order. -/
def accepted (o : Outlet) : List Event :=
  o.ledger.journeys.map Journey.offered

/-- The delivery that a worker is busy with. -/
def call? (o : Outlet) (w : Nat) : Option Point :=
  o.calls[w]?.join

/-- No worker is busy with a delivery. -/
def isQuiet (o : Outlet) : Bool :=
  o.calls.all Option.isNone

/-- The event that a worker has in its hands. -/
def event? (o : Outlet) (w : Nat) : Option Event :=
  o.consumer.workers[w]?.bind fun worker => worker.stage.event?

/-- No handler returns but by itself, and none is interrupted. -/
def interrupts (o : Outlet) : Consumer.Action → Bool
  | .succeed _ | .fail _ => true
  | .lose w => (o.call? w).isSome
  | _ => false

/-- Workers are added, or one of them begins or ends a delivery. -/
def callsAfter (o : Outlet) : Consumer.Action → List (Option Point)
  | .start => o.calls ++ List.replicate o.consumer.config.workerCount none
  | .take w => o.calls.set w (some .arrived)
  | .succeed w | .fail w => o.calls.set w none
  | _ => o.calls

def act (o : Outlet) (a : Consumer.Action) : Outlet :=
  match o.consumer.step? a with
  | some (after, _) => { o with ledger := o.ledger.advance a after, calls := o.callsAfter a }
  | none => o

def advance (o : Outlet) (w : Nat) (e : Event) (p : Point) (now : Timestamp) (draw : Float) :
    Outlet :=
  let (repository, sender, p) :=
    stride Repository.store (fun s n => s.send n draw) o.channel now e o.repository o.sender p
  { o with sender := sender, repository := repository, calls := o.calls.set w (some p) }

/-- What a worker goes on with. -/
def conclusion (w : Nat) : Except DeliveryError Unit → Consumer.Action
  | .ok _ => .succeed w
  | .error _ => .fail w

/-- What is not possible in its turn changes nothing. -/
def perform (o : Outlet) : Action → Outlet
  | .act a => if o.interrupts a then o else o.act a
  | .proceed w now draw =>
      match o.event? w, o.call? w with
      | some e, some p => o.advance w e p now draw
      | _, _ => o
  | .finish w =>
      match o.call? w with
      | some (.done result) => o.act (conclusion w result)
      | _ => o
  | .setHealth healthy => { o with sender := o.sender.withHealth healthy }
  | .around x =>
      if x.key?.any fun key => key.2 = o.channel then o
      else { o with repository := o.repository.perform x }

def run (o : Outlet) : List Action → Outlet
  | [] => o
  | a :: rest => (o.perform a).run rest

/-! ## Workers and their deliveries -/

/-- Which workers are busy with the handler. -/
def handling (c : Consumer) : List Bool :=
  c.workers.map fun worker => worker.stage.kind = .handling

/-- The workers that are busy with the handler are those that deliver. -/
def Matched (o : Outlet) : Prop :=
  o.calls.map Option.isSome = handling o.consumer

/-- The handler has returned what the worker goes on with, and a worker that
dies is in no delivery. -/
def Fits (o : Outlet) : Consumer.Action → Prop
  | .succeed w => o.call? w = some (.done (.ok ()))
  | .fail w => ∃ cause, o.call? w = some (.done (.error (.send cause)))
  | .lose w => o.call? w = none
  | _ => True

variable {o : Outlet} {c c' : Consumer} {a : Consumer.Action} {moved : List Counter} {w : Nat}
  {worker : Worker} {stage : Stage} {signalled : Bool} {e : Event} {p : Point}

/-- What each kind of action keeps, every action keeps. -/
theorem perform_induction {P : Outlet → Prop} (b : Action) (hbefore : P o)
    (hact : ∀ a, o.interrupts a = false → P (o.act a))
    (hadvance : ∀ w e p now draw, o.event? w = some e → o.call? w = some p →
      P (o.advance w e p now draw))
    (hfinish : ∀ w result, o.call? w = some (.done result) → P (o.act (conclusion w result)))
    (hhealth : ∀ healthy, P { o with sender := o.sender.withHealth healthy })
    (haround : ∀ x : Repository.Write, x.key?.any (fun key => key.2 = o.channel) = false →
      P { o with repository := o.repository.perform x }) : P (o.perform b) := by
  cases b with
  | act a =>
      rw [perform]
      split
      next => exact hbefore
      next hfree => exact hact a (Bool.eq_false_iff.mpr hfree)
  | proceed w now draw =>
      rw [perform]
      split
      next hevent hcall => exact hadvance w _ _ now draw hevent hcall
      next => exact hbefore
  | finish w =>
      rw [perform]
      split
      next hcall => exact hfinish w _ hcall
      next => exact hbefore
  | setHealth healthy => exact hhealth healthy
  | around x =>
      rw [perform]
      split
      next => exact hbefore
      next hother => exact haround x (Bool.eq_false_iff.mpr hother)

theorem handling_restage (next : Stage) (hworkers : c'.workers = (c.setStage w next).workers) :
    handling c' = (handling c).set w (next.kind = .handling) := by
  rw [handling, hworkers, Consumer.setStage, handling, List.set_eq_modify]
  clear hworkers
  generalize c.workers = workers
  induction workers generalizing w with
  | nil => cases w <;> rfl
  | cons first rest ih =>
      cases w with
      | zero => rfl
      | succ w => exact congrArg _ ih

theorem set_of_getElem? {α : Type} {items : List α} {i : Nat} {x : α}
    (hitem : items[i]? = some x) : items.set i x = items := by
  obtain ⟨hlt, rfl⟩ := List.getElem?_eq_some_iff.mp hitem
  exact List.set_getElem_self hlt

theorem getElem?_handling (hworker : c.workers[w]? = some worker) :
    (handling c)[w]? = some (decide (worker.stage.kind = .handling)) := by
  rw [handling, List.getElem?_map, hworker, Option.map_some]

/-- A worker that is not busy with the handler before or after changes nothing. -/
theorem handling_eq_of_restage (next : Stage)
    (hworkers : c'.workers = (c.setStage w next).workers) (hworker : c.workers[w]? = some worker)
    (hbefore : worker.stage.kind ≠ .handling) (hafter : next.kind ≠ .handling) :
    handling c' = handling c := by
  have hw := getElem?_handling hworker
  rw [handling_restage next hworkers, decide_eq_false hafter]
  rw [decide_eq_false hbefore] at hw
  exact set_of_getElem? hw

theorem Matched.getElem?_calls (h : o.Matched) (hworker : o.consumer.workers[w]? = some worker) :
    ∃ call, o.calls[w]? = some call ∧ call.isSome = decide (worker.stage.kind = .handling) := by
  have hw := getElem?_handling hworker
  rw [← h, List.getElem?_map] at hw
  obtain ⟨call, hcall, hsome⟩ := Option.map_eq_some_iff.mp hw
  exact ⟨call, hcall, hsome⟩

theorem Matched.getElem?_none (h : o.Matched) (hworker : o.consumer.workers[w]? = some worker)
    (hkind : worker.stage.kind ≠ .handling) : o.calls[w]? = some none := by
  obtain ⟨call, hcall, hsome⟩ := h.getElem?_calls hworker
  rw [decide_eq_false hkind, Option.isSome_eq_false_iff, Option.isNone_iff_eq_none] at hsome
  rw [hcall, hsome]

theorem call?_eq_some_iff : o.call? w = some p ↔ o.calls[w]? = some (some p) :=
  Option.join_eq_some_iff

theorem Matched.stage_of_call? (h : o.Matched) (hcall : o.call? w = some p) :
    ∃ e signalled, o.consumer.workers[w]? = some ⟨.handling e, signalled⟩ := by
  have hw : (o.calls.map Option.isSome)[w]? = some true := by
    rw [List.getElem?_map, call?_eq_some_iff.mp hcall]
    rfl
  rw [h, handling, List.getElem?_map] at hw
  obtain ⟨⟨stage, signalled⟩, hworker, hkind⟩ := Option.map_eq_some_iff.mp hw
  cases stage with
  | handling e => exact ⟨e, signalled, hworker⟩
  | _ => cases hkind

theorem Matched.act (h : o.Matched) (hstep : Consumer.Step o.consumer a c' moved)
    (hfits : o.Fits a) : (o.callsAfter a).map Option.isSome = handling c' := by
  cases hstep with
  | accept | refuse | startDrain | drain | stopDrain | loseDrain => exact h
  | start =>
      have hworkers : handling o.consumer.start = handling o.consumer ++
          List.replicate o.consumer.config.workerCount false :=
        List.map_append.trans (congrArg _ List.map_replicate)
      rw [callsAfter, List.map_append, h, List.map_replicate, hworkers]
      rfl
  | signal =>
      rw [handling, Consumer.signal, List.map_map]
      exact h
  | take | succeed | backOff | retryAtOnce | exhaust =>
      rw [callsAfter, List.map_set, h]
      exact Eq.symm (handling_restage _ rfl)
  | wake hworker | requeue hworker | bury hworker | stopIdle hworker | loseIdle hworker =>
      exact h.trans (Eq.symm (handling_eq_of_restage _ rfl hworker (by simp [Stage.kind])
        (by simp [Stage.kind])))
  | abandon hworker hwaiting =>
      have hkind := Stage.kind_ne_of_waiting? hwaiting
      exact h.trans (Eq.symm (handling_eq_of_restage _ rfl hworker hkind (by simp [Stage.kind])))
  | @lose w stage signalled e hworker =>
      obtain ⟨call, hcall, hsome⟩ := h.getElem?_calls hworker
      have hnone : call = none := by
        have hidle : o.call? w = none := hfits
        rwa [call?, hcall] at hidle
      rw [hnone] at hsome
      have hkind : stage.kind ≠ .handling := of_decide_eq_false hsome.symm
      exact h.trans (Eq.symm (handling_eq_of_restage _ rfl hworker hkind (by simp [Stage.kind])))

/-- A stride does not end a delivery. -/
theorem Matched.advance (h : o.Matched) (hcall : o.call? w = some p) (e : Event) (now : Timestamp)
    (draw : Float) : (o.advance w e p now draw).Matched := by
  have hsome : (o.calls.map Option.isSome)[w]? = some true := by
    rw [List.getElem?_map, call?_eq_some_iff.mp hcall]
    rfl
  rw [Matched, Outlet.advance, List.map_set, Option.isSome_some, set_of_getElem? hsome]
  exact h

theorem call?_advance_self (hcall : o.call? w = some p) (e : Event) (now : Timestamp)
    (draw : Float) :
    (o.advance w e p now draw).call? w =
      some (stride Repository.store (fun s n => s.send n draw) o.channel now e o.repository
        o.sender p).2.2 := by
  have hlt := (List.getElem?_eq_some_iff.mp (call?_eq_some_iff.mp hcall)).1
  rw [call?_eq_some_iff, Outlet.advance, List.getElem?_set_self hlt]

theorem call?_advance_of_ne {v : Nat} (hne : w ≠ v) (e : Event) (p : Point) (now : Timestamp)
    (draw : Float) : (o.advance w e p now draw).call? v = o.call? v := by
  rw [call?, Outlet.advance, List.getElem?_set_ne hne]
  rfl

/-! ## The counters of the consumer and of the sender -/

/-- The sender has taken the notification. -/
def isDelivered : Option (Except SendError Unit) → Bool
  | some (.ok _) => true
  | _ => false

def isFailed : Option (Except SendError Unit) → Bool
  | some (.error _) => true
  | _ => false

/-- How many deliveries that have not returned yet have got such an answer. -/
def answered (calls : List (Option Point)) (q : Option (Except SendError Unit) → Bool) : Nat :=
  calls.countP fun call => call.any fun p => q p.answer?

/-- The sender has counted what the consumer has counted, and what deliveries
have sent that have not returned. -/
structure Counted (o : Outlet) : Prop where
  sent : o.sender.sent = o.consumer.stats.delivered + answered o.calls isDelivered
  failed : o.sender.failed = o.consumer.stats.failedAttempts + answered o.calls isFailed
  handled : o.consumer.stats.handled =
    o.sender.sent + o.sender.failed + answered o.calls Option.isNone

theorem answered_set {calls : List (Option Point)} {call : Option Point}
    (hcall : calls[w]? = some call) (next : Option Point)
    (q : Option (Except SendError Unit) → Bool) :
    answered (calls.set w next) q + (if call.any fun p => q p.answer? then 1 else 0) =
      answered calls q + if next.any fun p => q p.answer? then 1 else 0 := by
  rw [answered, List.set_eq_modify]
  exact Consumer.countP_modify (fun call => Option.any (fun p => q p.answer?) call)
    (fun _ => next) hcall

/-- What another point of one delivery does to the answers that are counted. -/
theorem answered_moves {calls : List (Option Point)} {call : Option Point}
    (hcall : calls[w]? = some call) (next : Option Point) :
    (answered (calls.set w next) isDelivered +
          (if call.any fun p => isDelivered p.answer? then 1 else 0) =
        answered calls isDelivered + if next.any fun p => isDelivered p.answer? then 1 else 0) ∧
      (answered (calls.set w next) isFailed +
          (if call.any fun p => isFailed p.answer? then 1 else 0) =
        answered calls isFailed + if next.any fun p => isFailed p.answer? then 1 else 0) ∧
      answered (calls.set w next) Option.isNone +
          (if call.any fun p => p.answer?.isNone then 1 else 0) =
        answered calls Option.isNone + if next.any fun p => p.answer?.isNone then 1 else 0 :=
  have hmoves := answered_set hcall next
  ⟨hmoves isDelivered, hmoves isFailed, hmoves Option.isNone⟩

theorem answered_start (calls : List (Option Point)) (n : Nat)
    (q : Option (Except SendError Unit) → Bool) :
    answered (calls ++ List.replicate n none) q = answered calls q := by
  simp [answered, List.countP_replicate]

theorem answered_of_isQuiet (hquiet : o.isQuiet = true)
    (q : Option (Except SendError Unit) → Bool) : answered o.calls q = 0 := by
  rw [answered, List.countP_eq_zero]
  intro call hcall
  rw [Option.isNone_iff_eq_none.mp (List.all_eq_true.mp hquiet call hcall)]
  exact Bool.false_ne_true

/-- A delivery that gets no answer changes nothing for the counters. -/
theorem answered_set_of_eq {calls : List (Option Point)} {p' : Point}
    (hcall : calls[w]? = some (some p)) (hanswer : p'.answer? = p.answer?)
    (q : Option (Except SendError Unit) → Bool) :
    answered (calls.set w (some p')) q = answered calls q := by
  have hset := answered_set hcall (some p') q
  rw [Option.any_some, Option.any_some, hanswer] at hset
  exact Nat.add_right_cancel hset

theorem Counted.act (h : o.Counted) (hmatched : o.Matched)
    (hstep : Consumer.Step o.consumer a c' moved) (hfits : o.Fits a) :
    Counted { o with ledger := o.ledger.advance a c', calls := o.callsAfter a } := by
  obtain ⟨hsent, hfailed, hhandled⟩ := h
  cases hstep with
  | start =>
      refine ⟨?_, ?_, ?_⟩
      all_goals rw [callsAfter, answered_start]
      · exact hsent
      · exact hfailed
      · exact hhandled
  | take hworker =>
      have hidle := hmatched.getElem?_none hworker (by simp [Stage.kind])
      have hmoves := answered_moves hidle (some .arrived)
      constructor <;>
        simp [callsAfter, consumer, Ledger.advance, Point.answer?, isDelivered, isFailed] at * <;>
        omega
  | succeed hworker =>
      have hmoves := answered_moves (call?_eq_some_iff.mp hfits) none
      constructor <;>
        simp [callsAfter, consumer, Ledger.advance, Point.answer?, isDelivered, isFailed] at * <;>
        omega
  | backOff hworker | retryAtOnce hworker | exhaust hworker =>
      obtain ⟨cause, hcall⟩ := hfits
      have hmoves := answered_moves (call?_eq_some_iff.mp hcall) none
      constructor <;>
        simp [callsAfter, consumer, Ledger.advance, Point.answer?, isDelivered, isFailed] at * <;>
        omega
  | _ => exact ⟨hsent, hfailed, hhandled⟩

/-- The sender counts a send as one or the other, as it answers. -/
theorem counts_send (s : Sender) (n : Notification) (draw : Float) :
    (s.send n draw).2 = .ok () ∧ (s.send n draw).1 = { s with sent := s.sent + 1 } ∨
      ∃ cause, (s.send n draw).2 = .error cause ∧
        (s.send n draw).1 = { s with failed := s.failed + 1 } := by
  rw [Sender.send]
  split
  next => exact .inr ⟨_, rfl, rfl⟩
  next =>
    split
    next => exact .inr ⟨_, rfl, rfl⟩
    next => exact .inl ⟨rfl, rfl⟩

theorem channel_send (s : Sender) (n : Notification) (draw : Float) :
    (s.send n draw).1.channel = s.channel := by
  obtain ⟨-, hsender⟩ | ⟨cause, -, hsender⟩ := counts_send s n draw
  all_goals rw [hsender]

/-- An outlet stays on its channel. -/
theorem channel_advance (o : Outlet) (w : Nat) (e : Event) (p : Point) (now : Timestamp)
    (draw : Float) : (o.advance w e p now draw).channel = o.channel := by
  have hstride := stride_stride Repository.store (fun s n => s.send n draw) o.channel now e
    o.repository o.sender p
  unfold Outlet.advance
  dsimp only
  generalize stride Repository.store _ o.channel now e o.repository o.sender p = after at hstride ⊢
  cases hstride with
  | send => exact channel_send ..
  | _ => rfl

theorem channel_act (o : Outlet) (a : Consumer.Action) : (o.act a).channel = o.channel := by
  rw [Outlet.act]
  split <;> rfl

theorem channel_perform (o : Outlet) (b : Action) : (o.perform b).channel = o.channel :=
  perform_induction (P := fun after => after.channel = o.channel) b rfl
    (fun a _ => channel_act o a) (fun w e p now draw _ _ => channel_advance o w e p now draw)
    (fun _ _ _ => channel_act o _) (fun _ => rfl) (fun _ _ => rfl)

theorem Counted.advance (h : o.Counted) (hcall : o.call? w = some p) (e : Event) (now : Timestamp)
    (draw : Float) : (o.advance w e p now draw).Counted := by
  obtain ⟨hsent, hfailed, hhandled⟩ := h
  have hcall := call?_eq_some_iff.mp hcall
  have hstride := stride_stride Repository.store (fun s n => s.send n draw) o.channel now e
    o.repository o.sender p
  unfold Outlet.advance
  dsimp only
  generalize stride Repository.store _ o.channel now e o.repository o.sender p = after at hstride ⊢
  have hquiet (hsame : after.2.1 = o.sender) (hanswer : after.2.2.answer? = p.answer?) :
      Counted { o with
        sender := after.2.1
        repository := after.1
        calls := o.calls.set w (some after.2.2) } := by
    have hset := answered_set_of_eq hcall hanswer
    refine ⟨?_, ?_, ?_⟩
    all_goals rw [hset, hsame]
    · exact hsent
    · exact hfailed
    · exact hhandled
  cases hstride with
  | refuse | load | miss | fallBack | create | rest => exact hquiet rfl rfl
  | write => exact hquiet rfl (Point.answer?_outcome _)
  | @send a =>
      have hmoves := answered_moves hcall
        (some (.writing a (o.sender.send e.routed.notification draw).2))
      obtain ⟨hanswer, hsender⟩ | ⟨cause, hanswer, hsender⟩ :=
        counts_send o.sender e.routed.notification draw
      all_goals
        constructor <;>
          simp [hanswer, hsender, consumer, Point.answer?, isDelivered, isFailed] at * <;> omega

end Outlet

end Delivery

end Courier

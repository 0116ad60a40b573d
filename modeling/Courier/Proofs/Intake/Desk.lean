import Courier.Proofs.Broker.Publications
import Courier.Proofs.Intake.Queueing
import Courier.Proofs.Intake.Strides

/-! # Many requests at one intake

Requests arrive at any time, and their strides come in any order. Between them
anything else can happen that reaches the broker, the repository or the limiter:
writes are rejected or accepted again, consumers come and subscribe, others
publish, and workers and drains do what they do. A desk also remembers what was
published and by which request; nothing that happens depends on that.
-/

namespace Courier

structure Task where
  request : Request
  progress : Progress

/-- An intake with all requests that have arrived, and all that was published. -/
structure Desk where
  intake : Intake
  tasks : List Task
  published : List Publication

namespace Intake

/-- What a request publishes with its next stride. -/
def offersNext (s : Intake) (t : Nat) : Progress → List Publication
  | .publishing n _ (c :: _) _ => announce (some t) (eventFor n c) (s.broker.subscribers c.topic)
  | _ => []

/-- What is published by others. -/
def offersAround (s : Intake) : Action → List Publication
  | .publish t e => announce none e (s.broker.subscribers t)
  | .act c a => a.offered.map fun e => ⟨none, c, e⟩
  | _ => []

def Action.isSubmit : Action → Bool
  | .submit _ _ => true
  | _ => false

variable {s : Intake} {r : Request} {now : Moment} {p : Progress} {after : Intake × Progress}
  {ps : List Publication}

/-- A stride publishes nothing, or what the request has stored on the first of
its channels that are left. -/
theorem Stride.offersNext_eq (hstride : Stride s r now p after) (t : Nat) :
    s.offersNext t p = [] ∨
      ∃ n c, p.record? = some n ∧ p.pending = c :: after.2.pending ∧
        s.offersNext t p = announce (some t) (eventFor n c) (s.broker.subscribers c.topic) := by
  cases hstride with
  | @publish n _ c => exact .inr ⟨n, c, rfl, rfl, rfl⟩
  | _ => exact .inl rfl

theorem source_of_mem_offersAround {a : Action} {x : Publication} (hx : x ∈ s.offersAround a) :
    x.source = none := by
  cases a with
  | publish =>
      obtain ⟨i, -, rfl⟩ := List.mem_map.mp hx
      rfl
  | act =>
      obtain ⟨e, -, rfl⟩ := List.mem_map.mp hx
      rfl
  | _ => cases hx

/-- Consumers accept nothing but what the request publishes. -/
theorem Stride.took (hstride : Stride s r now p after) (htook : s.broker.Took ps) (t : Nat) :
    after.1.broker.Took (ps ++ s.offersNext t p) := by
  have hquiet : ∀ b : Broker, b.consumers = s.broker.consumers → b.Took (ps ++ []) :=
    fun _ hconsumers => (htook.append []).of_consumers_eq hconsumers
  cases hstride with
  | publish => exact htook.offerAll (some t) _ _
  | ask =>
      apply hquiet
      rw [admitOne_broker]
      split <;> rfl
  | _ => exact hquiet _ rfl

/-- Consumers accept nothing but what others publish. -/
theorem took_perform {a : Action} (hother : a.isSubmit = false) (htook : s.broker.Took ps) :
    (s.perform a).broker.Took (ps ++ s.offersAround a) := by
  have hquiet : ∀ b : Broker, b.consumers = s.broker.consumers → b.Took (ps ++ []) :=
    fun _ hconsumers => (htook.append []).of_consumers_eq hconsumers
  cases a with
  | submit => cases hother
  | addConsumer name config => exact (htook.append []).addConsumer name config
  | subscribe t c =>
      apply hquiet
      rw [perform, withBroker, Broker.subscribe]
      split <;> rfl
  | publish t e => exact htook.offerAll none e _
  | act c a =>
      rw [perform]
      cases hact : s.broker.act? c a with
      | none => exact htook.append _
      | some b => exact htook.act? hact none
  | _ => exact hquiet _ rfl

end Intake

namespace Desk

inductive Action where
  | arrive (r : Request)
  /-- A request makes one stride, at the moment that its clocks show then. -/
  | proceed (t : Nat) (now : Moment)
  /-- Something else happens. -/
  | around (a : Intake.Action) (hother : a.isSubmit = false)

/-- A task of a consumer acts. -/
def Action.act (c : Nat) (a : Consumer.Action) : Action :=
  .around (.act c a) rfl

/-- A desk without requests, and without consumers. -/
def fresh (metrics : Metrics) (config : RateLimit) (window : Duration) : Desk :=
  ⟨.fresh (Broker.empty metrics) (.withWindow config window), [], []⟩

/-- The request at this place makes a stride. -/
def advance (d : Desk) (t : Nat) (task : Task) (now : Moment) : Desk :=
  let (intake, progress) := d.intake.stride task.request now task.progress
  ⟨intake, d.tasks.set t ⟨task.request, progress⟩,
    d.published ++ d.intake.offersNext t task.progress⟩

def perform (d : Desk) : Action → Desk
  | .arrive r => { d with tasks := d.tasks ++ [⟨r, .arrived⟩] }
  | .proceed t now =>
      match d.tasks[t]? with
      | some task => d.advance t task now
      | none => d
  | .around a _ =>
      { d with
        intake := d.intake.perform a
        published := d.published ++ d.intake.offersAround a }

def run (d : Desk) : List Action → Desk
  | [] => d
  | a :: rest => (d.perform a).run rest

variable {d : Desk} {a : Action} {actions : List Action} {t u : Nat} {task other : Task}

theorem run_append (d : Desk) (first second : List Action) :
    d.run (first ++ second) = (d.run first).run second := by
  induction first generalizing d with
  | nil => rfl
  | cons a rest ih => exact ih (d.perform a)

/-- What every action keeps holds after a run. -/
theorem run_induction {P : Desk → Prop} (hstart : P d)
    (hstep : ∀ before a, P before → P (before.perform a)) : P (d.run actions) := by
  induction actions generalizing d with
  | nil => exact hstart
  | cons a rest ih => exact ih (hstep d a hstart)

/-- What arrivals, strides and all that happens around them keep, every action
keeps. -/
theorem perform_induction {P : Desk → Prop} (hbefore : P d)
    (harrive : ∀ r, P { d with tasks := d.tasks ++ [⟨r, .arrived⟩] })
    (hadvance : ∀ t task now, d.tasks[t]? = some task → P (d.advance t task now))
    (haround : ∀ b : Intake.Action, b.isSubmit = false →
      P { d with
        intake := d.intake.perform b
        published := d.published ++ d.intake.offersAround b }) :
    P (d.perform a) := by
  cases a with
  | arrive r => exact harrive r
  | proceed t now =>
      rw [perform]
      split
      next task htask => exact hadvance t task now htask
      next => exact hbefore
  | around b hother => exact haround b hother

/-- A request whose turn it is makes a stride; all others are where they were. -/
theorem stride_advance (htask : d.tasks[t]? = some task) (now : Moment) :
    ∃ progress, Intake.Stride d.intake task.request now task.progress
        ((d.advance t task now).intake, progress) ∧
      ∀ u other, (d.advance t task now).tasks[u]? = some other ↔
        u = t ∧ other = ⟨task.request, progress⟩ ∨ u ≠ t ∧ d.tasks[u]? = some other := by
  refine ⟨_, Intake.stride_stride .., ?_⟩
  intro u other
  have htasks : (d.advance t task now).tasks = d.tasks.set t
      ⟨task.request, (d.intake.stride task.request now task.progress).2⟩ := rfl
  rw [htasks]
  by_cases hu : u = t
  · subst hu
    rw [List.getElem?_set_self (List.getElem?_eq_some_iff.mp htask).1]
    constructor
    · intro heq
      exact .inl ⟨rfl, (Option.some.inj heq).symm⟩
    · rintro (⟨-, rfl⟩ | ⟨hne, -⟩)
      · rfl
      · exact absurd rfl hne
  · rw [List.getElem?_set_ne (Ne.symm hu)]
    simp [hu]

/-- A request that has just arrived is the only one that was not there. -/
theorem getElem?_append_task {r : Request}
    (hother : (d.tasks ++ [Task.mk r .arrived])[u]? = some other) :
    other = ⟨r, .arrived⟩ ∨ d.tasks[u]? = some other := by
  rw [List.getElem?_append] at hother
  split at hother
  next => exact .inr hother
  next => exact .inl (List.mem_singleton.mp (List.mem_of_getElem? hother))

end Desk

end Courier

import Courier.Proofs.Consumer.Step

/-! # Runs of a consumer

A run is a list of actions, each possible when its turn comes. What every rule
keeps, every run keeps.
-/

namespace Courier.Consumer

/-- The consumer after the actions; `none` if one is not possible in its turn. -/
def run? (c : Consumer) : List Action → Option Consumer
  | [] => some c
  | a :: rest => (c.step? a).bind fun (next, _) => next.run? rest

/-- The event that an action gets accepted. -/
def admitted? (c : Consumer) : Action → Option Event
  | .offer e =>
      match (c.offer e).2 with
      | .ok () => some e
      | .error _ => none
  | _ => none

/-- The events that are accepted in a run, in order. -/
def accepted (c : Consumer) : List Action → List Event
  | [] => []
  | a :: rest =>
      (c.admitted? a).toList ++ (c.step? a).elim [] fun (next, _) => next.accepted rest

variable {c c' middle : Consumer} {a : Action} {actions : List Action} {moved : List Counter}

theorem run?_cons (hstep : Step c a middle moved) (rest : List Action) :
    c.run? (a :: rest) = middle.run? rest := by
  rw [run?, hstep.step?_eq, Option.bind_some]

theorem run?_cons_eq_some_iff {rest : List Action} :
    c.run? (a :: rest) = some c' ↔
      ∃ middle moved, Step c a middle moved ∧ middle.run? rest = some c' := by
  constructor
  · intro hrun
    obtain ⟨⟨middle, moved⟩, hstep, hrest⟩ := Option.bind_eq_some_iff.mp hrun
    exact ⟨middle, moved, .of_step? hstep, hrest⟩
  · rintro ⟨middle, moved, hstep, hrest⟩
    rw [run?_cons hstep, hrest]

theorem accepted_cons (hstep : Step c a middle moved) (rest : List Action) :
    c.accepted (a :: rest) = (c.admitted? a).toList ++ middle.accepted rest := by
  rw [accepted, hstep.step?_eq, Option.elim_some]

theorem run?_append (c : Consumer) (first second : List Action) :
    c.run? (first ++ second) = (c.run? first).bind (·.run? second) := by
  induction first generalizing c with
  | nil => rfl
  | cons a rest ih =>
      rw [List.cons_append, run?, run?]
      cases c.step? a with
      | none => rfl
      | some after => exact ih after.1

theorem accepted_append (hrun : c.run? actions = some middle) (more : List Action) :
    c.accepted (actions ++ more) = c.accepted actions ++ middle.accepted more := by
  induction actions generalizing c with
  | nil =>
      cases hrun
      rfl
  | cons a rest ih =>
      obtain ⟨next, moved, hstep, hrest⟩ := run?_cons_eq_some_iff.mp hrun
      rw [List.cons_append, accepted_cons hstep, accepted_cons hstep, ih hrest, List.append_assoc]

theorem admitted?_offer (e : Event) :
    c.admitted? (.offer e) =
      if c.queue.length < c.config.queueCapacity then some e else none := by
  by_cases hroom : c.queue.length < c.config.queueCapacity <;>
    simp [admitted?, offer, queueHasRoom, hroom]

/-- What every possible action of a run keeps holds at its end. -/
theorem run?_induction {P : Consumer → Prop} (hrun : c.run? actions = some c') (hstart : P c)
    (hstep : ∀ before a after moved, a ∈ actions → P before → Step before a after moved →
      P after) : P c' := by
  induction actions generalizing c with
  | nil =>
      cases hrun
      exact hstart
  | cons a rest ih =>
      obtain ⟨middle, moved, hfirst, hrest⟩ := run?_cons_eq_some_iff.mp hrun
      apply ih hrest (hstep c a middle moved List.mem_cons_self hstart hfirst)
      intro before b after counted hmem
      exact hstep before b after counted (List.mem_cons_of_mem a hmem)

/-- No action changes what a consumer is configured to do. -/
theorem Step.config_eq (hstep : Step c a c' moved) : c'.config = c.config := by
  cases hstep <;> rfl

theorem config_run? (hrun : c.run? actions = some c') : c'.config = c.config :=
  run?_induction (P := fun after => after.config = c.config) hrun rfl
    fun _ _ _ _ _ hsame hstep => hstep.config_eq.trans hsame

end Courier.Consumer

import Courier.Proofs.Pipeline.Hosting
import Courier.Proofs.World.Work

/-! # The world has a desk

Shutdown waits in the world as it does for any system with a desk. While time
goes by, only tasks do something there: nothing is published, no topic is
cleared, and nobody sends the signal.
-/

namespace Courier

/-- The action neither sends the signal nor clears a topic. -/
def Desk.Action.isQuiet (a : Desk.Action) : Bool :=
  !a.isSignal && !a.isClearing

theorem Desk.Action.eq_false_of_isQuiet {a : Desk.Action} (hquiet : a.isQuiet = true) :
    a.isSignal = false ∧ a.isClearing = false := by
  rw [isQuiet, Bool.and_eq_true, Bool.not_eq_true', Bool.not_eq_true'] at hquiet
  exact hquiet

/-- Tasks do not ask and do not publish, and leave the topics alone. -/
theorem Intake.Action.quiet_of_isTask {a : Intake.Action} (htask : a.isTask = true) :
    (∃ hother : a.isSubmit = false, (Desk.Action.around a hother).isQuiet = true) ∧
      ∀ s : Intake, s.offersAround a = [] := by
  cases a with
  | act c a => cases a <;> first | exact ⟨⟨rfl, rfl⟩, fun _ => rfl⟩ | cases htask
  | saveAttempt | updateAttempt | limit => exact ⟨⟨rfl, rfl⟩, fun _ => rfl⟩
  | _ => cases htask

namespace World

/-- The world as a desk, with the requests that have come to it before and what
was published. -/
def desk (tasks : List Task) (published : List Publication) (w : World) : Desk :=
  ⟨w.intake, tasks, published⟩

variable {w w' : World} {tasks : List Task} {published : List Publication}

theorem Works.reaches (h : w.Works w') :
    (w.desk tasks published).Reaches (fun a => a.isQuiet = true) (w'.desk tasks published) := by
  obtain ⟨actions, htasks, hintake⟩ := h
  rw [desk, desk, hintake]
  apply Desk.reaches_run
  · exact fun a hmem => (Intake.Action.quiet_of_isTask (htasks a hmem)).1
  · exact fun a hmem => (Intake.Action.quiet_of_isTask (htasks a hmem)).2

theorem reaches_sendSignal (w : World) :
    (w.desk tasks published).Reaches (fun _ => True) (w.sendSignal.desk tasks published) := by
  rw [desk, desk, intake_sendSignal]
  apply Desk.reaches_run <;> intro a hmem <;> obtain ⟨c, -, rfl⟩ := List.mem_map.mp hmem
  · exact ⟨rfl, trivial⟩
  · exact fun _ => rfl

/-- After a shutdown the world goes on without its tasks. -/
theorem shutdown_fst (limits : Shutdown.Limits) (w : World) :
    (w.shutdown limits).1 = { (system.execute limits w).1 with tasks := [] }.catchUp :=
  rfl

theorem shutdown_snd (limits : Shutdown.Limits) (w : World) :
    (w.shutdown limits).2 = (system.execute limits w).2 :=
  rfl

/-- Whatever has happened before, waiting in the world is waiting at its desk. -/
theorem hosts_system (tasks : List Task) (published : List Publication) :
    system.Hosts (desk tasks published) fun a => a.isQuiet = true where
  isIdle _ := rfl
  catchUp w := (works_catchUp w).reaches
  elapse time w := (works_elapse time w).reaches
  signal := reaches_sendSignal
  abort w := (works_abort w).reaches.mono fun _ _ => trivial

end World

end Courier

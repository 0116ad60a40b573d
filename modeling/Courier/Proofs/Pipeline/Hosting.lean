import Courier.Proofs.Intake.Evolution
import Courier.Shutdown

/-! # Waiting at a desk

Shutdown knows little of the system that it waits for. Here the system has a
desk in it, and looks whether the broker of the desk is idle; whatever else there
is, and in whichever order things happen while time goes by, what happens to the
desk are actions of its own.
-/

namespace Courier

/-- The desk becomes the other by actions that are allowed. -/
def Desk.Reaches (allowed : Desk.Action → Prop) (d d' : Desk) : Prop :=
  ∃ actions, (∀ a ∈ actions, allowed a) ∧ d' = d.run actions

namespace Desk

variable {allowed : Desk.Action → Prop} {d d' d'' : Desk}

theorem Reaches.refl (allowed : Desk.Action → Prop) (d : Desk) : d.Reaches allowed d :=
  ⟨[], List.forall_mem_nil _, rfl⟩

theorem Reaches.trans (hfirst : d.Reaches allowed d') (hsecond : d'.Reaches allowed d'') :
    d.Reaches allowed d'' := by
  obtain ⟨first, hfirst, rfl⟩ := hfirst
  obtain ⟨second, hsecond, rfl⟩ := hsecond
  exact ⟨first ++ second, List.forall_mem_append.mpr ⟨hfirst, hsecond⟩, (run_append ..).symm⟩

theorem reaches_perform {a : Desk.Action} (d : Desk) (hallowed : allowed a) :
    d.Reaches allowed (d.perform a) :=
  ⟨[a], List.forall_mem_singleton.mpr hallowed, rfl⟩

theorem Reaches.mono {more : Desk.Action → Prop} (h : d.Reaches allowed d')
    (hmore : ∀ a, allowed a → more a) : d.Reaches more d' := by
  obtain ⟨actions, hallowed, rfl⟩ := h
  exact ⟨actions, fun a hmem => hmore a (hallowed a hmem), rfl⟩

/-- What happens at an intake without a publication happens at every desk with
this intake. -/
theorem reaches_run {actions : List Intake.Action} (s : Intake) (tasks : List Task)
    (published : List Publication)
    (hallowed : ∀ a ∈ actions, ∃ hother : a.isSubmit = false, allowed (.around a hother))
    (hsilent : ∀ a ∈ actions, ∀ s : Intake, s.offersAround a = []) :
    Reaches allowed ⟨s, tasks, published⟩ ⟨s.run actions, tasks, published⟩ := by
  induction actions generalizing s with
  | nil => exact .refl _ _
  | cons a rest ih =>
      obtain ⟨hother, ha⟩ := hallowed a List.mem_cons_self
      have hfirst := reaches_perform (⟨s, tasks, published⟩ : Desk) ha
      rw [perform, hsilent a List.mem_cons_self, List.append_nil] at hfirst
      exact hfirst.trans (ih (s.perform a) (fun b hmem => hallowed b (List.mem_cons_of_mem a hmem))
        fun b hmem => hsilent b (List.mem_cons_of_mem a hmem))

end Desk

namespace Shutdown.System

variable {σ : Type}

/-- The system has a desk, to which only allowed actions happen while time goes
by. What the signal does to it, and the end of the tasks, are actions too. -/
structure Hosts (sys : System σ) (desk : σ → Desk) (allowed : Desk.Action → Prop) : Prop where
  isIdle : ∀ s, sys.isIdle s = (desk s).intake.broker.isIdle
  catchUp : ∀ s, (desk s).Reaches allowed (desk (sys.catchUp s))
  elapse : ∀ time s, (desk s).Reaches allowed (desk (sys.elapse time s))
  signal : ∀ s, (desk s).Reaches (fun _ => True) (desk (sys.signal s))
  abort : ∀ s, (desk s).Reaches (fun _ => True) (desk (sys.abort s))

variable {sys : System σ} {desk : σ → Desk} {allowed : Desk.Action → Prop}

theorem Hosts.mono {more : Desk.Action → Prop} (h : sys.Hosts desk allowed)
    (hmore : ∀ a, allowed a → more a) : sys.Hosts desk more where
  isIdle := h.isIdle
  catchUp s := (h.catchUp s).mono hmore
  elapse time s := (h.elapse time s).mono hmore
  signal := h.signal
  abort := h.abort

/-- Who finds the system idle does not wait. -/
theorem waitIdle_of_isIdle {s : σ} (hidle : sys.isIdle s = true) (limit : Nat) :
    sys.waitIdle limit s = (s, true) := by
  rw [System.waitIdle, if_pos hidle]

/-- Who waits successfully ends where the system is idle. -/
theorem isIdle_waitIdle {limit : Nat} {s : σ} (hfound : (sys.waitIdle limit s).2 = true) :
    sys.isIdle (sys.waitIdle limit s).1 = true := by
  fun_induction sys.waitIdle limit s with
  | case1 _ _ hidle => exact hidle
  | case2 _ _ _ _ ih => exact ih hfound
  | case3 => cases hfound

theorem Hosts.waitIdle (h : sys.Hosts desk allowed) (limit : Nat) (s : σ) :
    (desk s).Reaches allowed (desk (sys.waitIdle limit s).1) := by
  fun_induction sys.waitIdle limit s with
  | case1 => exact .refl _ _
  | case2 limit s _ _ ih => exact (h.elapse pollInterval s).trans ih
  | case3 limit s _ _ => exact h.elapse limit s

theorem Hosts.join (h : sys.Hosts desk allowed) (limit : Nat) (s : σ) (j : Joining) :
    (desk s).Reaches allowed (desk (sys.join limit s j).1) := by
  fun_induction sys.join limit s j with
  | case1 => exact .refl _ _
  | case2 limit s j _ _ after _ _ => exact h.catchUp s
  | case3 limit s j _ _ after _ _ ih => exact (h.catchUp s).trans ((h.elapse _ _).trans ih)

/-- What shutdown does after it has waited. -/
theorem Hosts.execute (h : sys.Hosts desk allowed) (limits : Limits) (s : σ) :
    (desk (sys.waitIdle limits.drain s).1).Reaches (fun _ => True)
      (desk (sys.execute limits s).1) := by
  have hall := h.mono fun _ _ => trivial
  have hended := (hall.signal (sys.waitIdle limits.drain s).1).trans
    (hall.join limits.join _ (.start (sys.tasks s).length))
  rw [System.execute]
  dsimp only
  split
  next => exact hended
  next => exact hended.trans (hall.abort _)

theorem drained_execute (limits : Limits) (s : σ) :
    (sys.execute limits s).2.drained = (sys.waitIdle limits.drain s).2 := rfl

end Shutdown.System

end Courier

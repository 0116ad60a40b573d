import Courier.Shutdown
import Mathlib.Data.List.Basic

/-! # Counting tasks while they end

Endings are heard of one by one, in an order that nothing fixes, and the wait may be cut
off between any two of them. Whenever that is, those that returned among the tasks heard
of are counted, and after a look none of the others is over. So a task that died, or one
that never ends, takes nothing away from the count.
-/

namespace Courier

namespace Shutdown

theorem isOver_iff {state : TaskState} :
    state.isOver = true ↔ ∃ ending, state.ending? = some ending := by
  cases state <;> simp [TaskState.isOver, TaskState.ending?]

/-- How the task at a place has ended, if it is over. -/
def endingAt? (states : List TaskState) (k : Nat) : Option Ending :=
  states[k]?.bind TaskState.ending?

/-- Tasks that are over stay as they are, and no task is added. -/
structure Lasts (states states' : List TaskState) : Prop where
  length_eq : states'.length = states.length
  ended : ∀ k ending, endingAt? states k = some ending → endingAt? states' k = some ending

/-- These tasks were heard of, the latest first; those of them that returned are counted,
and all other tasks are pending. -/
structure Heard (states : List TaskState) (heard : List Nat) (j : Joining) : Prop where
  all : (heard ++ j.pending).Perm (List.range states.length)
  ended : ∀ k ∈ heard, ∃ ending, endingAt? states k = some ending
  joined : j.joined = heard.countP fun k => endingAt? states k = some .returned

/-- Nothing else is to be heard by now. -/
def UpToDate (states : List TaskState) (j : Joining) : Prop :=
  ∀ k ∈ j.pending, endingAt? states k = none

variable {states states' : List TaskState} {heard : List Nat} {j : Joining}

theorem countP_endingAt? (states : List TaskState) :
    ((List.range states.length).countP fun k => endingAt? states k = some .returned) =
      states.countP (· = .returned) := by
  induction states with
  | nil => rfl
  | cons state rest ih =>
      have hhead : endingAt? (state :: rest) 0 = some .returned ↔ state = .returned := by
        cases state <;> simp [endingAt?, TaskState.ending?]
      rw [List.length_cons, List.range_succ_eq_map, List.countP_cons, List.countP_cons,
        List.countP_map, ← ih]
      simp only [hhead]
      rfl

theorem heard_start (states : List TaskState) : Heard states [] (.start states.length) where
  all := .refl _
  ended := List.forall_mem_nil _
  joined := rfl

namespace Heard

/-- Whichever ending is heard of next, the count stays right. -/
theorem note (h : Heard states heard j) {k : Nat} {ending : Ending} (hpending : k ∈ j.pending)
    (hending : endingAt? states k = some ending) : Heard states (k :: heard) (j.note k ending) where
  all := by
    have hmoved : (heard ++ j.pending).Perm (k :: (heard ++ j.pending.erase k)) :=
      ((List.perm_cons_erase hpending).append_left heard).trans List.perm_middle
    exact hmoved.symm.trans h.all
  ended := List.forall_mem_cons.mpr ⟨⟨ending, hending⟩, h.ended⟩
  joined := by
    rw [List.countP_cons, ← h.joined, hending]
    cases ending <;> rfl

theorem collect (h : Heard states heard j) (turn : List Nat → Nat) :
    ∃ heard', Heard states heard' (j.collect turn states.toArray) := by
  fun_induction Joining.collect turn states.toArray j generalizing heard with
  | case1 => exact ⟨heard, h⟩
  | case2 j k ending hnext ih =>
      obtain ⟨hpending, hending⟩ := Joining.mem_ended_iff.mp (Joining.mem_ended_of_next? hnext)
      rw [List.getElem?_toArray] at hending
      exact ih (h.note hpending hending)

/-- While time goes by, nothing that was heard becomes wrong. -/
theorem lasts (h : Heard states heard j) (hlasts : Lasts states states') :
    Heard states' heard j where
  all := hlasts.length_eq ▸ h.all
  ended k hk := by
    obtain ⟨ending, hending⟩ := h.ended k hk
    exact ⟨ending, hlasts.ended k ending hending⟩
  joined := by
    rw [h.joined]
    apply List.countP_congr
    intro k hk
    obtain ⟨ending, hending⟩ := h.ended k hk
    rw [hending, hlasts.ended k ending hending]

theorem joined_eq (h : Heard states heard j) (hlast : UpToDate states j) :
    j.joined = states.countP (· = .returned) := by
  have hpending : (j.pending.countP fun k => endingAt? states k = some .returned) = 0 := by
    rw [List.countP_eq_zero]
    intro k hk
    rw [hlast k hk]
    decide
  rw [← countP_endingAt?, ← h.all.countP_eq, List.countP_append, hpending, h.joined, Nat.add_zero]

theorem pending_eq_nil_iff (h : Heard states heard j) (hlast : UpToDate states j) :
    j.pending = [] ↔ ∀ state ∈ states, state.isOver = true := by
  constructor
  · intro hnil state hmem
    obtain ⟨k, hstate⟩ := List.mem_iff_getElem?.mp hmem
    have hk : k ∈ heard := by
      have hrange := List.mem_range.mpr (List.getElem?_eq_some_iff.mp hstate).1
      rwa [← h.all.mem_iff, hnil, List.append_nil] at hrange
    obtain ⟨ending, hending⟩ := h.ended k hk
    rw [endingAt?, hstate, Option.bind_some] at hending
    exact isOver_iff.mpr ⟨ending, hending⟩
  · intro hover
    rw [List.eq_nil_iff_forall_not_mem]
    intro k hk
    have hlength := List.mem_range.mp (h.all.mem_iff.mp (List.mem_append_right heard hk))
    obtain ⟨ending, hending⟩ := isOver_iff.mp (hover _ (List.getElem_mem hlength))
    have hnone := hlast k hk
    rw [endingAt?, List.getElem?_eq_getElem hlength, Option.bind_some, hending] at hnone
    cases hnone

end Heard

theorem upToDate_collect (turn : List Nat → Nat) (states : List TaskState) (j : Joining) :
    UpToDate states (j.collect turn states.toArray) := by
  fun_induction Joining.collect turn states.toArray j with
  | case1 j hnext =>
      intro k hpending
      -- Where none comes next, there is not even a first one.
      rw [Joining.next?, Option.or_eq_none_iff, List.head?_eq_none_iff] at hnext
      cases hending : endingAt? states k with
      | none => rfl
      | some ending =>
          have hmem : (k, ending) ∈ j.ended states.toArray := by
            rw [Joining.mem_ended_iff, List.getElem?_toArray]
            exact ⟨hpending, hending⟩
          rw [hnext.2] at hmem
          cases hmem
  | case2 j k ending hnext ih => exact ih

namespace System

variable {σ : Type}

/-- Tasks that are over stay so while time goes by. -/
structure Steady (sys : System σ) : Prop where
  catchUp : ∀ s, Lasts (sys.tasks s) (sys.tasks (sys.catchUp s))
  elapse : ∀ time s, Lasts (sys.tasks s) (sys.tasks (sys.elapse time s))

/-- Wherever the wait for the tasks ends, all that is over was heard of. -/
theorem heard_join {sys : System σ} (hsteady : sys.Steady) {s : σ} (limit : Nat)
    (h : ∃ heard, Heard (sys.tasks s) heard j) :
    (∃ heard, Heard (sys.tasks (sys.join limit s j).1) heard (sys.join limit s j).2) ∧
      UpToDate (sys.tasks (sys.join limit s j).1) (sys.join limit s j).2 := by
  fun_induction sys.join limit s j with
  | case1 limit s j looked _ =>
      obtain ⟨heard, h⟩ := h
      exact ⟨h.collect (sys.turn s), upToDate_collect (sys.turn s) (sys.tasks s) j⟩
  | case2 limit s j looked _ after last _ =>
      obtain ⟨heard, h⟩ := h
      obtain ⟨heard, h⟩ := h.collect (sys.turn s)
      exact ⟨(h.lasts (hsteady.catchUp s)).collect (sys.turn after),
        upToDate_collect (sys.turn after) (sys.tasks after) looked⟩
  | case3 limit s j looked _ after last _ ih =>
      obtain ⟨heard, h⟩ := h
      obtain ⟨heard, h⟩ := h.collect (sys.turn s)
      obtain ⟨heard, h⟩ := (h.lasts (hsteady.catchUp s)).collect (sys.turn after)
      exact ih ⟨heard, h.lasts (hsteady.elapse _ after)⟩

end System

end Shutdown

end Courier

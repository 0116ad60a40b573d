import Courier.Proofs.Shutdown.Joining

/-! # Shutdown by the clock

All that shutdown can meet is written down as a timetable: when the broker is idle,
how and when each task ends, and in which order endings are heard of. The fate of a
task may depend on when the signal comes. Whatever the timetable says, the result of a
shutdown can be read off it.
-/

namespace Courier

namespace Shutdown

/-- How a task ends, and when. -/
inductive Fate where
  | returns (time : Nat)
  | fails (time : Nat)
  | never

namespace Fate

def time? : Fate → Option Nat
  | .returns time | .fails time => some time
  | .never => none

/-- What has become of the task when everything before this time has happened. -/
def before (horizon : Nat) : Fate → TaskState
  | .returns time => if time < horizon then .returned else .running
  | .fails time => if time < horizon then .failed else .running
  | .never => .running

/-- What has happened before a time has happened before every later one. -/
theorem ending?_before_mono {fate : Fate} {horizon later : Nat} (hle : horizon ≤ later)
    {ending : Ending} (hending : (fate.before horizon).ending? = some ending) :
    (fate.before later).ending? = some ending := by
  cases fate with
  | never => cases hending
  | returns time | fails time =>
      rw [before] at hending
      split at hending
      next hlt => rw [before, if_pos (Nat.lt_of_lt_of_le hlt hle), hending]
      next => cases hending

/-- What has become of the task by the deadline, that time included. -/
def upTo (deadline : Nat) (fate : Fate) : TaskState :=
  fate.before (deadline + 1)

variable {fate : Fate} {horizon deadline : Nat}

/-- Whoever waited until the deadline, or until the task was over, has seen what
becomes of the task, unless it ends at the deadline itself. -/
theorem before_eq_upTo (hlate : horizon ≤ deadline + 1) (htimely : fate.time? ≠ some deadline)
    (hseen : (fate.before horizon).isOver = true ∨ deadline ≤ horizon) :
    fate.before horizon = fate.upTo deadline := by
  have htime {time : Nat} (hne : some time ≠ some deadline)
      (hseen : time < horizon ∨ deadline ≤ horizon) : time < horizon ↔ time < deadline + 1 := by
    have hne : time ≠ deadline := fun heq => hne (congrArg some heq)
    omega
  cases fate with
  | never => rfl
  | returns time | fails time =>
      have hseen : time < horizon ∨ deadline ≤ horizon := by
        simpa [before, TaskState.isOver] using hseen
      simp only [upTo, before, htime htimely hseen]

end Fate

/-- The clock, and what shutdown has done. -/
structure State where
  clock : Nat
  /-- What is due at this very time has happened. -/
  caughtUp : Bool
  /-- When the signal was sent. -/
  signals : List Nat
  /-- The tasks that were aborted, by their places. -/
  aborted : List Nat

namespace State

/-- Everything before this time has happened. -/
def horizon (s : State) : Nat :=
  s.clock + s.caughtUp.toNat

/-- Nothing was done so far. -/
def start (clock : Nat) (caughtUp : Bool) : State := ⟨clock, caughtUp, [], []⟩

end State

structure Timetable where
  /-- The broker is idle if it is looked at then. -/
  idle : Nat → Bool
  /-- How each task ends, if the signal is sent at this time or not at all. -/
  fates : List (Option Nat → Fate)
  /-- Which of several tasks that are over is heard of next. -/
  turn : State → List Nat → Nat
  /-- The time until something may happen next. -/
  pause : State → Option Nat

namespace Timetable

variable (tt : Timetable)

/-- What has become of the task at this place. -/
def task (s : State) (k : Nat) (fate : Option Nat → Fate) : TaskState :=
  if k ∈ s.aborted then .failed else (fate s.signals.head?).before s.horizon

def tasks (s : State) : List TaskState :=
  tt.fates.mapIdx (task s)

/-- The tasks that still run, by their places. -/
def running (s : State) : List Nat :=
  (List.range tt.fates.length).filter fun k => (tt.tasks s)[k]? = some .running

/-- The timetable as shutdown meets it. -/
def system : System State where
  isIdle s := tt.idle s.clock
  catchUp s := { s with caughtUp := true }
  elapse time s := if time = 0 then s else { s with clock := s.clock + time, caughtUp := false }
  signal s := { s with signals := s.signals ++ [s.clock] }
  tasks := tt.tasks
  turn := tt.turn
  pause := tt.pause
  abort s := { s with aborted := s.aborted ++ tt.running s }

variable {tt : Timetable} {s : State}

theorem getElem?_tasks (k : Nat) : (tt.tasks s)[k]? = tt.fates[k]?.map (task s k) :=
  List.getElem?_mapIdx

theorem tasks_of_fresh (hfresh : s.aborted = []) :
    tt.tasks s = tt.fates.map fun fate => (fate s.signals.head?).before s.horizon := by
  have htask (k : Nat) : task s k = fun fate => (fate s.signals.head?).before s.horizon := by
    funext fate
    rw [task, hfresh, if_neg List.not_mem_nil]
  apply List.ext_getElem?
  intro k
  rw [getElem?_tasks, List.getElem?_map, htask]

theorem mem_running_iff {k : Nat} : k ∈ tt.running s ↔ (tt.tasks s)[k]? = some .running := by
  rw [running, List.mem_filter, List.mem_range, decide_eq_true_eq]
  constructor
  · exact And.right
  · intro hruns
    refine ⟨?_, hruns⟩
    rw [getElem?_tasks, Option.map_eq_some_iff] at hruns
    obtain ⟨fate, hfate, -⟩ := hruns
    exact (List.getElem?_eq_some_iff.mp hfate).1

theorem aborted_abort (s : State) : (tt.system.abort s).aborted = s.aborted ++ tt.running s := rfl

/-- Once those that run are aborted, no task runs. -/
theorem isOver_of_mem_tasks_abort {state : TaskState}
    (hmem : state ∈ tt.tasks (tt.system.abort s)) : state.isOver = true := by
  obtain ⟨k, hstate⟩ := List.mem_iff_getElem?.mp hmem
  rw [getElem?_tasks, Option.map_eq_some_iff] at hstate
  obtain ⟨fate, hfate, rfl⟩ := hstate
  rw [task, aborted_abort]
  split
  next => rfl
  next hspared =>
    obtain ⟨hold, hruns⟩ := not_or.mp (mt List.mem_append.mpr hspared)
    rw [mem_running_iff, getElem?_tasks, hfate, Option.map_some, task, if_neg hold] at hruns
    rw [TaskState.isOver, decide_eq_true_eq]
    exact fun hrunning => hruns (congrArg some hrunning)

end Timetable

/-! ## Looking for idleness -/

/-- When a wait of this length looks: at once, and again as long as it lasts. -/
def polls (began limit : Nat) : List Nat :=
  (List.range (limit / pollInterval + 1)).map fun k => began + k * pollInterval

variable {began limit : Nat}

theorem mem_polls_iff {time : Nat} : time ∈ polls began limit ↔
    ∃ k, k * pollInterval ≤ limit ∧ time = began + k * pollInterval := by
  simp only [polls, List.mem_map, List.mem_range, Nat.lt_succ_iff]
  constructor
  · rintro ⟨k, hk, rfl⟩
    exact ⟨k, (Nat.le_div_iff_mul_le (by decide)).mp hk, rfl⟩
  · rintro ⟨k, hk, rfl⟩
    exact ⟨k, (Nat.le_div_iff_mul_le (by decide)).mpr hk, rfl⟩

theorem polls_eq (began limit : Nat) : polls began limit =
    began :: if pollInterval ≤ limit then polls (began + pollInterval) (limit - pollInterval)
      else [] := by
  rw [polls, List.range_succ_eq_map, List.map_cons, List.map_map, Nat.zero_mul, Nat.add_zero]
  split
  next hlong =>
    rw [polls, Nat.div_eq_sub_div (by decide) hlong]
    congr 1
    apply List.map_congr_left
    intro k hk
    rw [Function.comp_apply, Nat.succ_mul]
    omega
  next hshort =>
    rw [Nat.div_eq_of_lt (Nat.lt_of_not_le hshort)]
    rfl

namespace Timetable

variable (tt : Timetable)

/-- When the broker is first found idle, if the wait does not end before. -/
def firstIdle? (began limit : Nat) : Option Nat :=
  (polls began limit).find? tt.idle

/-- When the broker is first found idle, or else when the time to drain is over. -/
def signalTime (began limit : Nat) : Nat :=
  (tt.firstIdle? began limit).getD (began + limit)

variable {tt : Timetable} {s : State}

theorem firstIdle?_of_idle (hidle : tt.idle began = true) :
    tt.firstIdle? began limit = some began := by
  rw [firstIdle?, polls_eq, List.find?_cons_of_pos hidle]

theorem firstIdle?_of_le (hbusy : ¬ tt.idle began = true) (hlong : pollInterval ≤ limit) :
    tt.firstIdle? began limit = tt.firstIdle? (began + pollInterval) (limit - pollInterval) := by
  rw [firstIdle?, polls_eq, if_pos hlong, List.find?_cons_of_neg hbusy, firstIdle?]

theorem firstIdle?_of_lt (hbusy : ¬ tt.idle began = true) (hshort : ¬ pollInterval ≤ limit) :
    tt.firstIdle? began limit = none := by
  rw [firstIdle?, polls_eq, if_neg hshort, List.find?_cons_of_neg hbusy, List.find?_nil]

theorem elapse_eq (time : Nat) (s : State) :
    ∃ caughtUp, tt.system.elapse time s = { s with clock := s.clock + time, caughtUp } := by
  by_cases hzero : time = 0
  · refine ⟨s.caughtUp, ?_⟩
    simp [system, hzero]
  · refine ⟨false, ?_⟩
    simp [system, hzero]

/-- The wait ends at the first look that finds the broker idle, or with its time. -/
theorem waitIdle_eq (limit : Nat) (s : State) : ∃ caughtUp, tt.system.waitIdle limit s =
    ({ s with clock := tt.signalTime s.clock limit, caughtUp },
      (tt.firstIdle? s.clock limit).isSome) := by
  unfold signalTime
  fun_induction tt.system.waitIdle limit s with
  | case1 limit s hidle =>
      refine ⟨s.caughtUp, ?_⟩
      rw [firstIdle?_of_idle hidle]
      rfl
  | case2 limit s hbusy hlong ih =>
      obtain ⟨caughtUp, ih⟩ := ih
      obtain ⟨between, helapse⟩ := tt.elapse_eq pollInterval s
      refine ⟨caughtUp, ?_⟩
      rw [ih, helapse, firstIdle?_of_le hbusy hlong]
      dsimp only
      rw [Nat.add_assoc, Nat.add_sub_cancel' hlong]
  | case3 limit s hbusy hshort =>
      obtain ⟨caughtUp, helapse⟩ := tt.elapse_eq limit s
      refine ⟨caughtUp, ?_⟩
      rw [helapse, firstIdle?_of_lt hbusy hshort]
      rfl

/-! ## Waiting for the tasks -/

theorem length_tasks (s : State) : (tt.tasks s).length = tt.fates.length :=
  List.length_mapIdx

/-- Later on the tasks that were over still are. -/
theorem lasts_tasks {s' : State} (hsignals : s'.signals = s.signals)
    (haborted : s'.aborted = s.aborted) (hlater : s.horizon ≤ s'.horizon) :
    Lasts (tt.tasks s) (tt.tasks s') where
  length_eq := by rw [length_tasks, length_tasks]
  ended k ending hending := by
    rw [endingAt?, getElem?_tasks, Option.bind_map] at hending ⊢
    obtain ⟨fate, hfate, hending⟩ := Option.bind_eq_some_iff.mp hending
    rw [Function.comp_apply, task] at hending
    rw [hfate, Option.bind_some, Function.comp_apply, task, hsignals, haborted]
    split
    next hended => rwa [if_pos hended] at hending
    next hspared =>
      rw [if_neg hspared] at hending
      exact Fate.ending?_before_mono hlater hending

theorem steady (tt : Timetable) : tt.system.Steady where
  catchUp s := lasts_tasks rfl rfl (Nat.add_le_add_left s.caughtUp.toNat_le s.clock)
  elapse time s := by
    change Lasts (tt.tasks s)
      (tt.tasks (if time = 0 then s else { s with clock := s.clock + time, caughtUp := false }))
    split
    next => exact lasts_tasks rfl rfl (Nat.le_refl _)
    next hpos =>
      -- What was due at the clock before has happened when any time has gone by.
      refine lasts_tasks rfl rfl ?_
      have hdue := s.caughtUp.toNat_le
      simp only [State.horizon, Bool.toNat_false]
      omega

theorem stride_le (limit : Nat) (s : State) : tt.system.stride limit s ≤ limit := by
  rw [System.stride]
  split
  · exact Nat.min_le_left _ _
  · exact Nat.le_refl _

/-- The tasks were waited for until nothing was left to be heard, or until the deadline. -/
structure Waited (tt : Timetable) (deadline : Nat) (s : State) (j : Joining) : Prop where
  inTime : s.clock ≤ deadline
  ended : j.pending = [] ∨ s.clock = deadline
  heard : ∃ heard, Heard (tt.tasks s) heard j
  upToDate : UpToDate (tt.tasks s) j

/-- Nothing but time has gone by when the wait is over. -/
theorem join_eq (limit : Nat) (s : State) (j : Joining) : ∃ clock caughtUp j',
    tt.system.join limit s j = ({ s with clock, caughtUp }, j') ∧
      clock ≤ s.clock + limit ∧ (j'.pending = [] ∨ clock = s.clock + limit) := by
  fun_induction tt.system.join limit s j with
  | case1 limit s j looked hends =>
      refine ⟨s.clock, s.caughtUp, looked, rfl, Nat.le_add_right _ _, hends.imp_right ?_⟩
      rintro rfl
      rfl
  | case2 limit s j looked _ after last hnil =>
      exact ⟨s.clock, true, last, rfl, Nat.le_add_right _ _, .inl hnil⟩
  | case3 limit s j looked _ after last _ ih =>
      obtain ⟨between, helapse⟩ := tt.elapse_eq (tt.system.stride limit after) after
      -- However long the stride is, the deadline stays where it is.
      have hlimit : s.clock + tt.system.stride limit after +
          (limit - tt.system.stride limit after) = s.clock + limit := by
        rw [Nat.add_assoc, Nat.add_sub_cancel' (tt.stride_le limit after)]
      rw [helapse] at ih ⊢
      exact hlimit ▸ ih

theorem waited_join (limit : Nat) (s : State) : ∃ w j,
    tt.system.join limit s (.start (tt.tasks s).length) = (w, j) ∧
      w.signals = s.signals ∧ w.aborted = s.aborted ∧ Waited tt (s.clock + limit) w j := by
  obtain ⟨clock, caughtUp, j, heq, hinTime, hended⟩ :=
    tt.join_eq limit s (.start (tt.tasks s).length)
  have hjoin := System.heard_join tt.steady limit ⟨[], heard_start (tt.system.tasks s)⟩
  have htasks : tt.system.tasks s = tt.tasks s := rfl
  rw [htasks, heq] at hjoin
  exact ⟨_, j, heq, rfl, rfl, hinTime, hended, hjoin.1, hjoin.2⟩

namespace Waited

variable {deadline : Nat} {j : Joining} (h : Waited tt deadline s j)
include h

theorem joined_eq : j.joined = (tt.tasks s).countP (· = .returned) := by
  obtain ⟨heard, hheard⟩ := h.heard
  exact hheard.joined_eq h.upToDate

theorem pending_eq_nil_iff : j.pending = [] ↔ ∀ state ∈ tt.tasks s, state.isOver = true := by
  obtain ⟨heard, hheard⟩ := h.heard
  exact hheard.pending_eq_nil_iff h.upToDate

/-- All tasks are as they are by the deadline. -/
theorem tasks_eq (hfresh : s.aborted = [])
    (htimely : ∀ fate ∈ tt.fates, (fate s.signals.head?).time? ≠ some deadline) :
    tt.tasks s = tt.fates.map fun fate => (fate s.signals.head?).upTo deadline := by
  -- Either way of ending will do for each task by itself.
  have hended := h.ended
  rw [h.pending_eq_nil_iff, tasks_of_fresh hfresh, List.forall_mem_map] at hended
  rw [tasks_of_fresh hfresh]
  apply List.map_congr_left
  intro fate hmem
  apply Fate.before_eq_upTo
  · exact Nat.add_le_add h.inTime s.caughtUp.toNat_le
  · exact htimely fate hmem
  · apply hended.imp
    · intro hover
      exact hover fate hmem
    · intro hclock
      rw [State.horizon, hclock]
      exact Nat.le_add_right _ _

end Waited

end Timetable

/-- What a shutdown comes to that begins at one time and sends the signal at another. -/
structure Orderly (tt : Timetable) (limits : Limits) (began sent : Nat) (after : State × Result) :
    Prop where
  drained_iff : after.2.drained = true ↔
    ∃ k, k * pollInterval ≤ limits.drain ∧ tt.idle (began + k * pollInterval) = true
  /-- The signal is sent once, and the tasks know of it while they are waited for. -/
  signals : after.1.signals = [sent]
  joined : after.2.joined =
    tt.fates.countP fun fate => (fate (some sent)).upTo (sent + limits.join) = .returned
  aborted_iff : ∀ k, k ∈ after.1.aborted ↔
    ∃ fate, tt.fates[k]? = some fate ∧ (fate (some sent)).upTo (sent + limits.join) = .running
  ended : ∀ state ∈ tt.tasks after.1, state.isOver = true
  inTime : after.1.clock ≤ began + limits.drain + limits.join

namespace Timetable

variable {tt : Timetable} {limits : Limits}

theorem signalTime_le (began limit : Nat) : tt.signalTime began limit ≤ began + limit := by
  rw [signalTime]
  cases hfirst : tt.firstIdle? began limit with
  | none => exact Nat.le_refl _
  | some time =>
      obtain ⟨k, hk, rfl⟩ := mem_polls_iff.mp (List.mem_of_find?_eq_some hfirst)
      exact Nat.add_le_add_left hk began

theorem isSome_firstIdle?_iff : (tt.firstIdle? began limit).isSome = true ↔
    ∃ k, k * pollInterval ≤ limit ∧ tt.idle (began + k * pollInterval) = true := by
  rw [firstIdle?, List.find?_isSome]
  constructor
  · rintro ⟨time, hpoll, hidle⟩
    obtain ⟨k, hk, rfl⟩ := mem_polls_iff.mp hpoll
    exact ⟨k, hk, hidle⟩
  · rintro ⟨k, hk, hidle⟩
    exact ⟨began + k * pollInterval, mem_polls_iff.mpr ⟨k, hk, rfl⟩, hidle⟩

/-- Nothing is left to abort where all tasks are over. -/
theorem abort_of_over (hover : ∀ state ∈ tt.tasks s, state.isOver = true) :
    tt.system.abort s = s := by
  have hnone : tt.running s = [] := by
    rw [List.eq_nil_iff_forall_not_mem]
    intro k hruns
    cases hover _ (List.mem_of_getElem? (mem_running_iff.mp hruns))
  have habort : tt.system.abort s = { s with aborted := s.aborted ++ tt.running s } := rfl
  rw [habort, hnone, List.append_nil]

/-- Shutdown waits for the broker, sends the signal, joins the tasks and aborts those
that are left. -/
theorem execute_eq (tt : Timetable) (limits : Limits) (began : Nat) (caughtUp : Bool) :
    ∃ w j, w.signals = [tt.signalTime began limits.drain] ∧ w.aborted = [] ∧
      Waited tt (tt.signalTime began limits.drain + limits.join) w j ∧
      tt.system.execute limits (.start began caughtUp) =
        (tt.system.abort w, ⟨(tt.firstIdle? began limits.drain).isSome, j.joined⟩) := by
  -- The states between are named, so that nothing unfolds the waits themselves.
  obtain ⟨between, hidle⟩ := tt.waitIdle_eq limits.drain (.start began caughtUp)
  let signalled : State :=
    ⟨tt.signalTime began limits.drain, between, [tt.signalTime began limits.drain], []⟩
  have hsignal : tt.system.signal (tt.system.waitIdle limits.drain (.start began caughtUp)).1 =
      signalled := by
    rw [hidle]
    rfl
  have htotal : (tt.system.tasks (.start began caughtUp)).length = (tt.tasks signalled).length :=
    (length_tasks _).trans (length_tasks _).symm
  obtain ⟨w, j, hjoin, hsignals, haborted, hwaited⟩ := tt.waited_join limits.join signalled
  refine ⟨w, j, hsignals, haborted, hwaited, ?_⟩
  rw [System.execute, htotal]
  dsimp only
  rw [hsignal, hjoin, hidle]
  split
  next hnil =>
    rw [abort_of_over (hwaited.pending_eq_nil_iff.mp hnil)]
    rfl
  next => rfl

/-- Whatever the broker and the tasks do, with no task ending at the very deadline:
the signal is sent once, at the first look that finds the broker idle or after the
time to drain; the tasks that returned by the deadline are counted, those that still
run are aborted, and no more time goes by than there is. -/
theorem orderly_execute (tt : Timetable) (limits : Limits) (began : Nat) (caughtUp : Bool)
    (htimely : ∀ fate ∈ tt.fates, (fate (some (tt.signalTime began limits.drain))).time? ≠
      some (tt.signalTime began limits.drain + limits.join)) :
    Orderly tt limits began (tt.signalTime began limits.drain)
      (tt.system.execute limits (.start began caughtUp)) := by
  obtain ⟨w, j, hsignals, hfresh, hwaited, heq⟩ := execute_eq tt limits began caughtUp
  have hsent : w.signals.head? = some (tt.signalTime began limits.drain) := by
    rw [hsignals, List.head?_cons]
  have htasks := hwaited.tasks_eq hfresh (by rwa [hsent])
  rw [hsent] at htasks
  rw [heq]
  refine ⟨tt.isSome_firstIdle?_iff, hsignals, ?_, ?_, ?_, ?_⟩
  · dsimp only
    rw [hwaited.joined_eq, htasks, List.countP_map]
    rfl
  · intro k
    rw [aborted_abort, hfresh, List.nil_append, mem_running_iff, htasks, List.getElem?_map,
      Option.map_eq_some_iff]
  · intro state hmem
    exact isOver_of_mem_tasks_abort hmem
  · exact Nat.le_trans hwaited.inTime (Nat.add_le_add_right (tt.signalTime_le began limits.drain) _)

/-- The broker is found idle at the third look. One task has returned by then, one
has died, and one heeds the signal; one is late, and one is stuck. Of two tasks that
are over the later one is heard of first. -/
def mixed : Timetable where
  idle time := 35 ≤ time
  fates :=
    [fun _ => .returns 5, fun _ => .fails 10,
      fun sent => sent.elim .never fun time => .returns (time + 30),
      fun sent => sent.elim .never fun time => .returns (time + 150), fun _ => .never]
  turn _ ended := ended.length - 1
  pause _ := some 7

theorem orderly_execute_of_mixed :
    (∀ fate ∈ mixed.fates, (fate (some (mixed.signalTime 0 100))).time? ≠
      some (mixed.signalTime 0 100 + 100)) ∧
    mixed.signalTime 0 100 = 40 ∧
    Orderly mixed ⟨100, 100⟩ 0 (mixed.signalTime 0 100)
      (mixed.system.execute ⟨100, 100⟩ (.start 0 true)) ∧
    (mixed.system.execute ⟨100, 100⟩ (.start 0 true)).2.joined = 2 := by
  have htimely : ∀ fate ∈ mixed.fates, (fate (some (mixed.signalTime 0 100))).time? ≠
      some (mixed.signalTime 0 100 + 100) := by decide
  have horderly := orderly_execute mixed ⟨100, 100⟩ 0 true htimely
  exact ⟨htimely, by decide, horderly, horderly.joined.trans (by decide)⟩

end Timetable

end Shutdown

end Courier

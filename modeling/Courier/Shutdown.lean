/-! # Graceful shutdown

First the queues are given time to drain: the system is looked at once and
then at regular intervals until it is idle or the time is over. Then all tasks
get the signal to stop, once. They in turn are given time to end. Their endings
are taken note of one by one, in whichever order they are heard of, and those
that returned are counted. The count stands as it is when the time is over, and
the tasks that still run are aborted. Times are in milliseconds.

Whoever waits looks first: what falls due at the very moment at which a wait
ends happens only after the look.
-/

namespace Courier

inductive TaskState where
  | running
  | returned
  /-- The task died. -/
  | failed
  deriving DecidableEq, Inhabited, Repr

/-- What is heard of a task in the end. -/
inductive Ending where
  | returned
  | failed
  deriving DecidableEq, Repr

namespace TaskState

def isOver (t : TaskState) : Bool :=
  t ≠ .running

def ending? : TaskState → Option Ending
  | .running => none
  | .returned => some .returned
  | .failed => some .failed

end TaskState

namespace Shutdown

/-- What shutdown needs to know of a running system with states `σ`. -/
structure System (σ : Type) where
  isIdle : σ → Bool
  /-- Lets happen everything that is due. -/
  catchUp : σ → σ
  /-- Lets time go by, and everything happen that is due before its end. -/
  elapse : Nat → σ → σ
  /-- Sends the signal; nobody has heeded it yet. -/
  signal : σ → σ
  tasks : σ → List TaskState
  /-- Which of several tasks that are over is heard of next: its place among them.
  A place that none of them has means the first. -/
  turn : σ → List Nat → Nat
  /-- The time until something can happen next, unless nothing will. -/
  pause : σ → Option Nat
  /-- Ends the tasks that still run. -/
  abort : σ → σ

structure Limits where
  drain : Nat
  join : Nat
  deriving DecidableEq, Repr

namespace Limits

def default : Limits := ⟨30000, 10000⟩

end Limits

structure Result where
  /-- The system was found idle before the signal. -/
  drained : Bool
  /-- How many tasks returned in time. -/
  joined : Nat
  deriving DecidableEq, Repr

def pollInterval : Nat := 20

/-- What has been heard of tasks that are waited for. -/
structure Joining where
  /-- The tasks that nothing was heard of, by their places. -/
  pending : List Nat
  /-- How many of the others returned. -/
  joined : Nat
  deriving DecidableEq, Repr

namespace Joining

/-- So many tasks, and nothing was heard of them. -/
def start (total : Nat) : Joining := ⟨List.range total, 0⟩

/-- The pending tasks that are over, with their endings. -/
def ended (states : Array TaskState) (j : Joining) : List (Nat × Ending) :=
  j.pending.filterMap fun k => (states[k]?.bind TaskState.ending?).map (k, ·)

/-- The ending that is heard of next, unless all pending tasks still run. -/
def next? (turn : List Nat → Nat) (states : Array TaskState) (j : Joining) :
    Option (Nat × Ending) :=
  let ended := j.ended states
  ended[turn (ended.map Prod.fst)]?.or ended.head?

/-- Takes note of how a task has ended. One that died is not counted. -/
def note (j : Joining) (k : Nat) (ending : Ending) : Joining where
  pending := j.pending.erase k
  joined :=
    match ending with
    | .returned => j.joined + 1
    | .failed => j.joined

variable {turn : List Nat → Nat} {states : Array TaskState} {j : Joining} {k : Nat}
  {ending : Ending}

theorem mem_ended_iff : (k, ending) ∈ j.ended states ↔
    k ∈ j.pending ∧ states[k]?.bind TaskState.ending? = some ending := by
  rw [ended, List.mem_filterMap]
  constructor
  · rintro ⟨k', hpending, hending⟩
    obtain ⟨ending', hending, heq⟩ := Option.map_eq_some_iff.mp hending
    cases heq
    exact ⟨hpending, hending⟩
  · rintro ⟨hpending, hending⟩
    exact ⟨k, hpending, by rw [hending, Option.map_some]⟩

theorem mem_ended_of_next? (hnext : j.next? turn states = some (k, ending)) :
    (k, ending) ∈ j.ended states := by
  rw [next?, Option.or_eq_some_iff] at hnext
  obtain hturn | ⟨-, hfirst⟩ := hnext
  · exact List.mem_of_getElem? hturn
  · exact List.mem_of_head? hfirst

/-- Takes note of all pending tasks that are over, one after another. -/
def collect (turn : List Nat → Nat) (states : Array TaskState) (j : Joining) : Joining :=
  match _hnext : j.next? turn states with
  | none => j
  | some (k, ending) => collect turn states (j.note k ending)
termination_by j.pending.length
decreasing_by
  have hpending := (mem_ended_iff.mp (mem_ended_of_next? _hnext)).1
  have hnonempty := List.length_pos_of_mem hpending
  simp only [note, List.length_erase_of_mem hpending]
  omega

end Joining

namespace System

variable {σ : Type} (sys : System σ)

/-- Waits until the system is found idle, for no longer than `limit`. -/
def waitIdle (limit : Nat) (s : σ) : σ × Bool :=
  if sys.isIdle s then (s, true)
  else if pollInterval ≤ limit then
    waitIdle (limit - pollInterval) (sys.elapse pollInterval s)
  else (sys.elapse limit s, false)
termination_by limit
decreasing_by unfold pollInterval at *; omega

/-- The time to let go by before the tasks are looked at again. -/
def stride (limit : Nat) (s : σ) : Nat :=
  match sys.pause s with
  | some n => min limit (max n 1)
  | none => limit

/-- Takes note of the tasks that are over by now. -/
def collect (s : σ) (j : Joining) : Joining :=
  j.collect (sys.turn s) (sys.tasks s).toArray

/-- Waits until something was heard of all tasks, for no longer than `limit`. -/
def join (limit : Nat) (s : σ) (j : Joining) : σ × Joining :=
  let j := sys.collect s j
  if j.pending = [] ∨ limit = 0 then (s, j)
  else
    let s := sys.catchUp s
    let j := sys.collect s j
    if j.pending = [] then (s, j)
    else join (limit - sys.stride limit s) (sys.elapse (sys.stride limit s) s) j
termination_by limit
decreasing_by
  unfold stride
  split <;> omega

def execute (limits : Limits) (s : σ) : σ × Result :=
  let total := (sys.tasks s).length
  let (s, drained) := sys.waitIdle limits.drain s
  let (s, j) := sys.join limits.join (sys.signal s) (.start total)
  (if j.pending = [] then s else sys.abort s, ⟨drained, j.joined⟩)

end System

end Shutdown

end Courier

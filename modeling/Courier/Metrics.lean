import Courier.Json.Value
import Courier.Table

/-! # Metrics

Everything that is counted goes to one sink. Totals keep one number for each
counter; labelled counts keep one for each counter and label, that is for each
topic or channel; a third sink keeps nothing. Labelled counts have a text form
in which families of samples follow each other by name.
-/

namespace Courier

inductive Counter where
  | published
  | dropped
  | delivered
  | failedAttempts
  | retried
  | deadLettered
  | rateLimited
  | duplicates
  deriving DecidableEq, Repr

namespace Counter

def all : List Counter :=
  [.published, .dropped, .delivered, .failedAttempts, .retried, .deadLettered, .rateLimited,
    .duplicates]

end Counter

/-- Something that was counted: an event or request, with the topic or channel
that it concerns. -/
structure Measurement where
  counter : Counter
  label : String
  deriving DecidableEq

/-- Numbers by key, zero where nothing was counted. -/
structure Counts (κ : Type) where
  table : Table κ Nat

namespace Counts

variable {κ : Type} [DecidableEq κ]

def empty : Counts κ := ⟨Table.empty⟩

instance : Inhabited (Counts κ) := ⟨empty⟩

def get (c : Counts κ) (k : κ) : Nat :=
  c.table.getD k 0

def increment (c : Counts κ) (k : κ) : Counts κ :=
  ⟨c.table.insert k (c.get k + 1)⟩

theorem get_increment (c : Counts κ) (k k' : κ) :
    (c.increment k).get k' = if k' = k then c.get k + 1 else c.get k' := by
  unfold increment
  simp only [get, Table.getD, Table.get?_insert]
  split <;> rfl

end Counts

inductive Metrics where
  | totals (counts : Counts Counter)
  | labelled (counts : Counts (Counter × String))
  | none

namespace Metrics

instance : Inhabited Metrics := ⟨.none⟩

def emptyTotals : Metrics := .totals Counts.empty

def emptyLabelled : Metrics := .labelled Counts.empty

def record (m : Metrics) (x : Measurement) : Metrics :=
  match m with
  | .totals counts => .totals (counts.increment x.counter)
  | .labelled counts => .labelled (counts.increment (x.counter, x.label))
  | .none => .none

def recordAll (m : Metrics) (xs : List Measurement) : Metrics :=
  xs.foldl record m

end Metrics

/-- How a counter appears in the text form. -/
structure Family where
  counter : Counter
  name : String
  help : String
  /-- The name of the label, if samples are labelled. -/
  label : Option String

namespace Family

/-- Every family, by name. -/
def all : List Family := [
  ⟨.failedAttempts, "fanout_delivery_failures_total", "Failed handler invocations",
    some "topic"⟩,
  ⟨.duplicates, "fanout_duplicates_total", "Notification requests rejected as duplicates",
    none⟩,
  ⟨.deadLettered, "fanout_events_dead_lettered_total", "Events that exhausted their retries",
    some "topic"⟩,
  ⟨.delivered, "fanout_events_delivered_total", "Events delivered by a channel handler",
    some "topic"⟩,
  ⟨.dropped, "fanout_events_dropped_total",
    "Events dropped because a consumer queue was full", some "topic"⟩,
  ⟨.published, "fanout_events_published_total", "Events accepted into a consumer queue",
    some "topic"⟩,
  ⟨.retried, "fanout_events_retried_total",
    "Events re-enqueued for another delivery attempt", some "topic"⟩,
  ⟨.rateLimited, "fanout_ratelimit_denied_total",
    "Requests refused by the per-user channel rate limiter", some "channel"⟩]

end Family

namespace Counts

/-- The labels of a counter with their numbers, by label. -/
def samples (counts : Counts (Counter × String)) (counter : Counter) : List (String × Nat) :=
  let found := counts.table.entries.filterMap fun (key, n) =>
    if key.1 = counter then some (key.2, n) else none
  found.mergeSort fun a b => a.1 ≤ b.1

/-- What was counted under all labels together. -/
def total (counts : Counts (Counter × String)) (counter : Counter) : Nat :=
  (counts.samples counter).foldr (fun (_, n) sum => n + sum) 0

/-- Backslashes, quotes and line ends are escaped in labels. -/
def escapeLabel (c : Char) : List Char :=
  if c = '\\' then ['\\', '\\']
  else if c = '"' then ['\\', '"']
  else if c = '\n' then ['\\', 'n']
  else [c]

def sampleText (f : Family) (label : String) (n : Nat) : String :=
  match f.label with
  | none => f.name ++ " " ++ toString n ++ "\n"
  | some name =>
      let escaped := String.ofList (label.toList.flatMap escapeLabel)
      f.name ++ "\x7b" ++ name ++ "=\"" ++ escaped ++ "\"\x7d " ++ toString n ++ "\n"

/-- A family without label always has its one sample; the others are left out
while they have none. -/
def familyText (counts : Counts (Counter × String)) (f : Family) : String :=
  let samples := match f.label with
    | none => [("", counts.total f.counter)]
    | some _ => counts.samples f.counter
  if samples = [] then ""
  else
    "# HELP " ++ f.name ++ " " ++ f.help ++ "\n# TYPE " ++ f.name ++ " counter\n" ++
      String.join (samples.map fun (label, n) => sampleText f label n)

def text (counts : Counts (Counter × String)) : String :=
  String.join (Family.all.map counts.familyText)

end Counts

end Courier

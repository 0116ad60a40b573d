import Courier.Metrics

/-! # What a sink shows for a counter

Whether numbers are kept by counter or by counter and label, each measurement
raises the total of its counter by one and no other total. A sink that keeps
nothing has no totals.
-/

namespace Courier

namespace Counts

variable {counts : Counts (Counter × String)} {k : Counter × String} {counter : Counter} {n : Nat}

/-- What entries have under a counter, whatever the label. -/
def sumOf (counter : Counter) : List ((Counter × String) × Nat) → Nat
  | [] => 0
  | e :: rest => (if e.1.1 = counter then e.2 else 0) + sumOf counter rest

/-- The order of the samples does not matter to their sum. -/
theorem total_eq_sumOf (counts : Counts (Counter × String)) (counter : Counter) :
    counts.total counter = sumOf counter counts.table.entries := by
  have hcomm : ∀ x y : String × Nat, ∀ z : Nat, y.2 + (x.2 + z) = x.2 + (y.2 + z) := by
    intro x y z
    omega
  rw [total, samples, (List.mergeSort_perm _ _).foldr_eq' fun x _ y _ z => hcomm x y z,
    List.foldr_filterMap]
  induction counts.table.entries with
  | nil => rfl
  | cons e rest ih =>
      rw [List.foldr_cons, ih, sumOf]
      by_cases hcounter : e.1.1 = counter <;> simp [hcounter]

theorem sumOf_replaceIn {entries : List ((Counter × String) × Nat)}
    (hentry : (entries.find? fun e => e.1 = k).map Prod.snd = some n) (counter : Counter) :
    sumOf counter (Table.replaceIn k (n + 1) entries) =
      sumOf counter entries + if k.1 = counter then 1 else 0 := by
  induction entries with
  | nil => cases hentry
  | cons e rest ih =>
      by_cases hk : e.1 = k
      · obtain rfl : e.2 = n := by simpa [hk] using hentry
        rw [Table.replaceIn, if_pos hk, sumOf, sumOf, hk]
        split <;> omega
      · rw [Table.replaceIn, if_neg hk, sumOf, sumOf, ih (by simpa [hk] using hentry)]
        omega

theorem total_increment (counts : Counts (Counter × String)) (k : Counter × String)
    (counter : Counter) :
    (counts.increment k).total counter =
      counts.total counter + if k.1 = counter then 1 else 0 := by
  rw [total_eq_sumOf, total_eq_sumOf, increment, Table.insert]
  split
  next hcontains =>
    obtain ⟨n, hn⟩ := Option.isSome_iff_exists.mp hcontains
    have hget : counts.get k = n := by rw [get, Table.getD, hn, Option.getD_some]
    rw [hget]
    exact sumOf_replaceIn hn counter
  next hnew =>
    have hnone : counts.table.get? k = none := Option.not_isSome_iff_eq_none.mp hnew
    have hget : counts.get k = 0 := by rw [get, Table.getD, hnone, Option.getD_none]
    rw [hget, sumOf, Nat.add_comm]

end Counts

namespace Metrics

/-- The number that a sink shows for a counter, under all labels together. -/
def total (m : Metrics) (counter : Counter) : Option Nat :=
  match m with
  | .totals counts => some (counts.get counter)
  | .labelled counts => some (counts.total counter)
  | .none => Option.none

/-- The total of one counter has grown, and all others are what they were. -/
def Grows (before after : Metrics) (counter : Counter) (n : Nat) : Prop :=
  ∀ x, after.total x = (before.total x).map (· + if x = counter then n else 0)

theorem total_emptyTotals (counter : Counter) : emptyTotals.total counter = some 0 :=
  rfl

theorem total_emptyLabelled (counter : Counter) : emptyLabelled.total counter = some 0 := by
  rw [emptyLabelled, total, Counts.total_eq_sumOf]
  rfl

theorem total_record (m : Metrics) (x : Measurement) (counter : Counter) :
    (m.record x).total counter =
      (m.total counter).map (· + if x.counter = counter then 1 else 0) := by
  cases m with
  | totals counts =>
      rw [record, total, Counts.get_increment, total, Option.map_some]
      by_cases hx : counter = x.counter
      · rw [if_pos hx, if_pos hx.symm, hx]
      · rw [if_neg hx, if_neg (Ne.symm hx), Nat.add_zero]
  | labelled counts =>
      rw [record, total, Counts.total_increment]
      rfl
  | none => rfl

theorem total_recordAll (m : Metrics) (xs : List Measurement) (counter : Counter) :
    (m.recordAll xs).total counter =
      (m.total counter).map (· + xs.countP fun x => x.counter = counter) := by
  induction xs generalizing m with
  | nil => cases hm : m.total counter <;> simp [recordAll, hm]
  | cons x rest ih =>
      have hrest : m.recordAll (x :: rest) = (m.record x).recordAll rest := rfl
      rw [hrest, ih, total_record, List.countP_cons]
      cases m.total counter with
      | none => rfl
      | some n => simp [Nat.add_assoc, Nat.add_comm]

/-- Measurements of one counter raise its total by their number. -/
theorem grows_recordAll {xs : List Measurement} {counter : Counter} (m : Metrics)
    (hcounter : ∀ x ∈ xs, x.counter = counter) :
    m.Grows (m.recordAll xs) counter xs.length := by
  intro y
  rw [total_recordAll]
  by_cases hy : y = counter
  · have hall : xs.countP (fun x => x.counter = y) = xs.length :=
      List.countP_eq_length.mpr fun x hx => decide_eq_true ((hcounter x hx).trans hy.symm)
    rw [if_pos hy, hall]
  · have hnone : xs.countP (fun x => x.counter = y) = 0 :=
      List.countP_eq_zero.mpr fun x hx hxy =>
        hy ((of_decide_eq_true hxy).symm.trans (hcounter x hx))
    rw [if_neg hy, hnone]

end Metrics

end Courier

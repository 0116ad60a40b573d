import Courier.Proofs.Metrics.Totals

/-! # What a labelled sink shows for a label

A sink that keeps labels apart shows how often just this counter was measured
with just this label.
-/

namespace Courier.Metrics

/-- The number that a labelled sink shows for a counter and a label. -/
def sample (m : Metrics) (counter : Counter) (label : String) : Option Nat :=
  match m with
  | .labelled counts => some (counts.get (counter, label))
  | _ => Option.none

theorem sample_emptyLabelled (counter : Counter) (label : String) :
    emptyLabelled.sample counter label = some 0 :=
  rfl

theorem sample_record (m : Metrics) (x : Measurement) (counter : Counter) (label : String) :
    (m.record x).sample counter label =
      (m.sample counter label).map (· + if x = ⟨counter, label⟩ then 1 else 0) := by
  cases m with
  | totals | none => rfl
  | labelled counts =>
      rw [record, sample, Counts.get_increment, sample, Option.map_some]
      obtain ⟨measured, topic⟩ := x
      by_cases hx : (counter, label) = (measured, topic)
      · cases hx
        simp
      · have hother : (⟨measured, topic⟩ : Measurement) ≠ ⟨counter, label⟩ := by
          rintro ⟨⟩
          exact hx rfl
        simp [hx, hother]

theorem sample_recordAll (m : Metrics) (xs : List Measurement) (counter : Counter)
    (label : String) :
    (m.recordAll xs).sample counter label =
      (m.sample counter label).map (· + xs.count ⟨counter, label⟩) := by
  induction xs generalizing m with
  | nil => simp [recordAll]
  | cons x rest ih =>
      have hrest : m.recordAll (x :: rest) = (m.record x).recordAll rest := rfl
      rw [hrest, ih, sample_record, Option.map_map, List.count_cons]
      congr 1
      funext n
      simp [Nat.add_assoc, Nat.add_comm]

theorem recordAll_append (m : Metrics) (xs ys : List Measurement) :
    m.recordAll (xs ++ ys) = (m.recordAll xs).recordAll ys :=
  List.foldl_append

end Courier.Metrics

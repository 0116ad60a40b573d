/-! # Texts cut at a mark

Where several texts are joined by a mark, they can be told apart as far as they
do not hold the mark themselves.
-/

namespace Courier

variable {α : Type} {mark : α} {u v x y z : List α}

/-- A text without the mark lies before it. -/
theorem exists_append_of_notMem (hfree : mark ∉ u) (heq : u ++ x = y ++ mark :: z) :
    ∃ rest, y = u ++ rest ∧ x = rest ++ mark :: z := by
  obtain ⟨rest, hy, hx⟩ | ⟨rest, hu, hz⟩ := List.append_eq_append_iff.mp heq
  · exact ⟨rest, hy, hx⟩
  · cases rest with
    | nil => exact ⟨[], by rw [hu, List.append_nil, List.append_nil], hz.symm⟩
    | cons m rest =>
        obtain rfl : mark = m := (List.cons.inj hz).1
        exact absurd (hu ▸ List.mem_append_right y List.mem_cons_self) hfree

/-- The first mark tells where two texts without one end. -/
theorem eq_and_eq_of_notMem (hfree : mark ∉ u) (hfree' : mark ∉ v)
    (heq : u ++ mark :: x = v ++ mark :: y) : u = v ∧ x = y := by
  obtain ⟨rest, hv, hx⟩ := exists_append_of_notMem hfree heq
  cases rest with
  | nil => exact ⟨by rw [hv, List.append_nil], (List.cons.inj hx).2⟩
  | cons m rest =>
      obtain rfl : mark = m := (List.cons.inj hx).1
      exact absurd (hv ▸ List.mem_append_right u List.mem_cons_self) hfree'

/-- The last mark tells where two texts without one begin. -/
theorem eq_and_eq_of_notMem_right (hfree : mark ∉ x) (hfree' : mark ∉ y)
    (heq : u ++ mark :: x = v ++ mark :: y) : u = v ∧ x = y := by
  have hreversed : x.reverse ++ mark :: u.reverse = y.reverse ++ mark :: v.reverse := by
    simpa using congrArg List.reverse heq
  have hboth := eq_and_eq_of_notMem (by simpa using hfree) (by simpa using hfree') hreversed
  simpa [and_comm] using hboth

end Courier

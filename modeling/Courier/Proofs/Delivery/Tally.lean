/-! # Counting by reading and writing back

A count is read, and one more is written back later. Two that read the same
count write the same one, and one of them is not counted. A tally has the
count, how often it was written, and what those have read that have not written
yet. The count keeps up with the writes exactly while no two of these overlap.
-/

namespace Courier

structure Tally where
  counted : Nat
  /-- How often the count was written. -/
  written : Nat
  /-- What was read and is not written back yet. -/
  seen : List Nat

namespace Tally

/-- One step of reading and writing back. -/
inductive Shift (x y : Tally) : Prop where
  /-- Some read the count, or none. -/
  | read (new : List Nat) (hnew : ∀ n ∈ new, n = x.counted) (hcounted : y.counted = x.counted)
      (hwritten : y.written = x.written) (hseen : y.seen.Perm (new ++ x.seen))
  | write {n : Nat} (hcounted : y.counted = n + 1) (hwritten : y.written = x.written + 1)
      (hseen : x.seen.Perm (n :: y.seen))

structure Bounded (x : Tally) : Prop where
  counted : x.counted ≤ x.written
  positive : 0 < x.written → 0 < x.counted
  seen : ∀ n ∈ x.seen, n ≤ x.written

/-- Every write is counted. -/
structure Exact (x : Tally) : Prop where
  counted : x.counted = x.written
  seen : ∀ n ∈ x.seen, n = x.written

/-- A write is not counted, or one that is under way will not be. -/
inductive Late (x : Tally) : Prop where
  | behind (hcounted : x.counted < x.written) (hseen : ∀ n ∈ x.seen, n < x.written)
  | stale {n : Nat} (hmem : n ∈ x.seen) (hstale : n < x.written)
  | crowded (hmany : 1 < x.seen.length)

variable {x y : Tally}

theorem Shift.bounded (hshift : Shift x y) (h : x.Bounded) : y.Bounded := by
  obtain ⟨hcounted, hpositive, hseen⟩ := h
  cases hshift with
  | read new hnew hcounted' hwritten hperm =>
      rw [← hwritten] at hcounted hpositive hseen
      refine ⟨hcounted' ▸ hcounted, hcounted' ▸ hpositive, fun n hmem => ?_⟩
      obtain hread | hold := List.mem_append.mp (hperm.mem_iff.mp hmem)
      · exact hnew n hread ▸ hcounted
      · exact hseen n hold
  | @write n hcounted' hwritten hperm =>
      have hread := hseen n (hperm.mem_iff.mpr List.mem_cons_self)
      refine ⟨by omega, fun _ => by omega, fun m hmem => ?_⟩
      have hopen := hseen m (hperm.mem_iff.mpr (List.mem_cons_of_mem n hmem))
      omega

/-- One at a time, nothing is missed. -/
theorem Shift.exact (hshift : Shift x y) (halone : x.seen.length ≤ 1) (h : x.Exact) :
    y.Exact := by
  obtain ⟨hcounted, hseen⟩ := h
  cases hshift with
  | read new hnew hcounted' hwritten hperm =>
      rw [← hwritten] at hcounted hseen
      refine ⟨hcounted'.trans hcounted, fun n hmem => ?_⟩
      obtain hread | hold := List.mem_append.mp (hperm.mem_iff.mp hmem)
      · exact (hnew n hread).trans hcounted
      · exact hseen n hold
  | @write n hcounted' hwritten hperm =>
      have hread := hseen n (hperm.mem_iff.mpr List.mem_cons_self)
      have hnone : y.seen = [] := by
        have hlength := hperm.length_eq
        rw [List.length_cons] at hlength
        exact List.eq_nil_of_length_eq_zero (by omega)
      refine ⟨by omega, fun m hmem => ?_⟩
      rw [hnone] at hmem
      cases hmem

/-- What was read before a write is stale after it, so what is missed once stays
missed. -/
theorem Shift.late (hshift : Shift x y) (hbounded : x.Bounded) (h : x.Late) : y.Late := by
  cases hshift with
  | read new hnew hcounted' hwritten hperm =>
      cases h with
      | behind hcounted hseen =>
          rw [← hwritten] at hcounted hseen
          refine .behind (hcounted' ▸ hcounted) fun n hmem => ?_
          obtain hread | hold := List.mem_append.mp (hperm.mem_iff.mp hmem)
          · exact hnew n hread ▸ hcounted
          · exact hseen n hold
      | stale hmem hstale =>
          exact .stale (hperm.mem_iff.mpr (List.mem_append_right new hmem)) (hwritten ▸ hstale)
      | crowded hmany =>
          have hlength := hperm.length_eq
          rw [List.length_append] at hlength
          exact .crowded (by omega)
  | @write n hcounted' hwritten hperm =>
      have hopen : ∀ m ∈ y.seen, m < y.written := by
        intro m hmem
        have hread := hbounded.seen m (hperm.mem_iff.mpr (List.mem_cons_of_mem n hmem))
        omega
      cases h with
      | behind _ hseen =>
          have hread := hseen n (hperm.mem_iff.mpr List.mem_cons_self)
          exact .behind (by omega) hopen
      | @stale m hmem hstale =>
          obtain rfl | hold := List.mem_cons.mp (hperm.mem_iff.mp hmem)
          · exact .behind (by omega) hopen
          · exact .stale hold (hopen m hold)
      | crowded hmany =>
          have hlength := hperm.length_eq
          rw [List.length_cons] at hlength
          obtain ⟨m, hmem⟩ := List.exists_mem_of_length_pos (l := y.seen) (by omega)
          exact .stale hmem (hopen m hmem)

/-- Where nothing is under way, the count has missed something. -/
theorem Late.counted_lt (h : x.Late) (hnone : x.seen = []) : x.counted < x.written := by
  cases h with
  | behind hcounted => exact hcounted
  | stale hmem =>
      rw [hnone] at hmem
      cases hmem
  | crowded hmany =>
      rw [hnone] at hmany
      cases hmany

end Tally

end Courier

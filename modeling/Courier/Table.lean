/-! # Finite tables

A table holds at most one value per key. New keys go in front of the older
ones and a value that is replaced keeps its place, so the order of the
entries never depends on anything but the order in which keys first came.
-/

namespace Courier

structure Table (κ α : Type) where
  entries : List (κ × α)
  nodup_keys : (entries.map Prod.fst).Nodup
  deriving DecidableEq

namespace Table

variable {κ α : Type} [DecidableEq κ]

def empty : Table κ α := ⟨[], List.nodup_nil⟩

instance : Inhabited (Table κ α) := ⟨empty⟩

instance : EmptyCollection (Table κ α) := ⟨empty⟩

def get? (t : Table κ α) (k : κ) : Option α :=
  (t.entries.find? (fun e => e.1 = k)).map Prod.snd

def contains (t : Table κ α) (k : κ) : Bool :=
  (t.get? k).isSome

def keys (t : Table κ α) : List κ :=
  t.entries.map Prod.fst

def values (t : Table κ α) : List α :=
  t.entries.map Prod.snd

def size (t : Table κ α) : Nat :=
  t.entries.length

theorem contains_eq_false_iff {t : Table κ α} {k : κ} :
    t.contains k = false ↔ k ∉ t.entries.map Prod.fst := by
  simp only [contains, get?, Option.isSome_map, List.mem_map, not_exists, not_and]
  rw [Bool.eq_false_iff, ne_eq, List.find?_isSome]
  simp only [decide_eq_true_eq, not_exists, not_and]

/-- Puts `a` in the place of the value of `k`. -/
def replaceIn (k : κ) (a : α) : List (κ × α) → List (κ × α)
  | [] => []
  | e :: rest => if e.1 = k then (k, a) :: rest else e :: replaceIn k a rest

theorem map_fst_replaceIn (k : κ) (a : α) (entries : List (κ × α)) :
    (replaceIn k a entries).map Prod.fst = entries.map Prod.fst := by
  induction entries with
  | nil => rfl
  | cons e rest ih =>
      by_cases he : e.1 = k
      · simp [replaceIn, he]
      · simp [replaceIn, he, ih]

def insert (t : Table κ α) (k : κ) (a : α) : Table κ α :=
  if h : t.contains k then
    ⟨replaceIn k a t.entries, (map_fst_replaceIn k a t.entries).symm ▸ t.nodup_keys⟩
  else
    ⟨(k, a) :: t.entries, by
      have hnew := contains_eq_false_iff.1 (by simpa using h)
      simpa using ⟨by simpa using hnew, t.nodup_keys⟩⟩

/-- Keeps the entries that satisfy `p`. -/
def filter (t : Table κ α) (p : κ → α → Bool) : Table κ α :=
  ⟨t.entries.filter fun e => p e.1 e.2,
    t.nodup_keys.sublist (List.filter_sublist.map _)⟩

def erase (t : Table κ α) (k : κ) : Table κ α :=
  t.filter fun k' _ => k' ≠ k

/-- The entry of `k`, or `d` while there is none. -/
def getD (t : Table κ α) (k : κ) (d : α) : α :=
  (t.get? k).getD d

@[simp]
theorem get?_empty (k : κ) : (empty : Table κ α).get? k = none := rfl

theorem contains_eq_isSome (t : Table κ α) (k : κ) : t.contains k = (t.get? k).isSome := rfl

theorem mem_entries_iff {t : Table κ α} {k : κ} {a : α} :
    (k, a) ∈ t.entries ↔ t.get? k = some a := by
  obtain ⟨entries, hnodup⟩ := t
  simp only [get?]
  induction entries with
  | nil => simp
  | cons e rest ih =>
      obtain ⟨k', a'⟩ := e
      simp only [List.map_cons, List.nodup_cons] at hnodup
      by_cases hk : k' = k
      · subst hk
        have habsent : (k', a) ∉ rest := fun hmem =>
          hnodup.1 (List.mem_map.2 ⟨_, hmem, rfl⟩)
        simp [habsent, eq_comm]
      · have hne : ¬(k = k' ∧ a = a') := fun h => hk h.1.symm
        simp [hk, hne, ih hnodup.2]

theorem find?_replaceIn (k k' : κ) (a : α) (entries : List (κ × α)) :
    ((replaceIn k a entries).find? fun e => e.1 = k').map Prod.snd =
      if k' = k then ((entries.find? fun e => e.1 = k).map fun _ => a)
      else (entries.find? fun e => e.1 = k').map Prod.snd := by
  induction entries with
  | nil => simp [replaceIn]
  | cons e rest ih =>
      by_cases he : e.1 = k
      · subst he
        by_cases hk : k' = e.1
        · simp [replaceIn, hk]
        · have hk' : e.1 ≠ k' := fun h => hk h.symm
          simp [replaceIn, hk, hk']
      · by_cases hk : k' = k
        · subst hk
          simpa [replaceIn, he] using ih
        · by_cases hek : e.1 = k'
          · simp [replaceIn, hk, hek]
          · simpa [replaceIn, he, hk, hek] using ih

theorem get?_insert (t : Table κ α) (k k' : κ) (a : α) :
    (t.insert k a).get? k' = if k' = k then some a else t.get? k' := by
  unfold insert
  split
  next hmem =>
    simp only [get?, find?_replaceIn]
    split
    next =>
      rw [contains, get?, Option.isSome_map] at hmem
      obtain ⟨e, he⟩ := Option.isSome_iff_exists.1 hmem
      rw [he, Option.map_some]
    next => rfl
  next hnew =>
    by_cases h : k' = k
    · subst h
      simp [get?]
    · have h' : k ≠ k' := fun e => h e.symm
      simp [get?, h, h']

@[simp]
theorem get?_insert_self (t : Table κ α) (k : κ) (a : α) : (t.insert k a).get? k = some a := by
  simp [get?_insert]

theorem get?_filter (t : Table κ α) (p : κ → α → Bool) (k : κ) :
    (t.filter p).get? k = (t.get? k).filter (p k) := by
  apply Option.ext
  intro a
  rw [← mem_entries_iff, Option.filter_eq_some_iff, ← mem_entries_iff]
  simp [filter]

theorem mem_keys_iff {t : Table κ α} {k : κ} : k ∈ t.keys ↔ ∃ a, t.get? k = some a := by
  simp only [keys, List.mem_map, ← mem_entries_iff, Prod.exists, exists_and_right, exists_eq_right]

theorem mem_keys_filter_iff {t : Table κ α} {p : κ → α → Bool} {k : κ} :
    k ∈ (t.filter p).keys ↔ ∃ a, t.get? k = some a ∧ p k a = true := by
  simp only [mem_keys_iff, get?_filter, Option.filter_eq_some_iff]

/-- What is kept keeps its value. -/
theorem get?_filter_of_mem_keys {t : Table κ α} {p : κ → α → Bool} {k : κ}
    (hkept : k ∈ (t.filter p).keys) : (t.filter p).get? k = t.get? k := by
  obtain ⟨a, hget, hp⟩ := mem_keys_filter_iff.mp hkept
  rw [get?_filter, hget, Option.filter_some, if_pos hp]

theorem get?_erase (t : Table κ α) (k k' : κ) :
    (t.erase k).get? k' = if k' = k then none else t.get? k' := by
  rw [erase, get?_filter]
  by_cases h : k' = k
  · subst h
    cases t.get? k' <;> simp
  · cases t.get? k' <;> simp [h]

theorem length_replaceIn (k : κ) (a : α) (entries : List (κ × α)) :
    (replaceIn k a entries).length = entries.length := by
  have h := congrArg List.length (map_fst_replaceIn k a entries)
  simpa using h

theorem size_insert (t : Table κ α) (k : κ) (a : α) :
    (t.insert k a).size = if t.contains k then t.size else t.size + 1 := by
  unfold insert
  split <;> simp_all [size, length_replaceIn]

end Table

/-! Keeping some entries needs no comparison of keys. -/

namespace Table

variable {κ α : Type}

theorem size_filter_le (t : Table κ α) (p : κ → α → Bool) : (t.filter p).size ≤ t.size :=
  List.length_filter_le _ _

theorem filter_filter_self (t : Table κ α) (p : κ → α → Bool) :
    (t.filter p).filter p = t.filter p := by
  simp [filter, List.filter_filter]

end Table

end Courier

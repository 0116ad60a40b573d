import Courier.Config.Arrangement
import Courier.Proofs.Config.Lookup

/-! # Layers in any arrangement

However the tables of a layer are arranged, the same values are set at the same places,
one before the other or the other way round. Only a value that is set at an item of an
array may itself be arranged. Nobody who looks at a setting sees that, as no setting
is an array.
-/

namespace Courier.Config

namespace Value

/-- Two values that differ at most inside an array, or under the only name of a table. -/
inductive Alike : Value → Value → Prop where
  | refl (v : Value) : Alike v v
  | arrays (vs ws : List Value) : Alike (.array vs) (.array ws)
  | named (name : String) (x y : Value) : Alike (.table [(name, x)]) (.table [(name, y)])

theorem Alike.isTable {v w : Value} (h : Alike v w) (htable : v.IsTable) : w.IsTable := by
  cases h with
  | refl => exact htable
  | arrays => cases htable
  | named => trivial

/-- Below a path on which there is an item, no value is seen from above. -/
theorem alike_alone {path : Path} (hitem : ¬path.all Step.isName = true) (v w : Value)
    (names : List String) :
    ((alone path v).at? names = none ∧ (alone path w).at? names = none) ∨
      ∃ v' w', (alone path v).at? names = some v' ∧ (alone path w).at? names = some w' ∧
        Alike v' w' := by
  induction path generalizing names with
  | nil => exact absurd rfl hitem
  | cons step path ih =>
      cases step with
      | item i =>
          cases names with
          | nil => exact .inr ⟨_, _, rfl, rfl, .arrays _ _⟩
          | cons name names => exact .inl ⟨rfl, rfl⟩
      | name name' =>
          cases names with
          | nil => exact .inr ⟨_, _, rfl, rfl, .named _ _ _⟩
          | cons name names =>
              have hsets (u : Value) : (alone (.name name' :: path) u).at? (name :: names) =
                  if name' = name then (alone path u).at? names else none :=
                Placement.sets?_name_cons name' name path u names
              rw [hsets, hsets]
              split
              next => exact ih hitem names
              next => exact .inl ⟨rfl, rfl⟩

end Value

namespace Placement

/-- Two placements at one path, of one value unless it is set at an item. -/
structure Alike (p q : Placement) : Prop where
  path : p.path = q.path
  value : p.path.all Step.isName = true → p.value = q.value

theorem Alike.refl (p : Placement) : p.Alike p := ⟨rfl, fun _ => rfl⟩

theorem Alike.sets? {p q : Placement} (h : p.Alike q) (names : List String) :
    (p.sets? names = none ∧ q.sets? names = none) ∨
      ∃ v w, p.sets? names = some v ∧ q.sets? names = some w ∧ v.Alike w := by
  obtain ⟨path, v⟩ := p
  obtain ⟨path', w⟩ := q
  obtain ⟨rfl, hvalue⟩ : path = path' ∧ _ := ⟨h.path, h.value⟩
  by_cases hnames : path.all Step.isName = true
  · obtain rfl := hvalue hnames
    cases hsets : Placement.sets? ⟨path, v⟩ names with
    | none => exact .inl ⟨rfl, rfl⟩
    | some u => exact .inr ⟨u, u, rfl, rfl, .refl u⟩
  · exact Value.alike_alone hnames v w names

end Placement

/-! ## Tables -/

theorem Value.memberLeaves_eq (ms : Members) :
    memberLeaves ms = ms.flatMap fun m => m.2.leaves.map (.under (Text.lower m.1)) := by
  induction ms with
  | nil => rfl
  | cons m rest ih =>
      obtain ⟨name, v⟩ := m
      rw [memberLeaves, ih, List.flatMap_cons]

theorem Value.mem_leaves_table {ms : Members} {p : Placement} :
    p ∈ (table ms).leaves ↔ ms = [] ∧ p = ⟨[], .table []⟩ ∨ p ∈ memberLeaves ms := by
  cases ms with
  | nil => simp [leaves, memberLeaves]
  | cons m rest => simp [leaves]

namespace Arrangement

variable (a : Arrangement)

theorem members_eq (names : List String) (ms : Members) :
    a.members names ms = ms.map fun m => (m.1, a.value (names ++ [m.1]) m.2) := by
  induction ms with
  | nil => rfl
  | cons m rest ih =>
      obtain ⟨name, v⟩ := m
      rw [members, ih, List.map_cons]

theorem arrange_members_eq_nil_iff {names : List String} {ms : Members} :
    a.arrange names (a.members names ms) = [] ↔ ms = [] := by
  rw [← List.length_eq_zero_iff, (a.perm names _).length_eq, members_eq, List.length_map,
    List.length_eq_zero_iff]

mutual

theorem mem_leaves_value (names : List String) (v : Value) (p : Placement) :
    p ∈ (a.value names v).leaves ↔ p ∈ v.leaves := by
  cases v with
  | table ms =>
      have hperm := (a.perm names (a.members names ms)).flatMap_right
        fun m => m.2.leaves.map (Placement.under (Text.lower m.1))
      rw [value, Value.mem_leaves_table, Value.mem_leaves_table, arrange_members_eq_nil_iff,
        Value.memberLeaves_eq, hperm.mem_iff, ← Value.memberLeaves_eq,
        mem_memberLeaves_members names ms p]
  | _ => rw [value]

theorem mem_memberLeaves_members (names : List String) (ms : List (String × Value))
    (p : Placement) : p ∈ Value.memberLeaves (a.members names ms) ↔ p ∈ Value.memberLeaves ms := by
  cases ms with
  | nil => rw [members]
  | cons m rest =>
      obtain ⟨name, v⟩ := m
      rw [members, Value.memberLeaves, Value.memberLeaves, List.mem_append, List.mem_append,
        List.mem_map, List.mem_map, mem_memberLeaves_members names rest p]
      simp only [mem_leaves_value (names ++ [name]) v]

end

theorem mem_layer_iff {layer : Layer} {name : String} {v : Value} :
    (name, v) ∈ a.layer layer ↔ ∃ w, (name, w) ∈ layer ∧ v = a.value [name] w := by
  rw [Arrangement.layer, (a.perm [] _).mem_iff, members_eq, List.mem_map]
  constructor
  · rintro ⟨⟨name', w⟩, hmem, heq⟩
    obtain ⟨rfl, rfl⟩ := Prod.mk.inj heq
    exact ⟨w, hmem, rfl⟩
  · rintro ⟨w, hmem, rfl⟩
    exact ⟨(name, w), hmem, rfl⟩

/-- The same placements come from a value and from the arranged one. -/
theorem alike_placementsAt (names : List String) (path : Path) (v : Value) :
    (∀ q ∈ placementsAt path (a.value names v), ∃ p ∈ placementsAt path v, p.Alike q) ∧
      ∀ p ∈ placementsAt path v, ∃ q ∈ placementsAt path (a.value names v), p.Alike q := by
  rw [placementsAt, placementsAt]
  split
  next =>
    simp only [List.mem_map, mem_leaves_value]
    exact ⟨fun q hq => ⟨q, hq, .refl q⟩, fun p hp => ⟨p, hp, .refl p⟩⟩
  next hitem =>
    have halike : Placement.Alike ⟨path, v⟩ ⟨path, a.value names v⟩ :=
      ⟨rfl, fun hnames => absurd hnames hitem⟩
    simp only [List.mem_singleton, forall_eq, exists_eq_left]
    exact ⟨halike, halike⟩

variable {a} {layer : Layer}

theorem exists_alike_of_mem_arranged {q : Placement} (hq : q ∈ (a.layer layer).placements) :
    ∃ p ∈ layer.placements, p.Alike q := by
  obtain ⟨⟨name, v⟩, hmem, hq⟩ := List.mem_flatMap.mp hq
  obtain ⟨w, hw, rfl⟩ := (a.mem_layer_iff).mp hmem
  obtain ⟨p, hp, halike⟩ := (a.alike_placementsAt [name] _ w).1 q hq
  exact ⟨p, List.mem_flatMap.mpr ⟨(name, w), hw, hp⟩, halike⟩

theorem exists_alike_of_mem {p : Placement} (hp : p ∈ layer.placements) (a : Arrangement) :
    ∃ q ∈ (a.layer layer).placements, p.Alike q := by
  obtain ⟨⟨name, v⟩, hmem, hp⟩ := List.mem_flatMap.mp hp
  obtain ⟨q, hq, halike⟩ := (a.alike_placementsAt [name] _ v).2 p hp
  exact ⟨q, List.mem_flatMap.mpr ⟨(name, _), (a.mem_layer_iff).mpr ⟨v, hmem, rfl⟩, hq⟩, halike⟩

end Arrangement

end Courier.Config

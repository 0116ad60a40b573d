import Courier.Proofs.Config.Placements

/-! # What placements leave at a place

A placement changes what is found under certain names only if it puts something
there by itself, or if it puts something that is no table on the way there. So
the last placement for a place is what is found in the end, except that tables are
joined: their names add up until something else takes their place.
-/

namespace Courier.Config

namespace Named

variable {α : Type}

theorem map_fst_set (ms : Named α) (name : String) (v : α) :
    (ms.set name v).map Prod.fst =
      if name ∈ ms.map Prod.fst then ms.map Prod.fst else ms.map Prod.fst ++ [name] := by
  induction ms with
  | nil => rfl
  | cons m rest ih =>
      obtain ⟨name', v'⟩ := m
      by_cases h : name' = name
      · simp [set, h]
      · simp only [set, if_neg h, List.map_cons, ih, List.mem_cons, Ne.symm h, false_or]
        split <;> rfl

theorem mem_map_fst_set {ms : Named α} {name name' : String} {v : α} :
    name' ∈ (ms.set name v).map Prod.fst ↔ name' ∈ ms.map Prod.fst ∨ name' = name := by
  rw [map_fst_set]
  split
  next hmem => exact ⟨.inl, fun h => h.elim id fun heq => heq ▸ hmem⟩
  next => rw [List.mem_append, List.mem_singleton]

theorem nodup_set {ms : Named α} (hnodup : (ms.map Prod.fst).Nodup) (name : String) (v : α) :
    ((ms.set name v).map Prod.fst).Nodup := by
  rw [map_fst_set]
  split
  next => exact hnodup
  next hnew =>
    refine List.nodup_append.mpr ⟨hnodup, List.pairwise_singleton _ _, ?_⟩
    intro a ha b hb heq
    apply hnew
    rw [← List.mem_singleton.mp hb, ← heq]
    exact ha

theorem get?_of_mem {ms : Named α} {name : String} {x : α} (hnodup : (ms.map Prod.fst).Nodup)
    (hmem : (name, x) ∈ ms) : ms.get? name = some x := by
  induction ms with
  | nil => cases hmem
  | cons m rest ih =>
      obtain ⟨hnew, hrest⟩ := List.nodup_cons.mp hnodup
      obtain rfl | hmem := List.mem_cons.mp hmem
      · simp [get?]
      · have hne : m.1 ≠ name := fun heq => hnew (heq ▸ List.mem_map_of_mem hmem)
        rw [← ih hrest hmem, get?, get?, List.find?_cons_of_neg (by simpa using hne)]

theorem exists_eq_singleton {ms : Named α} {name : String}
    (hnodup : (ms.map Prod.fst).Nodup) (hname : name ∈ ms.map Prod.fst)
    (hall : ∀ name' ∈ ms.map Prod.fst, name' = name) : ∃ x, ms = [(name, x)] := by
  match ms with
  | [] => cases hname
  | [(name', x)] =>
      obtain rfl : name' = name := hall name' List.mem_cons_self
      exact ⟨x, rfl⟩
  | m :: m' :: _ =>
      have hm := hall m.1 List.mem_cons_self
      have hm' := hall m'.1 (List.mem_cons_of_mem _ List.mem_cons_self)
      exact absurd (hm.trans hm'.symm) (List.rel_of_pairwise_cons hnodup List.mem_cons_self)

end Named

namespace Value

/-- The value to which names lead. -/
def at? : Value → List String → Option Value
  | v, [] => some v
  | v, name :: names => (v.members.get? name).bind fun w => w.at? names

def IsTable : Value → Prop
  | .table _ => True
  | _ => False

/-- Neither a table nor an array. -/
def IsPlain : Value → Prop
  | .table _ => False
  | .array _ => False
  | _ => True

/-- No table that names lead to has two members of one name. -/
def IsTidy (v : Value) : Prop :=
  ∀ names w, v.at? names = some w → (w.members.map Prod.fst).Nodup

theorem at?_singleton (ms : Members) (name : String) :
    (table ms).at? [name] = ms.get? name := by
  rw [at?, members]
  cases ms.get? name <;> rfl

theorem at?_append (v : Value) (names names' : List String) :
    v.at? (names ++ names') = (v.at? names).bind fun w => w.at? names' := by
  induction names generalizing v with
  | nil => rfl
  | cons name names ih =>
      rw [List.cons_append, at?, at?, Option.bind_assoc]
      exact Option.bind_congr fun w _ => ih w

theorem at?_append_of_eq {v w : Value} {names : List String} (h : v.at? names = some w)
    (names' : List String) : v.at? (names ++ names') = w.at? names' := by
  rw [at?_append, h, Option.bind_some]

theorem IsTable.exists_eq {v : Value} (h : v.IsTable) : ∃ ms, v = .table ms := by
  cases v with
  | table ms => exact ⟨ms, rfl⟩
  | _ => cases h

theorem isTidy_iff {v : Value} : v.IsTidy ↔
    (v.members.map Prod.fst).Nodup ∧ ∀ name w, v.members.get? name = some w → w.IsTidy := by
  constructor
  · intro h
    refine ⟨h [] v rfl, fun name w hget names u hu => h (name :: names) u ?_⟩
    rw [at?, hget]
    exact hu
  · rintro ⟨hnodup, hmembers⟩ names w hw
    cases names with
    | nil =>
        obtain rfl := Option.some.inj hw
        exact hnodup
    | cons name names =>
        obtain ⟨u, hget, hu⟩ := Option.bind_eq_some_iff.mp hw
        exact hmembers name u hget names w hu

theorem setAt_nil_of_isPlain {v : Value} (hplain : v.IsPlain) (below : Option Value) :
    v.setAt [] below = v := by
  rw [setAt]
  cases v with
  | table => cases hplain
  | _ => rw [laidOver]

theorem isTidy_of_members_eq_nil {v : Value} (hnone : v.members = []) : v.IsTidy := by
  rw [isTidy_iff, hnone]
  exact ⟨List.nodup_nil, nofun⟩

end Value

/-- What a value at a path makes where there is nothing: tables and arrays that
hold one thing each. -/
def alone : Path → Value → Value
  | [], v => v
  | .name name :: path, v => .table [(name, alone path v)]
  | .item _ :: path, v => .array [alone path v]

namespace Placement

/-- What a placement puts under names, if anything. -/
def sets? (p : Placement) (names : List String) : Option Value :=
  (alone p.path p.value).at? names

/-- At the end of names stands no table with members, as those would be placed one
by one. -/
def IsLeaf (p : Placement) : Prop :=
  p.path.all Step.isName = true → ∀ ms, p.value = .table ms → ms = []

/-- What is put on the way to the end of the names is a table. -/
def Opens (p : Placement) (names : List String) : Prop :=
  ∀ outer rest, names = outer ++ rest → rest ≠ [] → ∀ w, p.sets? outer = some w → w.IsTable

end Placement

namespace Value

mutual

theorem isLeaf_of_mem_leaves (v : Value) :
    ∀ p ∈ v.leaves, p.path.all Step.isName = true ∧ ∀ ms, p.value = .table ms → ms = [] := by
  cases v with
  | table ms =>
      rw [leaves]
      split
      next =>
        intro p hp
        obtain rfl := List.mem_singleton.mp hp
        exact ⟨rfl, fun ms hms => (table.inj hms).symm⟩
      next => exact isLeaf_of_mem_memberLeaves ms
  | _ =>
      intro p hp
      rw [leaves] at hp
      obtain rfl := List.mem_singleton.mp hp
      exact ⟨rfl, fun ms hms => by cases hms⟩

theorem isLeaf_of_mem_memberLeaves (ms : List (String × Value)) :
    ∀ p ∈ memberLeaves ms,
      p.path.all Step.isName = true ∧ ∀ ms, p.value = .table ms → ms = [] := by
  cases ms with
  | nil =>
      intro p hp
      rw [memberLeaves] at hp
      cases hp
  | cons m rest =>
      obtain ⟨name, v⟩ := m
      intro p hp
      rw [memberLeaves] at hp
      obtain hp | hp := List.mem_append.mp hp
      · obtain ⟨q, hq, rfl⟩ := List.mem_map.mp hp
        exact isLeaf_of_mem_leaves v q hq
      · exact isLeaf_of_mem_memberLeaves rest p hp

end

end Value

theorem Layer.isLeaf_of_mem_placements {layer : Layer} {p : Placement}
    (hp : p ∈ layer.placements) : p.IsLeaf := by
  obtain ⟨⟨name, v⟩, -, hp⟩ := List.mem_flatMap.mp hp
  have hp : p ∈ placementsAt (Path.ofName (Text.lower name)) v := hp
  rw [placementsAt] at hp
  split at hp
  next =>
    obtain ⟨q, hq, rfl⟩ := List.mem_map.mp hp
    exact fun _ => (v.isLeaf_of_mem_leaves q hq).2
  next hitem =>
    obtain rfl := List.mem_singleton.mp hp
    exact fun hnames => absurd hnames hitem

theorem exists_ofName (s : String) : ∃ name path, Path.ofName s = .name name :: path := by
  rw [Path.ofName, Path.read?]
  split
  next => exact ⟨s, [], rfl⟩
  next =>
    cases Path.readSteps? s.toList.length (s.toList.dropWhile Path.isNameChar) with
    | none => exact ⟨s, [], rfl⟩
    | some path => exact ⟨_, path, rfl⟩

/-- At the top each placement makes a table. -/
theorem Layer.isTable_of_mem_placements {layer : Layer} {p : Placement}
    (hp : p ∈ layer.placements) : (alone p.path p.value).IsTable := by
  obtain ⟨⟨s, v⟩, -, hp⟩ := List.mem_flatMap.mp hp
  have hp : p ∈ placementsAt (Path.ofName (Text.lower s)) v := hp
  obtain ⟨name, path, hpath⟩ := exists_ofName (Text.lower s)
  rw [hpath, placementsAt] at hp
  split at hp
  next =>
    obtain ⟨q, -, rfl⟩ := List.mem_map.mp hp
    trivial
  next =>
    obtain rfl := List.mem_singleton.mp hp
    trivial

variable {p : Placement} {ps : List Placement} {below : Option Value} {names : List String}
  {w : Value}

/-- At the end of names the rest of a path goes on with what was there. -/
theorem Value.at?_setAt_append (v : Value) (names : List String) (rest : Path)
    (below : Option Value) :
    (v.setAt (names.map Step.name ++ rest) below).at? names =
      some (v.setAt rest (below.bind fun b => b.at? names)) := by
  induction names generalizing below with
  | nil => cases below <;> rfl
  | cons name names ih =>
      have hbelow : (below.bind fun b => b.at? (name :: names)) =
          ((below.getD (.table [])).members.get? name).bind fun b => b.at? names := by
        cases below <;> rfl
      rw [List.map_cons, List.cons_append, setAt, at?, members, Named.get?_set, if_pos rfl,
        Option.bind_some, ih, hbelow]

namespace Placement

theorem isLeaf_tail {name : String} {path : Path} {v : Value}
    (hleaf : IsLeaf ⟨.name name :: path, v⟩) : IsLeaf ⟨path, v⟩ :=
  hleaf

theorem members_eq_nil_of_isLeaf {v : Value} (hleaf : IsLeaf ⟨[], v⟩) : v.members = [] := by
  cases v with
  | table ms => exact hleaf rfl ms rfl
  | _ => rfl

theorem sets?_name_cons (name name' : String) (path : Path) (v : Value) (names : List String) :
    sets? ⟨.name name :: path, v⟩ (name' :: names) =
      if name = name' then sets? ⟨path, v⟩ names else none := by
  rw [sets?, alone, Value.at?, Value.members, Named.get?]
  by_cases h : name = name'
  · simp [h, sets?]
  · simp [h]

/-- What a placement puts somewhere comes from the rest of its path. -/
theorem exists_rest_of_sets? (hleaf : p.IsLeaf) (hsets : p.sets? names = some w) :
    ∃ rest, p.path = names.map Step.name ++ rest ∧ w = alone rest p.value := by
  obtain ⟨path, v⟩ := p
  induction names generalizing path with
  | nil => exact ⟨path, rfl, (Option.some.inj hsets).symm⟩
  | cons name names ih =>
      cases path with
      | nil =>
          rw [sets?, alone, Value.at?, members_eq_nil_of_isLeaf hleaf] at hsets
          cases hsets
      | cons step path =>
          cases step with
          | name name' =>
              rw [sets?_name_cons] at hsets
              split at hsets
              next heq =>
                subst heq
                obtain ⟨rest, hpath, hw⟩ := ih path (isLeaf_tail hleaf) hsets
                exact ⟨rest, congrArg (Step.name name' :: ·) hpath, hw⟩
              next => cases hsets
          | item i => cases hsets

theorem at?_onto_of_sets? (hleaf : p.IsLeaf) (hsets : p.sets? names = some w)
    (below : Option Value) :
    ∃ rest, w = alone rest p.value ∧ (rest = [] → p.path.all Step.isName = true) ∧
      (p.onto below).at? names = some (p.value.setAt rest (below.bind fun b => b.at? names)) := by
  obtain ⟨rest, hpath, hw⟩ := exists_rest_of_sets? hleaf hsets
  refine ⟨rest, hw, ?_, ?_⟩
  · rintro rfl
    rw [hpath]
    simp [Step.isName]
  · rw [onto, hpath, Value.at?_setAt_append]

theorem Opens.tail {name : String} {path : Path} {v : Value}
    (hopens : Opens ⟨.name name :: path, v⟩ (name :: names)) : Opens ⟨path, v⟩ names := by
  intro outer rest heq hne w hsets
  refine hopens (name :: outer) rest (congrArg (name :: ·) heq) hne w ?_
  rw [sets?_name_cons, if_pos rfl, hsets]

/-- Where a placement puts nothing it changes nothing. -/
theorem at?_onto_of_sets?_eq_none (hleaf : p.IsLeaf) (hopens : p.Opens names)
    (hnone : p.sets? names = none) :
    (p.onto below).at? names = below.bind fun b => b.at? names := by
  obtain ⟨path, v⟩ := p
  induction names generalizing path below with
  | nil => cases hnone
  | cons name names ih =>
      have htable : (alone path v).IsTable := hopens [] _ rfl (List.cons_ne_nil name names) _ rfl
      have hbelow : (below.bind fun b => b.at? (name :: names)) =
          ((below.getD (.table [])).members.get? name).bind fun b => b.at? names := by
        cases below <;> rfl
      cases path with
      | nil =>
          -- A table without members leaves what there is.
          obtain ⟨ms, rfl⟩ := htable.exists_eq
          obtain rfl := hleaf rfl ms rfl
          rw [hbelow, onto, Value.setAt, Value.laidOver, Value.layMembers, Value.at?]
      | cons step path =>
          cases step with
          | name name' =>
              rw [hbelow, onto, Value.setAt, Value.at?, Value.members, Named.get?_set]
              split
              next heq =>
                subst heq
                rw [sets?_name_cons, if_pos rfl] at hnone
                exact ih path (isLeaf_tail hleaf) hopens.tail hnone
              next => rfl
          | item i => cases htable

theorem isTidy_getD (htidy : ∀ b, below = some b → b.IsTidy) :
    (below.getD (.table [])).IsTidy := by
  cases below with
  | none => exact Value.isTidy_of_members_eq_nil rfl
  | some b => exact htidy b rfl

/-- Placements keep the names in each table apart. -/
theorem isTidy_onto (hleaf : p.IsLeaf) (htidy : ∀ b, below = some b → b.IsTidy) :
    (p.onto below).IsTidy := by
  obtain ⟨path, v⟩ := p
  induction path generalizing below with
  | nil =>
      rw [onto, Value.setAt]
      cases v with
      | table ms =>
          obtain rfl := hleaf rfl ms rfl
          rw [Value.laidOver, Value.layMembers]
          exact isTidy_getD htidy
      | _ =>
          rw [Value.laidOver]
          exact Value.isTidy_of_members_eq_nil rfl
  | cons step path ih =>
      cases step with
      | name name =>
          obtain ⟨hnodup, hmembers⟩ := Value.isTidy_iff.mp (isTidy_getD htidy)
          rw [onto, Value.setAt, Value.isTidy_iff, Value.members]
          refine ⟨Named.nodup_set hnodup _ _, fun name' u hu => ?_⟩
          rw [Named.get?_set] at hu
          split at hu
          next =>
            obtain rfl := Option.some.inj hu
            exact ih (hmembers name) (isLeaf_tail hleaf)
          next => exact hmembers name' u hu
      | item i =>
          rw [onto, Value.setAt]
          split <;> exact Value.isTidy_of_members_eq_nil rfl

end Placement

open Placement

/-! ## Many placements -/

theorem isTidy_of_laid (hleaf : ∀ p ∈ ps, p.IsLeaf) (htidy : ∀ b, below = some b → b.IsTidy) :
    ∀ b, laid ps below = some b → b.IsTidy := by
  induction ps generalizing below with
  | nil => exact htidy
  | cons p rest ih =>
      obtain ⟨hp, hrest⟩ := List.forall_mem_cons.mp hleaf
      refine ih hrest fun b hb => ?_
      obtain rfl := Option.some.inj hb
      exact isTidy_onto hp htidy

/-- Where only tables are put there is a table, or nothing. -/
theorem isTable_of_laid (hleaf : ∀ p ∈ ps, p.IsLeaf) (hopens : ∀ p ∈ ps, p.Opens names)
    (htables : ∀ p ∈ ps, ∀ w, p.sets? names = some w → w.IsTable)
    (hbelow : ∀ w, (below.bind fun b => b.at? names) = some w → w.IsTable) :
    ∀ w, ((laid ps below).bind fun b => b.at? names) = some w → w.IsTable := by
  induction ps generalizing below with
  | nil => exact hbelow
  | cons p rest ih =>
      obtain ⟨hp, hleaf⟩ := List.forall_mem_cons.mp hleaf
      obtain ⟨hopen, hopens⟩ := List.forall_mem_cons.mp hopens
      obtain ⟨htable, htables⟩ := List.forall_mem_cons.mp htables
      refine ih hleaf hopens htables fun w hw => ?_
      rw [Option.bind_some] at hw
      cases hsets : p.sets? names with
      | none =>
          rw [at?_onto_of_sets?_eq_none hp hopen hsets] at hw
          exact hbelow w hw
      | some u =>
          obtain ⟨rest, hu, hall, hat⟩ := at?_onto_of_sets? hp hsets below
          have hut := htable u hsets
          rw [hat] at hw
          obtain rfl := Option.some.inj hw
          cases rest with
          | nil =>
              obtain ⟨ms, rfl⟩ := hut.exists_eq
              obtain rfl := hp (hall rfl) ms hu.symm
              have hv : p.value = .table [] := hu.symm
              rw [hv, Value.setAt, Value.laidOver, Value.layMembers]
              cases hold : below.bind fun b => b.at? names with
              | none => trivial
              | some b => exact hbelow b hold
          | cons step rest =>
              cases step with
              | name name => exact trivial
              | item i =>
                  subst hu
                  cases hut

/-! ## Values that are given one after another -/

/-- The names that tables have together when they are given one after another. Any
other value takes their place. -/
def joinedNames (values : List Value) : List String :=
  values.foldl (fun names v =>
    match v with
    | .table ms => names ++ ms.map Prod.fst
    | _ => []) []

/-- A value is plain or names one thing. -/
def Value.IsSimple (v : Value) : Prop :=
  v.IsPlain ∨ ∃ name x, v = .table [(name, x)]

/-- What is found where these values were given one after another. -/
structure Gathers (values : List Value) (found : Option Value) : Prop where
  names : ∀ name, name ∈ joinedNames values ↔
    name ∈ (found.getD (.table [])).members.map Prod.fst
  nothing : values = [] → found = none
  plain : ∀ w, values.getLast? = some w → w.IsPlain → found = some w
  named : ∀ name x, values.getLast? = some (.table [(name, x)]) →
    ∃ ms, found = some (.table ms) ∧ name ∈ ms.map Prod.fst

theorem gathers_nil : Gathers [] none :=
  ⟨fun _ => Iff.rfl, fun _ => rfl, nofun, nofun⟩

theorem joinedNames_append_singleton (values : List Value) (w : Value) :
    joinedNames (values ++ [w]) =
      match w with
      | .table ms => joinedNames values ++ ms.map Prod.fst
      | _ => [] := by
  rw [joinedNames, List.foldl_append]
  rfl

namespace Gathers

variable {values : List Value}

theorem append_plain {found : Option Value} (hplain : w.IsPlain) (_ : Gathers values found) :
    Gathers (values ++ [w]) (some w) where
  names name := by
    rw [joinedNames_append_singleton]
    cases w with
    | table => cases hplain
    | _ => exact Iff.rfl
  nothing hnil := by simp at hnil
  plain u hu _ := by
    rw [List.getLast?_concat] at hu
    exact hu
  named name x hx := by
    rw [List.getLast?_concat] at hx
    obtain rfl := Option.some.inj hx
    cases hplain

theorem append_named {found : Option Value} (h : Gathers values found) (name : String)
    (x v : Value) :
    Gathers (values ++ [.table [(name, x)]])
      (some (.table ((found.getD (.table [])).members.set name v))) where
  names name' := by
    rw [joinedNames_append_singleton]
    exact (List.mem_append.trans (or_congr (h.names name') List.mem_singleton)).trans
      Named.mem_map_fst_set.symm
  nothing hnil := by simp at hnil
  plain u hu hplain := by
    rw [List.getLast?_concat] at hu
    obtain rfl := Option.some.inj hu
    cases hplain
  named name' x' hx := by
    rw [List.getLast?_concat] at hx
    obtain ⟨rfl, -⟩ : name = name' ∧ x = x' := by simpa using hx
    exact ⟨_, rfl, Named.mem_map_fst_set.mpr (.inr rfl)⟩

/-- One placement more. -/
theorem onto (h : Gathers values (below.bind fun b => b.at? names)) (hleaf : p.IsLeaf)
    (hopens : p.Opens names) (hsimple : ∀ w, p.sets? names = some w → w.IsSimple) :
    Gathers (values ++ (p.sets? names).toList) ((p.onto below).at? names) := by
  cases hsets : p.sets? names with
  | none =>
      rw [at?_onto_of_sets?_eq_none hleaf hopens hsets, Option.toList_none, List.append_nil]
      exact h
  | some w =>
      obtain ⟨rest, hw, hall, hat⟩ := at?_onto_of_sets? hleaf hsets below
      rw [hat, Option.toList_some]
      cases rest with
      | nil =>
          obtain hplain | ⟨name, x, rfl⟩ := hsimple w hsets
          · have hvalue : p.value = w := hw.symm
            rw [hvalue, Value.setAt_nil_of_isPlain hplain]
            exact h.append_plain hplain
          · cases hleaf (hall rfl) _ hw.symm
      | cons step rest =>
          subst hw
          cases step with
          | name name => exact h.append_named name (alone rest p.value) _
          | item i =>
              obtain hplain | ⟨_, _, hnamed⟩ := hsimple _ hsets
              · cases hplain
              · cases hnamed

end Gathers

/-- What is found under names after all placements. -/
theorem gathers_laid {values : List Value} (hleaf : ∀ p ∈ ps, p.IsLeaf)
    (hopens : ∀ p ∈ ps, p.Opens names)
    (hsimple : ∀ p ∈ ps, ∀ w, p.sets? names = some w → w.IsSimple)
    (h : Gathers values (below.bind fun b => b.at? names)) :
    Gathers (values ++ ps.filterMap fun p => p.sets? names)
      ((laid ps below).bind fun b => b.at? names) := by
  induction ps generalizing values below with
  | nil =>
      rw [List.filterMap_nil, List.append_nil]
      exact h
  | cons p rest ih =>
      obtain ⟨hp, hleaf⟩ := List.forall_mem_cons.mp hleaf
      obtain ⟨hopen, hopens⟩ := List.forall_mem_cons.mp hopens
      obtain ⟨hfirst, hsimple⟩ := List.forall_mem_cons.mp hsimple
      have hover : Gathers (values ++ (p.sets? names).toList)
          ((some (p.onto below)).bind fun b => b.at? names) := h.onto hp hopen hfirst
      have hnext := ih hleaf hopens hsimple hover
      rw [List.append_assoc] at hnext
      have hvalues : ((p :: rest).filterMap fun p => p.sets? names) =
          (p.sets? names).toList ++ rest.filterMap fun p => p.sets? names := by
        rw [List.filterMap_cons]
        cases p.sets? names <;> rfl
      rw [hvalues]
      exact hnext

end Courier.Config

import Courier.Config.Layers

/-! # What a layer sets, value by value

A layer sets tables of tables under names that may be paths. Taken apart it is a
list of placements, each of one value at the end of one path. Joining tables member
by member comes to making the placements one after another, so that a layer
touches nothing but what one of its placements is for.
-/

namespace Courier.Config

/-- One value and the path at which it is set. -/
structure Placement where
  path : Path
  value : Value

namespace Placement

/-- The same one name further in. -/
def under (name : String) (p : Placement) : Placement :=
  ⟨.name name :: p.path, p.value⟩

/-- What a placement makes of what there was. -/
def onto (p : Placement) (below : Option Value) : Value :=
  p.value.setAt p.path below

/-- Makes placements one after another. -/
def laid (ps : List Placement) (below : Option Value) : Option Value :=
  ps.foldl (fun below p => some (p.onto below)) below

end Placement

namespace Value

mutual

/-- What there is in a value apart from tables that have members, with the names
that lead there, in lower case. -/
def leaves : Value → List Placement
  | .table ms => if ms.isEmpty then [⟨[], .table []⟩] else memberLeaves ms
  | .null => [⟨[], .null⟩]
  | .bool b => [⟨[], .bool b⟩]
  | .whole n => [⟨[], .whole n⟩]
  | .real x => [⟨[], .real x⟩]
  | .string s => [⟨[], .string s⟩]
  | .array vs => [⟨[], .array vs⟩]

def memberLeaves : List (String × Value) → List Placement
  | [] => []
  | (name, v) :: rest => v.leaves.map (.under (Text.lower name)) ++ memberLeaves rest

end

end Value

def Step.isName : Step → Bool
  | .name _ => true
  | .item _ => false

/-- The placements of a value that is set at a path. Tables are only joined with
what is below at the end of names; an item of an array gives way as a whole. -/
def placementsAt (path : Path) (v : Value) : List Placement :=
  if path.all Step.isName then v.leaves.map fun p => ⟨path ++ p.path, p.value⟩
  else [⟨path, v⟩]

def Layer.placements (layer : Layer) : List Placement :=
  layer.flatMap fun (name, v) => placementsAt (Path.ofName (Text.lower name)) v

variable {ps : List Placement} {below : Option Value} {name : String} {path : Path}

theorem Named.set_set {α : Type} (ms : Named α) (name : String) (v w : α) :
    (ms.set name v).set name w = ms.set name w := by
  induction ms with
  | nil => simp [Named.set]
  | cons m rest ih =>
      obtain ⟨name', v'⟩ := m
      by_cases h : name' = name
      · simp [Named.set, h]
      · simp [Named.set, h, ih]

namespace Placement

theorem laid_nil (below : Option Value) : laid [] below = below := rfl

theorem laid_cons (p : Placement) (ps : List Placement) (below : Option Value) :
    laid (p :: ps) below = laid ps (some (p.onto below)) := rfl

theorem laid_append (ps qs : List Placement) (below : Option Value) :
    laid (ps ++ qs) below = laid qs (laid ps below) :=
  List.foldl_append

theorem onto_under (name : String) (p : Placement) (below : Option Value) :
    (p.under name).onto below =
      .table ((below.getD (.table [])).members.set name
        (p.onto ((below.getD (.table [])).members.get? name))) := by
  rw [under, onto, Value.setAt]
  rfl

/-- Placements below one name change that member of a table and no other. -/
theorem laid_map_under (hne : ps ≠ []) (name : String) (below : Option Value) :
    laid (ps.map (under name)) below =
      (laid ps ((below.getD (.table [])).members.get? name)).map fun v =>
        .table ((below.getD (.table [])).members.set name v) := by
  induction ps generalizing below with
  | nil => exact absurd rfl hne
  | cons p rest ih =>
      rw [List.map_cons, laid_cons, laid_cons, onto_under]
      cases rest with
      | nil => rfl
      | cons q rest =>
          rw [ih (List.cons_ne_nil q rest)]
          simp only [Option.getD_some, Value.members, Named.get?_set, if_pos, Named.set_set]

end Placement

namespace Value

open Placement

theorem leaves_ne_nil (v : Value) : v.leaves ≠ [] := by
  cases v with
  | table ms =>
      rw [leaves]
      cases ms with
      | nil => exact List.cons_ne_nil _ _
      | cons m rest =>
          obtain ⟨name, v⟩ := m
          have hv := leaves_ne_nil v
          rw [List.isEmpty_cons, if_neg Bool.false_ne_true, memberLeaves]
          simp [hv]
  | _ => simp [leaves]

mutual

/-- Laying a value over another comes to making its placements. -/
theorem laid_leaves (v : Value) (below : Option Value) :
    laid v.leaves below = some (v.laidOver below) := by
  cases v with
  | table ms =>
      rw [leaves, laidOver]
      split
      next hempty =>
        rw [List.isEmpty_iff.mp hempty, laid_cons, laid_nil, onto, setAt, laidOver]
      next hmembers =>
        exact laid_memberLeaves ms (fun hnil => hmembers (List.isEmpty_iff.mpr hnil)) below
  | _ => rw [leaves, laid_cons, laid_nil, onto, setAt]

theorem laid_memberLeaves (ms : List (String × Value)) (hne : ms ≠ []) (below : Option Value) :
    laid (memberLeaves ms) below = some (layMembers ms (below.getD (.table []))) := by
  cases ms with
  | nil => exact absurd rfl hne
  | cons m rest =>
      obtain ⟨name, v⟩ := m
      rw [memberLeaves, laid_append, laid_map_under (leaves_ne_nil v), laid_leaves v, layMembers,
        Option.map_some]
      cases rest with
      | nil => rfl
      | cons m' rest =>
          exact laid_memberLeaves (m' :: rest) (List.cons_ne_nil m' rest) _

end

end Value

open Placement

theorem placementsAt_ne_nil (path : Path) (v : Value) : placementsAt path v ≠ [] := by
  rw [placementsAt]
  split
  · exact mt List.map_eq_nil_iff.mp v.leaves_ne_nil
  · exact List.cons_ne_nil _ _

theorem placementsAt_name_cons (hnames : path.all Step.isName = true) (name : String) (v : Value) :
    placementsAt (.name name :: path) v = (placementsAt path v).map (.under name) := by
  have hcons : List.all (.name name :: path) Step.isName = true := hnames
  rw [placementsAt, placementsAt, if_pos hnames, if_pos hcons, List.map_map]
  rfl

theorem laid_placementsAt (path : Path) (v : Value) (below : Option Value) :
    laid (placementsAt path v) below = some (v.setAt path below) := by
  by_cases hnames : path.all Step.isName = true
  · induction path generalizing below with
    | nil =>
        rw [placementsAt, if_pos hnames, Value.setAt, ← Value.laid_leaves]
        simp only [List.nil_append, List.map_id']
    | cons step rest ih =>
        cases step with
        | name name =>
            have hrest : List.all rest Step.isName = true := hnames
            rw [placementsAt_name_cons hrest, laid_map_under (placementsAt_ne_nil rest v),
              ih _ hrest, Value.setAt]
            rfl
        | item i => cases hnames
  · rw [placementsAt, if_neg hnames]
    rfl

theorem laid_placements (layer : Layer) (config : Value) :
    laid layer.placements (some config) = some (overlay config layer) := by
  induction layer generalizing config with
  | nil => rfl
  | cons entry rest ih =>
      rw [Layer.placements, List.flatMap_cons, laid_append, laid_placementsAt]
      exact ih _

/-- Layers make the configuration that their placements make one after another. -/
theorem laid_flatMap_placements (layers : List Layer) :
    laid (layers.flatMap Layer.placements) (some (.table [])) = some (ofLayers layers) := by
  have hlaid : ∀ config, laid (layers.flatMap Layer.placements) (some config) =
      some (layers.foldl overlay config) := by
    induction layers with
    | nil => exact fun _ => rfl
    | cons layer rest ih =>
        intro config
        rw [List.flatMap_cons, laid_append, laid_placements, ih]
        rfl
  exact hlaid _

end Courier.Config

import Courier.Proofs.Config.Arrangements
import Courier.Proofs.Config.Fields

/-! # What layers give

A layer gives each setting some values, or none. If its sections are tables and its
values can be converted, then each setting is read from the last value that the layers
give it, and has its default if they give none. How the tables of a layer are arranged
matters only where it gives a setting two values.
-/

namespace Courier

open Config

namespace Settings

/-- Every setting is what its value is read as, or else its default. -/
def ComesFrom (s : Settings) (value? : List String → Option Value) : Prop :=
  ∀ t, ∀ f ∈ settings t,
    match value? f.names with
    | some v => f.convert v = .ok (f.get s)
    | none => f.get s = f.get default

/-- Only what the values are read as matters. -/
theorem ComesFrom.congr {s : Settings} {value? value?' : List String → Option Value}
    (h : s.ComesFrom value?)
    (heq : ∀ t, ∀ f ∈ settings t,
      (value? f.names).map f.convert = (value?' f.names).map f.convert) :
    s.ComesFrom value?' := by
  intro t f hf
  have hs := h t f hf
  have heq := heq t f hf
  cases hv : value? f.names with
  | none =>
      rw [hv, Option.map_none, eq_comm, Option.map_eq_none_iff] at heq
      rw [hv] at hs
      rw [heq]
      exact hs
  | some v =>
      rw [hv, Option.map_some, eq_comm] at heq
      obtain ⟨w, hw, hconvert⟩ := Option.map_eq_some_iff.mp heq
      rw [hv] at hs
      rw [hw]
      exact hconvert.trans hs

/-- No setting is left out: there is one answer to what all of them are. -/
theorem ComesFrom.eq {s s' : Settings} {value? : List String → Option Value}
    (h : s.ComesFrom value?) (h' : s'.ComesFrom value?) :
    { s with pipeline.topics := s'.pipeline.topics } = s' ∧
      ∀ t, s.pipeline.override t = s'.pipeline.override t := by
  refine ext_settings fun t f hf => ?_
  have hs := h t f hf
  have hs' := h' t f hf
  cases hv : value? f.names with
  | none =>
      rw [hv] at hs hs'
      exact hs.trans hs'.symm
  | some v =>
      rw [hv] at hs hs'
      exact Except.ok.inj (hs.symm.trans hs')

end Settings

namespace Config

/-! ## What layers give -/

namespace Layer

/-- What a layer gives under names, one value after another. -/
def values (layer : Layer) (names : List String) : List Value :=
  layer.placements.filterMap (·.sets? names)

/-- What a layer sets under names in the end. -/
def value? (layer : Layer) (names : List String) : Option Value :=
  (layer.values names).getLast?

/-- Sections and topics are tables, and all values can be converted to the types of
their settings. -/
structure Fits (layer : Layer) : Prop where
  tables : ∀ t, ∀ names ∈ Settings.sections t, ∀ v ∈ layer.values names, v.IsTable
  converts : ∀ t, ∀ f ∈ Settings.settings t, ∀ v ∈ layer.values f.names, ∃ x, f.convert v = .ok x

/-- No setting is given two values that are read differently. -/
def IsDecided (layer : Layer) : Prop :=
  ∀ t, ∀ f ∈ Settings.settings t, ∀ v ∈ layer.values f.names, ∀ w ∈ layer.values f.names,
    f.convert v = f.convert w

end Layer

/-! ## Arranged layers -/

section

variable {layer : Layer} {a : Arrangement} {t : Topic} {names : List String}
  {f : Setting Settings} {v w : Value}

theorem exists_alike_of_mem_values_arranged (hv : v ∈ (a.layer layer).values names) :
    ∃ w ∈ layer.values names, w.Alike v := by
  obtain ⟨q, hq, hsets⟩ := List.mem_filterMap.mp hv
  obtain ⟨p, hp, halike⟩ := Arrangement.exists_alike_of_mem_arranged hq
  obtain ⟨-, hnone⟩ | ⟨w, v', hw, hv', halike⟩ := halike.sets? names
  · cases hnone.symm.trans hsets
  · obtain rfl := Option.some.inj (hv'.symm.trans hsets)
    exact ⟨w, List.mem_filterMap.mpr ⟨p, hp, hw⟩, halike⟩

theorem exists_alike_of_mem_values (hv : v ∈ layer.values names) (a : Arrangement) :
    ∃ w ∈ (a.layer layer).values names, v.Alike w := by
  obtain ⟨p, hp, hsets⟩ := List.mem_filterMap.mp hv
  obtain ⟨q, hq, halike⟩ := Arrangement.exists_alike_of_mem hp a
  obtain ⟨hnone, -⟩ | ⟨v', w, hv', hw, halike⟩ := halike.sets? names
  · cases hnone.symm.trans hsets
  · obtain rfl := Option.some.inj (hv'.symm.trans hsets)
    exact ⟨w, List.mem_filterMap.mpr ⟨q, hq, hw⟩, halike⟩

/-- No setting is read from an array, and of a table none needs more than the name. -/
theorem convert_eq_of_alike (hf : f ∈ Settings.settings t) (halike : v.Alike w) {x : f.Val}
    (hx : f.convert v = .ok x) : f.convert w = .ok x := by
  by_cases hformat : f = Settings.format
  · subst hformat
    cases halike with
    | refl => exact hx
    | arrays => cases hx
    | named => exact hx
  · have hplain := (Settings.standsIn_of_mem hf).plain hformat _ v x hx
    cases halike with
    | refl => exact hx
    | arrays => cases hplain
    | named => cases hplain

theorem Layer.Fits.arranged (h : layer.Fits) (a : Arrangement) : Layer.Fits (a.layer layer) where
  tables t names hnames v hv := by
    obtain ⟨w, hw, halike⟩ := exists_alike_of_mem_values_arranged hv
    exact halike.isTable (h.tables t names hnames w hw)
  converts t f hf v hv := by
    obtain ⟨w, hw, halike⟩ := exists_alike_of_mem_values_arranged hv
    obtain ⟨x, hx⟩ := h.converts t f hf w hw
    exact ⟨x, convert_eq_of_alike hf halike hx⟩

/-- Where a layer gives a setting no two values, its arrangement does not matter. -/
theorem convert_value?_arranged (hfits : layer.Fits) (hdecided : layer.IsDecided)
    (hf : f ∈ Settings.settings t) (a : Arrangement) :
    (Layer.value? (a.layer layer) f.names).map f.convert =
      (layer.value? f.names).map f.convert := by
  cases hlast : Layer.value? (a.layer layer) f.names with
  | none =>
      have hnone : layer.values f.names = [] := by
        rw [List.eq_nil_iff_forall_not_mem]
        intro v hv
        obtain ⟨w, hw, -⟩ := exists_alike_of_mem_values hv a
        rw [List.getLast?_eq_none_iff.mp hlast] at hw
        cases hw
      rw [Layer.value?, hnone]
      rfl
  | some v =>
      obtain ⟨w, hw, halike⟩ := exists_alike_of_mem_values_arranged (List.mem_of_getLast? hlast)
      obtain ⟨x, hx⟩ := hfits.converts t f hf w hw
      cases hplain : layer.value? f.names with
      | none =>
          rw [List.getLast?_eq_none_iff.mp hplain] at hw
          cases hw
      | some u =>
          have hu := hdecided t f hf u (List.mem_of_getLast? hplain) w hw
          rw [Option.map_some, Option.map_some, hu, hx, convert_eq_of_alike hf halike hx]

end

section

variable {layers : List Layer} {p : Placement} {t : Topic} {names : List String}
  {f : Setting Settings}

/-- The values that several layers give. -/
def given (layers : List Layer) (names : List String) : List Value :=
  layers.flatMap (·.values names)

theorem mem_given {v : Value} (hp : p ∈ layers.flatMap Layer.placements)
    (hv : p.sets? names = some v) : v ∈ given layers names := by
  obtain ⟨layer, hlayer, hp⟩ := List.mem_flatMap.mp hp
  exact List.mem_flatMap.mpr ⟨layer, hlayer, List.mem_filterMap.mpr ⟨p, hp, hv⟩⟩

theorem filterMap_sets? (layers : List Layer) (names : List String) :
    ((layers.flatMap Layer.placements).filterMap fun p => p.sets? names) = given layers names :=
  List.filterMap_flatMap ..

theorem isLeaf_of_mem (hp : p ∈ layers.flatMap Layer.placements) : p.IsLeaf := by
  obtain ⟨layer, -, hp⟩ := List.mem_flatMap.mp hp
  exact layer.isLeaf_of_mem_placements hp

/-- Tables that give a format are joined like all tables; the names in them clash if
they differ. -/
def FormatsClash (layers : List Layer) : Prop :=
  ∃ a ∈ joinedNames (given layers Settings.format.names),
    ∃ b ∈ joinedNames (given layers Settings.format.names), a ≠ b

variable (hfits : ∀ layer ∈ layers, layer.Fits)
include hfits

theorem isTable_of_mem_given (hnames : names ∈ Settings.sections t) {v : Value}
    (hv : v ∈ given layers names) : v.IsTable := by
  obtain ⟨layer, hlayer, hv⟩ := List.mem_flatMap.mp hv
  exact (hfits layer hlayer).tables t names hnames v hv

theorem exists_convert_of_mem_given (hf : f ∈ Settings.settings t) {v : Value}
    (hv : v ∈ given layers f.names) : ∃ x, f.convert v = .ok x := by
  obtain ⟨layer, hlayer, hv⟩ := List.mem_flatMap.mp hv
  exact (hfits layer hlayer).converts t f hf v hv

/-- On the way to the end of the names there are sections only. -/
theorem opens_of_mem (hp : p ∈ layers.flatMap Layer.placements)
    (hnames : ∀ outer rest, names = outer ++ rest → rest ≠ [] →
      outer = [] ∨ outer ∈ Settings.sections t) : p.Opens names := by
  intro outer rest heq hne w hw
  obtain rfl | houter := hnames outer rest heq hne
  · obtain ⟨layer, -, hp⟩ := List.mem_flatMap.mp hp
    obtain rfl := Option.some.inj hw
    exact Layer.isTable_of_mem_placements hp
  · exact isTable_of_mem_given hfits houter (mem_given hp hw)

theorem isTable_ofLayers (hnames : names = [] ∨ names ∈ Settings.sections t) :
    ∀ v, (ofLayers layers).at? names = some v → v.IsTable := by
  have hopens : ∀ p ∈ layers.flatMap Layer.placements, p.Opens names := by
    intro p hp
    refine opens_of_mem (t := t) hfits hp fun outer rest heq _ => ?_
    obtain rfl | hnames := hnames
    · exact .inl (List.append_eq_nil_iff.mp heq.symm).1
    · exact Settings.mem_sections_of_prefix hnames ⟨rest, heq.symm⟩
  have htables : ∀ p ∈ layers.flatMap Layer.placements, ∀ v,
      p.sets? names = some v → v.IsTable := by
    intro p hp v hv
    obtain rfl | hnames := hnames
    · obtain rfl := Option.some.inj hv
      obtain ⟨layer, -, hp⟩ := List.mem_flatMap.mp hp
      exact Layer.isTable_of_mem_placements hp
    · exact isTable_of_mem_given hfits hnames (mem_given hp hv)
  -- Below all layers there is one table without members.
  have hempty : ∀ v, ((some (Value.table [])).bind fun b => b.at? names) = some v → v.IsTable := by
    intro v hv
    cases names with
    | nil =>
        obtain rfl := Option.some.inj hv
        trivial
    | cons name names => cases hv
  have hlaid := isTable_of_laid (fun p => isLeaf_of_mem) hopens htables hempty
  rw [laid_flatMap_placements] at hlaid
  exact hlaid

theorem isSectioned_ofLayers : Settings.IsSectioned (ofLayers layers) where
  isTable := isTable_ofLayers hfits (t := "") (.inl rfl) _ rfl
  isTidy := by
    have hempty : ∀ b, some (Value.table []) = some b → b.IsTidy := by
      intro b hb
      obtain rfl := Option.some.inj hb
      exact Value.isTidy_of_members_eq_nil rfl
    exact isTidy_of_laid (fun p => isLeaf_of_mem) hempty _ (laid_flatMap_placements layers)
  sections t names hnames := isTable_ofLayers hfits (.inr hnames)

/-- What is found where a setting stands. -/
theorem gathers_ofLayers (hf : f ∈ Settings.settings t) :
    Gathers (given layers f.names) ((ofLayers layers).at? f.names) := by
  have hstands := Settings.standsIn_of_mem hf
  have hopens : ∀ p ∈ layers.flatMap Layer.placements, p.Opens f.names := fun p hp =>
    opens_of_mem hfits hp fun outer rest heq hne => hstands.mem_sections heq hne
  have hsimple : ∀ p ∈ layers.flatMap Layer.placements, ∀ v,
      p.sets? f.names = some v → v.IsSimple := by
    intro p hp v hv
    obtain ⟨x, hx⟩ := exists_convert_of_mem_given hfits hf (mem_given hp hv)
    by_cases hformat : f = Settings.format
    · subst hformat
      exact isSimple_of_logFormat hx
    · exact .inl (hstands.plain hformat _ v x hx)
  have hempty : Gathers [] ((some (Value.table [])).bind fun b => b.at? f.names) := by
    obtain ⟨names, -, name, hname⟩ := hstands.exists_section
    have hnone : (Value.table []).at? f.names = none := by
      rw [hname]
      cases names <;> rfl
    rw [Option.bind_some, hnone]
    exact gathers_nil
  have hlaid := gathers_laid (fun p => isLeaf_of_mem) hopens hsimple hempty
  rw [laid_flatMap_placements, List.nil_append, filterMap_sets?] at hlaid
  exact hlaid

/-- Without a clash the names that are joined are one name. -/
theorem found_format (hclash : ¬FormatsClash layers) {name : String} {x : Value}
    (hlast : (given layers Settings.format.names).getLast? = some (.table [(name, x)])) :
    ∃ y, (ofLayers layers).at? Settings.format.names = some (.table [(name, y)]) := by
  have hgathers := gathers_ofLayers hfits (Settings.mem_settings_format "")
  obtain ⟨ms, hfound, hname⟩ := hgathers.named name x hlast
  have hnodup := (isSectioned_ofLayers hfits).isTidy _ _ hfound
  have hall : ∀ name' ∈ ms.map Prod.fst, name' = name := by
    intro name' hname'
    by_contra hne
    refine hclash ⟨name', ?_, name, ?_, hne⟩
    · exact (hgathers.names name').mpr (hfound ▸ hname')
    · exact (hgathers.names name).mpr (hfound ▸ hname)
  obtain ⟨y, rfl⟩ := Named.exists_eq_singleton hnodup hname hall
  exact ⟨y, hfound⟩

/-- What is found is read as the last value that was given. -/
theorem found_ofLayers (hf : f ∈ Settings.settings t)
    (hclash : f = Settings.format → ¬FormatsClash layers) :
    match (given layers f.names).getLast? with
    | some w => ∃ v, (ofLayers layers).at? f.names = some v ∧ f.convert v = f.convert w
    | none => (ofLayers layers).at? f.names = none := by
  have hgathers := gathers_ofLayers hfits hf
  cases hlast : (given layers f.names).getLast? with
  | none => exact hgathers.nothing (List.getLast?_eq_none_iff.mp hlast)
  | some w =>
      obtain ⟨x, hx⟩ := exists_convert_of_mem_given hfits hf (List.mem_of_getLast? hlast)
      -- Only the format can be given as a table, to which others may have been joined.
      by_cases hformat : f = Settings.format
      · subst hformat
        obtain hplain | ⟨name, y, rfl⟩ := isSimple_of_logFormat hx
        · exact ⟨w, hgathers.plain w hlast hplain, rfl⟩
        · obtain ⟨z, hfound⟩ := found_format hfits (hclash rfl) hlast
          exact ⟨_, hfound, rfl⟩
      · have hplain := (Settings.standsIn_of_mem hf).plain hformat _ w x hx
        exact ⟨w, hgathers.plain w hlast hplain, rfl⟩

theorem canTake_ofLayers (hf : f ∈ Settings.settings t)
    (hclash : f = Settings.format → ¬FormatsClash layers) : f.CanTake .top (ofLayers layers) := by
  intro v hv
  have hfound := found_ofLayers hfits hf hclash
  cases hlast : (given layers f.names).getLast? with
  | none =>
      rw [hlast] at hfound
      cases hfound.symm.trans hv
  | some w =>
      rw [hlast] at hfound
      obtain ⟨v', hv', hconvert⟩ := hfound
      obtain rfl := Option.some.inj (hv'.symm.trans hv)
      obtain ⟨x, hx⟩ := exists_convert_of_mem_given hfits hf (List.mem_of_getLast? hlast)
      exact ⟨x, hconvert.trans hx⟩

/-- Without a clash there are settings, each from the last value that was given. -/
theorem exists_settings (hclash : ¬FormatsClash layers) :
    ∃ s, (ofLayers layers).settings = .ok s ∧
      s.ComesFrom fun names => (given layers names).getLast? := by
  have hsectioned := isSectioned_ofLayers hfits
  obtain ⟨s, hs⟩ := Settings.readsAs.exists_ok .top _ hsectioned fun f ⟨t, hf⟩ =>
    canTake_ofLayers hfits hf fun _ => hclash
  refine ⟨s, hs, fun t f hf => ?_⟩
  have htakes := Settings.readsAs.takes .top _ s hsectioned hs f ⟨t, hf⟩
  have hfound := found_ofLayers hfits hf fun _ => hclash
  rw [Setting.Takes, Takes] at htakes
  dsimp only
  cases hlast : (given layers f.names).getLast? with
  | none =>
      rw [hlast] at hfound
      rw [hfound] at htakes
      exact htakes
  | some w =>
      rw [hlast] at hfound
      obtain ⟨v, hv, hconvert⟩ := hfound
      rw [hv] at htakes
      exact hconvert.symm.trans htakes

/-- Nothing else can be wrong, so a clash is what the error is about. -/
theorem settings_of_clash (hclash : FormatsClash layers) :
    (ofLayers layers).settings = .error .noFormat := by
  have hgathers := gathers_ofLayers hfits (Settings.mem_settings_format "")
  obtain ⟨a, ha, b, hb, hne⟩ := hclash
  have ha := (hgathers.names a).mp ha
  have hb := (hgathers.names b).mp hb
  cases hfound : (ofLayers layers).at? Settings.format.names with
  | none =>
      rw [hfound] at ha
      cases ha
  | some v =>
      rw [hfound] at ha hb
      refine Settings.read_eq_error (isSectioned_ofLayers hfits) ?_ hfound
        (logFormat_eq_noFormat _ ha hb hne)
      intro t f hf hname
      exact canTake_ofLayers hfits hf fun heq => absurd (congrArg Setting.names heq) hname

end

end Config

end Courier

import Courier.Proofs.Config.Lookup
import Mathlib.Data.List.Forall2

/-! # Settings out of a configuration

A setting has the names under which it stands, a way to read its value, and the
part of the settings that it becomes. A configuration in which all records are
tables is read setting by setting, and what is absent is left as it is by
default, whether it is a single value or a whole record.
-/

namespace Courier.Config

/-- One setting of a record `α`. -/
structure Setting (α : Type) where
  {Val : Type}
  /-- The names that lead to it from the record. -/
  names : List String
  read : Located → Except Error Val
  get : α → Val

variable {α β : Type}

/-- The place to which names lead. -/
def Place.under (place : Place) (names : List String) : Place :=
  names.foldl .member place

/-- What is taken as `x` from a configuration at a place: what stands under the names, or
else the default. -/
def Takes (place : Place) (config : Value) (names : List String)
    (read : Located → Except Error α) (default x : α) : Prop :=
  match config.at? names with
  | some v => read ⟨place.under names, v⟩ = .ok x
  | none => x = default

/-- What stands under the names can be read. -/
def CanTake (place : Place) (config : Value) (names : List String)
    (read : Located → Except Error α) : Prop :=
  ∀ v, config.at? names = some v → ∃ x, read ⟨place.under names, v⟩ = .ok x

namespace Setting

/-- The setting of a record that is a part of another, under these names. -/
def within (names : List String) (part : β → α) (f : Setting α) : Setting β :=
  ⟨names ++ f.names, f.read, fun b => f.get (part b)⟩

/-- What a value is read as if it stands under the names of the setting. -/
def convert (f : Setting α) (v : Value) : Except Error f.Val :=
  f.read ⟨Place.top.under f.names, v⟩

def Takes (f : Setting α) (place : Place) (config : Value) (default a : α) : Prop :=
  Config.Takes place config f.names f.read (f.get default) (f.get a)

def CanTake (f : Setting α) (place : Place) (config : Value) : Prop :=
  Config.CanTake place config f.names f.read

end Setting

/-- Values with a certain shape are read setting by setting. -/
structure ReadsAs (read : Located → Except Error α) (default : α) (shape : Value → Prop)
    (settings : Setting α → Prop) : Prop where
  exists_ok : ∀ place v, shape v → (∀ f, settings f → f.CanTake place v) →
    ∃ a, read ⟨place, v⟩ = .ok a
  takes : ∀ place v a, shape v → read ⟨place, v⟩ = .ok a →
    ∀ f, settings f → f.Takes place v default a

variable {place : Place} {config : Value} {ms : Members} {name : String}
  {absent : String → Error} {read : Located → Except Error α} {default x : α}

/-! ## Fields of a table -/

/-- The parts of a record that a table gives. -/
def partsOf (place : Place) (ms : Members) (absent : String → Error) : Parts Located Error :=
  ⟨ms.map fun m => (m.1, ⟨.member place m.1, m.2⟩), true, absent⟩

theorem find?_partsOf (place : Place) (ms : Members) (absent : String → Error) (name : String) :
    ((partsOf place ms absent).find? name).map Prod.snd =
      (ms.get? name).map fun v => ⟨.member place name, v⟩ := by
  have hgo : ∀ i, (Parts.find?.go name i (partsOf place ms absent).entries).map Prod.snd =
      (ms.get? name).map fun v => (⟨.member place name, v⟩ : Located) := by
    induction ms with
    | nil => exact fun _ => rfl
    | cons m rest ih =>
        intro i
        obtain ⟨name', v⟩ := m
        by_cases h : name' = name
        · simp [partsOf, Parts.find?.go, Named.get?, h]
        · have hrest := ih (i + 1)
          simp only [partsOf, Named.get?] at hrest
          simp [partsOf, Parts.find?.go, Named.get?, h, hrest]
  exact hgo 0

theorem read_field_eq_ok_iff {placed : Option α} :
    (Record.field name read (some default) placed).read (partsOf place ms absent) = .ok x ↔
      Takes place (.table ms) [name] read default x := by
  have hfind := find?_partsOf place ms absent name
  rw [Takes, Value.at?_singleton, Record.field]
  cases hget : ms.get? name with
  | none =>
      rw [hget, Option.map_none, Option.map_eq_none_iff] at hfind
      have hnamed : (partsOf place ms absent).named = true := rfl
      simp only [hfind, hnamed, if_true]
      exact ⟨fun h => (Except.ok.inj h).symm, fun h => h ▸ rfl⟩
  | some v =>
      rw [hget, Option.map_some] at hfind
      obtain ⟨⟨i, s⟩, hs, rfl⟩ := Option.map_eq_some_iff.mp hfind
      simp only [hs, Place.under, List.foldl_cons, List.foldl_nil]
      cases read ⟨place.member name, v⟩ with
      | ok a => simp
      | error e => simp

theorem read_map_eq_ok_iff {parts : Parts Located Error} {f : α → β}
    {r : Record Located Error α} {b : β} :
    (f <$> r).read parts = .ok b ↔ ∃ a, r.read parts = .ok a ∧ f a = b := by
  change (r.map f).read parts = .ok b ↔ _
  cases hr : r.read parts with
  | ok a => simp [Record.map, hr]
  | error e => simp [Record.map, hr]

theorem read_seq_eq_ok_iff {parts : Parts Located Error} {f : Record Located Error (α → β)}
    {r : Record Located Error α} {b : β} :
    (f <*> r).read parts = .ok b ↔
      ∃ g a, f.read parts = .ok g ∧ r.read parts = .ok a ∧ g a = b := by
  change (f.apply r).read parts = .ok b ↔ _
  cases hf : f.read parts with
  | ok g => cases hr : r.read parts <;> simp [Record.apply, hf, hr]
  | error e => cases hr : r.read parts <;> simp [Record.apply, hf, hr]

theorem record_eq_ok_iff {title : String} {r : Record Located Error α} {a : α} :
    Located.record title r ⟨place, .table ms⟩ = .ok a ↔
      r.read (partsOf place ms fun _ => .tooShort ms.length title r.names.length) = .ok a := by
  change r.run (partsOf place ms fun _ => .tooShort ms.length title r.names.length) none = .ok a ↔ _
  cases hr : r.read (partsOf place ms fun _ => .tooShort ms.length title r.names.length) with
  | ok a' => simp [Record.run, hr]
  | error e => simp [Record.run, hr]

theorem exists_read_map_iff {parts : Parts Located Error} {f : α → β}
    {r : Record Located Error α} :
    (∃ b, (f <$> r).read parts = .ok b) ↔ ∃ a, r.read parts = .ok a := by
  simp only [read_map_eq_ok_iff]
  exact ⟨fun ⟨_, a, ha, _⟩ => ⟨a, ha⟩, fun ⟨a, ha⟩ => ⟨_, a, ha, rfl⟩⟩

theorem exists_read_seq_iff {parts : Parts Located Error} {f : Record Located Error (α → β)}
    {r : Record Located Error α} :
    (∃ b, (f <*> r).read parts = .ok b) ↔
      (∃ g, f.read parts = .ok g) ∧ ∃ a, r.read parts = .ok a := by
  simp only [read_seq_eq_ok_iff]
  exact ⟨fun ⟨_, g, a, hg, ha, _⟩ => ⟨⟨g, hg⟩, a, ha⟩,
    fun ⟨⟨g, hg⟩, a, ha⟩ => ⟨_, g, a, hg, ha, rfl⟩⟩

theorem exists_read_field_iff {placed : Option α} :
    (∃ x, (Record.field name read (some default) placed).read (partsOf place ms absent) = .ok x) ↔
      CanTake place (.table ms) [name] read := by
  simp only [read_field_eq_ok_iff]
  rw [CanTake]
  cases hat : (Value.table ms).at? [name] with
  | none => simp [Takes, hat]
  | some v => simp [Takes, hat]

/-- If only the last field cannot be read, the record fails as that field does. -/
theorem record_eq_error {title : String} {f : Record Located Error (α → β)} {v : Value}
    {placed : Option α} {e : Error} (hget : ms.get? name = some v)
    (hread : read ⟨.member place name, v⟩ = .error e)
    (hfirst : ∀ absent, ∃ g, f.read (partsOf place ms absent) = .ok g) :
    Located.record title (f <*> .field name read (some default) placed) ⟨place, .table ms⟩ =
      .error e := by
  let absent : String → Error := fun _ => .tooShort ms.length title (f.names ++ [name]).length
  obtain ⟨g, hg⟩ := hfirst absent
  have hfind := find?_partsOf place ms absent name
  rw [hget, Option.map_some] at hfind
  obtain ⟨⟨i, s⟩, hs, rfl⟩ := Option.map_eq_some_iff.mp hfind
  have hlast : (Record.field name read (some default) placed).read (partsOf place ms absent) =
      .error ⟨i, e⟩ := by
    simp only [Record.field, hs, hread]
  change (f.apply (.field name read (some default) placed)).run (partsOf place ms absent) none = _
  simp only [Record.run, Record.apply, hg, hlast]

/-- A record is read from a table field by field. -/
structure ConsistsOf (r : Record Located Error α) (default : α) (fields : List (Setting α)) :
    Prop where
  exists_ok : ∀ place ms absent, (∀ f ∈ fields, f.CanTake place (.table ms)) →
    ∃ a, r.read (partsOf place ms absent) = .ok a
  takes : ∀ place ms absent a, r.read (partsOf place ms absent) = .ok a →
    ∀ f ∈ fields, f.Takes place (.table ms) default a

theorem ConsistsOf.readsAs {r : Record Located Error α} {fields : List (Setting α)}
    (h : ConsistsOf r default fields) (title : String) :
    ReadsAs (Located.record title r) default Value.IsTable (· ∈ fields) where
  exists_ok place v htable hcan := by
    obtain ⟨ms, rfl⟩ := htable.exists_eq
    simp only [record_eq_ok_iff]
    exact h.exists_ok place ms _ hcan
  takes place v a htable hread := by
    obtain ⟨ms, rfl⟩ := htable.exists_eq
    exact h.takes place ms _ a (record_eq_ok_iff.mp hread)

/-! ## Records in records -/

namespace ReadsAs

variable {shape : Value → Prop} {settings : Setting α → Prop} {default' b : β}

/-- A record that is a field of another can be read if its own settings can. -/
theorem canTake (h : ReadsAs read default shape settings) (part : β → α)
    (hshape : ∀ v, config.at? [name] = some v → shape v)
    (hcan : ∀ f, settings f → (f.within [name] part).CanTake place config) :
    Setting.CanTake ⟨[name], read, part⟩ place config := by
  intro v hv
  refine h.exists_ok (place.under [name]) v (hshape v hv) fun f hf w hw => ?_
  refine hcan f hf w ?_
  exact (Value.at?_append_of_eq hv f.names).trans hw

/-- Its settings are settings of the other, under one name more. -/
theorem takes_within (h : ReadsAs read default shape settings) (part : β → α)
    (hdefault : part default' = default) (hshape : ∀ v, config.at? [name] = some v → shape v)
    (htakes : Setting.Takes ⟨[name], read, part⟩ place config default' b) :
    ∀ f, settings f → (f.within [name] part).Takes place config default' b := by
  intro f hf
  have hat : config.at? ([name] ++ f.names) = (config.at? [name]).bind fun v => v.at? f.names :=
    config.at?_append [name] f.names
  change Config.Takes place config ([name] ++ f.names) _ _ _
  rw [Takes, hat]
  rw [Setting.Takes, Takes] at htakes
  cases hv : config.at? [name] with
  | none =>
      rw [hv] at htakes
      exact congrArg f.get htakes
  | some v =>
      rw [hv] at htakes
      have hpart := h.takes (place.under [name]) v (part b) (hshape v hv) htakes f hf
      rw [← hdefault] at hpart
      exact hpart

end ReadsAs

/-! ## Free names -/

theorem bind_eq_ok_iff {γ δ ε : Type} {x : Except ε γ} {f : γ → Except ε δ} {d : δ} :
    (x >>= f) = .ok d ↔ ∃ c, x = .ok c ∧ f c = .ok d := by
  cases x <;> simp [bind, Except.bind]

theorem map_eq_ok_iff {γ δ ε : Type} {x : Except ε γ} {f : γ → δ} {d : δ} :
    x.map f = .ok d ↔ ∃ c, x = .ok c ∧ f c = d := by
  cases x <;> simp [Except.map]

theorem mapM_eq_ok_iff {γ δ ε : Type} {f : γ → Except ε δ} {xs : List γ} {ys : List δ} :
    xs.mapM f = .ok ys ↔ List.Forall₂ (fun x y => f x = .ok y) xs ys := by
  induction xs generalizing ys with
  | nil =>
      rw [List.mapM_nil, List.forall₂_nil_left_iff]
      exact ⟨fun h => (Except.ok.inj h).symm, fun h => h ▸ rfl⟩
  | cons x xs ih =>
      rw [List.mapM_cons, List.forall₂_cons_left_iff, bind_eq_ok_iff]
      simp only [bind_eq_ok_iff, ih]
      constructor
      · rintro ⟨y, hy, rest, hrest, hys⟩
        exact ⟨y, rest, hy, hrest, (Except.ok.inj hys).symm⟩
      · rintro ⟨y, rest, hy, hrest, rfl⟩
        exact ⟨y, hy, rest, hrest, rfl⟩

theorem exists_forall₂ {γ δ : Type} {R : γ → δ → Prop} {xs : List γ}
    (h : ∀ x ∈ xs, ∃ y, R x y) : ∃ ys, List.Forall₂ R xs ys := by
  induction xs with
  | nil => exact ⟨[], .nil⟩
  | cons x xs ih =>
      obtain ⟨⟨y, hy⟩, hrest⟩ := List.forall_mem_cons.mp h
      obtain ⟨ys, hys⟩ := ih hrest
      exact ⟨y :: ys, .cons hy hys⟩

/-- Names with values, each read from the member of that name. -/
def ReadEach (place : Place) (read : Located → Except Error α) (ms : Members)
    (entries : Named α) : Prop :=
  List.Forall₂ (fun m e => e.1 = m.1 ∧ read ⟨.member place m.1, m.2⟩ = .ok e.2) ms entries

theorem dictionary_eq_ok_iff {entries : Named α} :
    Located.dictionary read ⟨place, .table ms⟩ = .ok entries ↔ ReadEach place read ms entries := by
  have hone : ∀ (m : String × Value) (e : String × α),
      (read ⟨.member place m.1, m.2⟩).map (m.1, ·) = .ok e ↔
        e.1 = m.1 ∧ read ⟨.member place m.1, m.2⟩ = .ok e.2 := by
    intro m e
    cases read ⟨.member place m.1, m.2⟩ with
    | ok a => simp [Except.map, Prod.ext_iff, eq_comm]
    | error e' => simp [Except.map]
  rw [Located.dictionary, mapM_eq_ok_iff, ReadEach]
  exact ⟨.imp fun m e => (hone m e).mp, .imp fun m e => (hone m e).mpr⟩

theorem exists_dictionary_iff :
    (∃ entries, Located.dictionary read ⟨place, .table ms⟩ = .ok entries) ↔
      ∀ m ∈ ms, ∃ x, read ⟨.member place m.1, m.2⟩ = .ok x := by
  simp only [dictionary_eq_ok_iff]
  constructor
  · rintro ⟨entries, hread⟩ m hm
    induction hread with
    | nil => cases hm
    | cons hfirst _ ih =>
        obtain rfl | hm := List.mem_cons.mp hm
        · exact ⟨_, hfirst.2⟩
        · exact ih hm
  · intro h
    refine exists_forall₂ fun m hm => ?_
    obtain ⟨x, hx⟩ := h m hm
    exact ⟨(m.1, x), rfl, hx⟩

/-- Of an entry the value of the member of its name is read. -/
theorem ReadEach.get? {entries : Named α} (h : ReadEach place read ms entries) (name : String) :
    match ms.get? name with
    | some v => ∃ x, entries.get? name = some x ∧ read ⟨.member place name, v⟩ = .ok x
    | none => entries.get? name = none := by
  induction h with
  | nil => rfl
  | @cons m e ms entries hfirst _ ih =>
      obtain ⟨name', v⟩ := m
      obtain ⟨name'', x⟩ := e
      obtain ⟨hname, hread⟩ : name'' = name' ∧ _ := hfirst
      subst hname
      by_cases heq : name'' = name
      · subst heq
        simpa [Named.get?] using hread
      · simpa [Named.get?, heq] using ih

theorem ReadEach.map_fst {entries : Named α} (h : ReadEach place read ms entries) :
    entries.map Prod.fst = ms.map Prod.fst := by
  induction h with
  | nil => rfl
  | cons hfirst _ ih => rw [List.map_cons, List.map_cons, hfirst.1, ih]

end Courier.Config

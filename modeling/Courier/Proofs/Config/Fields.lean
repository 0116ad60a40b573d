import Courier.Proofs.Config.Sections
import Mathlib.Data.List.Infix

/-! # Where settings stand

Each setting stands in a section and is a single value, neither a table nor an array.
The format of the log is the exception, as it may be a table with one name.
-/

namespace Courier

open Config

namespace Config

/-- Neither tables nor arrays are read. -/
def ReadsPlain {α : Type} (read : Located → Except Error α) : Prop :=
  ∀ place v x, read ⟨place, v⟩ = .ok x → v.IsPlain

section

variable {α : Type} {read : Located → Except Error α}

theorem readsPlain_of_rejects (harray : ∀ place vs, ∃ e, read ⟨place, .array vs⟩ = .error e)
    (htable : ∀ place ms, ∃ e, read ⟨place, .table ms⟩ = .error e) : ReadsPlain read := by
  intro place v x h
  cases v with
  | array vs =>
      obtain ⟨e, he⟩ := harray place vs
      cases he.symm.trans h
  | table ms =>
      obtain ⟨e, he⟩ := htable place ms
      cases he.symm.trans h
  | _ => trivial

theorem readsPlain_bool : ReadsPlain Located.bool :=
  readsPlain_of_rejects (fun _ _ => ⟨_, rfl⟩) fun _ _ => ⟨_, rfl⟩

theorem readsPlain_uint64 : ReadsPlain Located.uint64 :=
  readsPlain_of_rejects (fun _ _ => ⟨_, rfl⟩) fun _ _ => ⟨_, rfl⟩

theorem readsPlain_uint32 : ReadsPlain Located.uint32 :=
  readsPlain_of_rejects (fun _ _ => ⟨_, rfl⟩) fun _ _ => ⟨_, rfl⟩

theorem readsPlain_real : ReadsPlain Located.real :=
  readsPlain_of_rejects (fun _ _ => ⟨_, rfl⟩) fun _ _ => ⟨_, rfl⟩

theorem readsPlain_string : ReadsPlain Located.string :=
  readsPlain_of_rejects (fun _ _ => ⟨_, rfl⟩) fun _ _ => ⟨_, rfl⟩

theorem ReadsPlain.option (h : ReadsPlain read) : ReadsPlain (Located.option read) := by
  intro place v x hread
  cases v with
  | null => trivial
  | _ =>
      obtain ⟨y, hy, -⟩ := map_eq_ok_iff.mp hread
      exact h place _ y hy

theorem isSimple_of_logFormat {place : Place} {v : Value} {format : LogFormat}
    (h : Located.logFormat ⟨place, v⟩ = .ok format) : v.IsSimple := by
  cases v with
  | string => exact .inl trivial
  | table ms =>
      match ms with
      | [(name, x)] => exact .inr ⟨name, x, rfl⟩
      | [] => cases h
      | _ :: _ :: _ => cases h
  | _ => cases h

theorem logFormat_eq_noFormat (place : Place) {v : Value} {a b : String}
    (ha : a ∈ v.members.map Prod.fst) (hb : b ∈ v.members.map Prod.fst) (hne : a ≠ b) :
    Located.logFormat ⟨place, v⟩ = .error .noFormat := by
  cases v with
  | table ms =>
      match ms with
      | [] => cases ha
      | [m] => exact absurd ((List.mem_singleton.mp ha).trans (List.mem_singleton.mp hb).symm) hne
      | _ :: _ :: _ => rfl
  | _ => cases ha

end

/-- A setting by one name that is neither a table nor an array. -/
structure Setting.IsField {α : Type} (f : Setting α) : Prop where
  exists_name : ∃ name, f.names = [name]
  plain : ReadsPlain f.read

end Config

theorem TopicOverride.isField_of_mem : ∀ f ∈ settings, f.IsField := by
  simp only [settings, List.forall_mem_cons]
  exact ⟨⟨⟨_, rfl⟩, readsPlain_uint64.option⟩, ⟨⟨_, rfl⟩, readsPlain_uint64.option⟩,
    ⟨⟨_, rfl⟩, readsPlain_uint64.option⟩, ⟨⟨_, rfl⟩, readsPlain_uint32.option⟩,
    List.forall_mem_nil _⟩

theorem PipelineSettings.isField_of_mem_values : ∀ f ∈ values, f.IsField := by
  simp only [values, List.forall_mem_cons]
  exact ⟨⟨⟨_, rfl⟩, readsPlain_uint64⟩, ⟨⟨_, rfl⟩, readsPlain_uint64⟩,
    ⟨⟨_, rfl⟩, readsPlain_uint64⟩, ⟨⟨_, rfl⟩, readsPlain_uint32⟩, ⟨⟨_, rfl⟩, readsPlain_uint64⟩,
    ⟨⟨_, rfl⟩, readsPlain_uint64⟩, List.forall_mem_nil _⟩

theorem RateLimit.isField_of_mem : ∀ f ∈ settings, f.IsField := by
  simp only [settings, List.forall_mem_cons]
  exact ⟨⟨⟨_, rfl⟩, readsPlain_bool⟩, ⟨⟨_, rfl⟩, readsPlain_uint32⟩,
    ⟨⟨_, rfl⟩, readsPlain_uint64⟩, ⟨⟨_, rfl⟩, readsPlain_uint64⟩, List.forall_mem_nil _⟩

theorem ShutdownSettings.isField_of_mem : ∀ f ∈ settings, f.IsField := by
  simp only [settings, List.forall_mem_cons]
  exact ⟨⟨⟨_, rfl⟩, readsPlain_uint64⟩, ⟨⟨_, rfl⟩, readsPlain_uint64⟩, List.forall_mem_nil _⟩

theorem SimulationSettings.isField_of_mem : ∀ f ∈ settings, f.IsField := by
  simp only [settings, List.forall_mem_cons]
  exact ⟨⟨⟨_, rfl⟩, readsPlain_uint64⟩, ⟨⟨_, rfl⟩, readsPlain_uint64⟩,
    ⟨⟨_, rfl⟩, readsPlain_uint64⟩, ⟨⟨_, rfl⟩, readsPlain_real⟩, List.forall_mem_nil _⟩

namespace Settings

/-- The format of the log, the one setting that may be a table. -/
def format : Setting Settings :=
  ⟨["logging", "format"], Located.logFormat, fun s => s.logging.format⟩

theorem mem_settings_format (t : Topic) : format ∈ settings t :=
  mem_settings_logging (List.mem_cons_of_mem _ List.mem_cons_self) t

/-- A setting stands in a section, and its value is no table unless it is the format of
the log. -/
structure StandsIn (t : Topic) (f : Setting Settings) : Prop where
  exists_section : ∃ names ∈ sections t, ∃ name, f.names = names ++ [name]
  plain : f ≠ format → ReadsPlain f.read

theorem standsIn_within {α : Type} {g : Setting α} {t : Topic} {names : List String}
    (hnames : names ∈ sections t) (part : Settings → α) (h : g.IsField) :
    StandsIn t (g.within names part) where
  exists_section := by
    obtain ⟨name, hname⟩ := h.exists_name
    exact ⟨names, hnames, name, congrArg (names ++ ·) hname⟩
  plain _ := h.plain

theorem standsIn_of_mem {t : Topic} {f : Setting Settings} (hf : f ∈ settings t) :
    StandsIn t f := by
  obtain ⟨g, hg, rfl⟩ | ⟨g, hg, rfl⟩ | ⟨g, hg, rfl⟩ | ⟨g, hg, rfl⟩ | ⟨g, hg, rfl⟩ :=
    mem_settings_iff.mp hf
  · obtain hg | hg := List.mem_append.mp hg
    · exact standsIn_within (by simp [sections]) pipeline
        (PipelineSettings.isField_of_mem_values g hg)
    · obtain ⟨o, ho, rfl⟩ := List.mem_map.mp hg
      have htopic : ["pipeline", "topics", t] ∈ sections t := by simp [sections]
      exact standsIn_within htopic (fun s => s.pipeline.override t)
        (TopicOverride.isField_of_mem o ho)
  · exact standsIn_within (by simp [sections]) rateLimit (RateLimit.isField_of_mem g hg)
  · exact standsIn_within (by simp [sections]) shutdown (ShutdownSettings.isField_of_mem g hg)
  · exact standsIn_within (by simp [sections]) simulation (SimulationSettings.isField_of_mem g hg)
  · have hlogging : ["logging"] ∈ sections t := by simp [sections]
    simp only [LoggingSettings.settings, List.mem_cons, List.not_mem_nil, or_false] at hg
    obtain rfl | rfl := hg
    · exact standsIn_within hlogging logging ⟨⟨_, rfl⟩, readsPlain_string⟩
    · exact ⟨⟨_, hlogging, "format", rfl⟩, fun hne => absurd rfl hne⟩

/-- Names in front of a section lead to sections. -/
theorem mem_sections_of_prefix {t : Topic} {names outer : List String}
    (hnames : names ∈ sections t) (hinit : outer <+: names) :
    outer = [] ∨ outer ∈ sections t := by
  rw [← List.mem_inits] at hinit
  simp only [sections, List.mem_cons, List.not_mem_nil, or_false] at hnames ⊢
  obtain rfl | rfl | rfl | rfl | rfl | rfl | rfl := hnames <;>
    simp only [List.inits, List.map_cons, List.map_nil, List.mem_cons, List.not_mem_nil,
      or_false] at hinit <;>
    tauto

theorem StandsIn.names_ne_nil {t : Topic} {f : Setting Settings} (h : StandsIn t f) :
    f.names ≠ [] := by
  obtain ⟨names, -, name, hname⟩ := h.exists_section
  rw [hname]
  exact List.append_ne_nil_of_right_ne_nil names (List.cons_ne_nil name [])

/-- The same for the names in front of a setting. -/
theorem StandsIn.mem_sections {t : Topic} {f : Setting Settings} (h : StandsIn t f)
    {outer rest : List String} (heq : f.names = outer ++ rest) (hne : rest ≠ []) :
    outer = [] ∨ outer ∈ sections t := by
  obtain ⟨names, hnames, name, hname⟩ := h.exists_section
  have hinit : outer <+: names ++ [name] := ⟨rest, heq.symm.trans hname⟩
  obtain hall | hinit := List.prefix_concat_iff.mp hinit
  · rw [hname, hall] at heq
    exact absurd (List.append_cancel_left (heq.symm.trans (List.append_nil _).symm)) hne
  · exact mem_sections_of_prefix hnames hinit

end Settings

end Courier

import Courier.Proofs.Config.Reading

/-! # The settings one by one

Every setting of every section, with the names under which it stands. A
configuration whose sections are tables is read setting by setting: what is absent
has its default, at whatever depth it is missing.
-/

namespace Courier

open Config

namespace TopicOverride

def settings : List (Setting TopicOverride) := [
  ⟨["queue_capacity"], Located.option Located.uint64, queueCapacity⟩,
  ⟨["dlq_capacity"], Located.option Located.uint64, dlqCapacity⟩,
  ⟨["worker_count"], Located.option Located.uint64, workerCount⟩,
  ⟨["retry_limit"], Located.option Located.uint32, retryLimit⟩]

theorem ext_settings {a b : TopicOverride} (h : ∀ f ∈ settings, f.get a = f.get b) : a = b := by
  cases a
  cases b
  simpa [settings] using h

theorem consistsOf : ConsistsOf (fields encoding) unset settings where
  exists_ok place ms absent hcan := by
    simp only [settings, List.forall_mem_cons] at hcan
    obtain ⟨h₁, h₂, h₃, h₄, -⟩ := hcan
    simp only [fields, encoding, Record.nullable, exists_read_seq_iff, exists_read_map_iff,
      exists_read_field_iff]
    exact ⟨⟨⟨h₁, h₂⟩, h₃⟩, h₄⟩
  takes place ms absent o hread := by
    simp only [fields, encoding, Record.nullable, read_seq_eq_ok_iff, read_map_eq_ok_iff,
      read_field_eq_ok_iff] at hread
    obtain ⟨_, _, ⟨_, _, ⟨_, _, ⟨_, h₁, rfl⟩, h₂, rfl⟩, h₃, rfl⟩, h₄, rfl⟩ := hread
    simp only [settings, List.forall_mem_cons]
    exact ⟨h₁, h₂, h₃, h₄, List.forall_mem_nil _⟩

theorem readsAs : ReadsAs (read encoding) unset Value.IsTable (· ∈ settings) :=
  consistsOf.readsAs "TopicOverride"

end TopicOverride

namespace RateLimit

def settings : List (Setting RateLimit) := [
  ⟨["enabled"], Located.bool, enabled⟩,
  ⟨["limit"], Located.uint32, limit⟩,
  ⟨["window_seconds"], Located.uint64, windowSeconds⟩,
  ⟨["cleanup_interval_seconds"], Located.uint64, cleanupSeconds⟩]

theorem ext_settings {a b : RateLimit} (h : ∀ f ∈ settings, f.get a = f.get b) : a = b := by
  cases a
  cases b
  simpa [settings] using h

theorem consistsOf : ConsistsOf (fields encoding) default settings where
  exists_ok place ms absent hcan := by
    simp only [settings, List.forall_mem_cons] at hcan
    obtain ⟨h₁, h₂, h₃, h₄, -⟩ := hcan
    simp only [fields, encoding, Record.withDefault, exists_read_seq_iff, exists_read_map_iff,
      exists_read_field_iff]
    exact ⟨⟨⟨h₁, h₂⟩, h₃⟩, h₄⟩
  takes place ms absent limits hread := by
    simp only [fields, encoding, Record.withDefault, read_seq_eq_ok_iff, read_map_eq_ok_iff,
      read_field_eq_ok_iff] at hread
    obtain ⟨_, _, ⟨_, _, ⟨_, _, ⟨_, h₁, rfl⟩, h₂, rfl⟩, h₃, rfl⟩, h₄, rfl⟩ := hread
    simp only [settings, List.forall_mem_cons]
    exact ⟨h₁, h₂, h₃, h₄, List.forall_mem_nil _⟩

theorem readsAs : ReadsAs (read encoding) default Value.IsTable (· ∈ settings) :=
  consistsOf.readsAs "RateLimitConfig"

end RateLimit

namespace ShutdownSettings

def settings : List (Setting ShutdownSettings) := [
  ⟨["drain_timeout_seconds"], Located.uint64, drainSeconds⟩,
  ⟨["join_timeout_seconds"], Located.uint64, joinSeconds⟩]

theorem ext_settings {a b : ShutdownSettings} (h : ∀ f ∈ settings, f.get a = f.get b) : a = b := by
  cases a
  cases b
  simpa [settings] using h

theorem consistsOf : ConsistsOf (fields encoding) default settings where
  exists_ok place ms absent hcan := by
    simp only [settings, List.forall_mem_cons] at hcan
    obtain ⟨h₁, h₂, -⟩ := hcan
    simp only [fields, encoding, Record.withDefault, exists_read_seq_iff, exists_read_map_iff,
      exists_read_field_iff]
    exact ⟨h₁, h₂⟩
  takes place ms absent timeouts hread := by
    simp only [fields, encoding, Record.withDefault, read_seq_eq_ok_iff, read_map_eq_ok_iff,
      read_field_eq_ok_iff] at hread
    obtain ⟨_, _, ⟨_, h₁, rfl⟩, h₂, rfl⟩ := hread
    simp only [settings, List.forall_mem_cons]
    exact ⟨h₁, h₂, List.forall_mem_nil _⟩

theorem readsAs : ReadsAs (read encoding) default Value.IsTable (· ∈ settings) :=
  consistsOf.readsAs "ShutdownSettings"

end ShutdownSettings

namespace SimulationSettings

def settings : List (Setting SimulationSettings) := [
  ⟨["users"], Located.uint64, users⟩,
  ⟨["notifications"], Located.uint64, notifications⟩,
  ⟨["publishers"], Located.uint64, publishers⟩,
  ⟨["failure_rate"], Located.real, failureRate⟩]

theorem ext_settings {a b : SimulationSettings} (h : ∀ f ∈ settings, f.get a = f.get b) :
    a = b := by
  cases a
  cases b
  simpa [settings] using h

theorem consistsOf : ConsistsOf (fields encoding) default settings where
  exists_ok place ms absent hcan := by
    simp only [settings, List.forall_mem_cons] at hcan
    obtain ⟨h₁, h₂, h₃, h₄, -⟩ := hcan
    simp only [fields, encoding, Record.withDefault, exists_read_seq_iff, exists_read_map_iff,
      exists_read_field_iff]
    exact ⟨⟨⟨h₁, h₂⟩, h₃⟩, h₄⟩
  takes place ms absent simulation hread := by
    simp only [fields, encoding, Record.withDefault, read_seq_eq_ok_iff, read_map_eq_ok_iff,
      read_field_eq_ok_iff] at hread
    obtain ⟨_, _, ⟨_, _, ⟨_, _, ⟨_, h₁, rfl⟩, h₂, rfl⟩, h₃, rfl⟩, h₄, rfl⟩ := hread
    simp only [settings, List.forall_mem_cons]
    exact ⟨h₁, h₂, h₃, h₄, List.forall_mem_nil _⟩

theorem readsAs : ReadsAs (read encoding) default Value.IsTable (· ∈ settings) :=
  consistsOf.readsAs "SimulationConfig"

end SimulationSettings

namespace LoggingSettings

def settings : List (Setting LoggingSettings) := [
  ⟨["level"], Located.string, level⟩,
  ⟨["format"], Located.logFormat, format⟩]

theorem ext_settings {a b : LoggingSettings} (h : ∀ f ∈ settings, f.get a = f.get b) : a = b := by
  cases a
  cases b
  simpa [settings] using h

theorem consistsOf : ConsistsOf (fields encoding) default settings where
  exists_ok place ms absent hcan := by
    simp only [settings, List.forall_mem_cons] at hcan
    obtain ⟨h₁, h₂, -⟩ := hcan
    simp only [fields, encoding, Record.withDefault, exists_read_seq_iff, exists_read_map_iff,
      exists_read_field_iff]
    exact ⟨h₁, h₂⟩
  takes place ms absent logging hread := by
    simp only [fields, encoding, Record.withDefault, read_seq_eq_ok_iff, read_map_eq_ok_iff,
      read_field_eq_ok_iff] at hread
    obtain ⟨_, _, ⟨_, h₁, rfl⟩, h₂, rfl⟩ := hread
    simp only [settings, List.forall_mem_cons]
    exact ⟨h₁, h₂, List.forall_mem_nil _⟩

theorem readsAs : ReadsAs (read encoding) default Value.IsTable (· ∈ settings) :=
  consistsOf.readsAs "LoggingConfig"

end LoggingSettings

namespace PipelineSettings

/-! ## Topics -/

theorem get?_topicTable {entries : Named TopicOverride} (hnodup : (entries.map Prod.fst).Nodup)
    (t : Topic) : (topicTable entries).get? t = entries.get? t := by
  have hfold : ∀ table : Table Topic TopicOverride,
      (entries.foldl (fun table e => table.insert e.1 e.2) table).get? t =
        (entries.get? t).or (table.get? t) := by
    induction entries with
    | nil => exact fun _ => rfl
    | cons e rest ih =>
        intro table
        obtain ⟨name, o⟩ := e
        obtain ⟨hnew, hrest⟩ := List.nodup_cons.mp hnodup
        rw [List.foldl_cons, ih hrest, Table.get?_insert]
        by_cases heq : t = name
        · subst heq
          have hnone : rest.find? (·.1 = t) = none :=
            List.find?_eq_none.mpr fun e he h =>
              hnew (List.mem_map.mpr ⟨e, he, of_decide_eq_true h⟩)
          simp [Named.get?, hnone]
        · simp [Named.get?, heq, Ne.symm heq]
  exact (hfold Table.empty).trans (by rw [Table.get?_empty, Option.or_none])

/-- What the table of topics has for one. -/
def overrideIn (table : Table Topic TopicOverride) (t : Topic) : TopicOverride :=
  table.getD t .unset

/-- A table of topics with a table for each. -/
structure ListsTopics (v : Value) : Prop where
  isTable : v.IsTable
  nodup : (v.members.map Prod.fst).Nodup
  topics : ∀ t w, v.at? [t] = some w → w.IsTable

/-- The settings of all topics, under the names of the topics. -/
theorem readsAs_topics :
    ReadsAs (readTopics encoding) Table.empty ListsTopics fun f =>
      ∃ t, ∃ g ∈ TopicOverride.settings, f = g.within [t] (overrideIn · t) where
  exists_ok place v hshape hcan := by
    obtain ⟨ms, rfl⟩ := hshape.isTable.exists_eq
    have hentries : ∀ m ∈ ms, ∃ o,
        TopicOverride.read encoding ⟨.member place m.1, m.2⟩ = .ok o := by
      intro ⟨t, w⟩ hm
      refine (TopicOverride.readsAs.canTake (overrideIn · t) (hshape.topics t) fun g hg =>
        hcan _ ⟨t, g, hg, rfl⟩) w ?_
      rw [Value.at?_singleton]
      exact Named.get?_of_mem hshape.nodup hm
    obtain ⟨entries, hread⟩ := exists_dictionary_iff.mpr hentries
    exact ⟨topicTable entries, congrArg (Except.map topicTable) hread⟩
  takes place v table hshape hread := by
    obtain ⟨ms, rfl⟩ := hshape.isTable.exists_eq
    obtain ⟨entries, hentries, rfl⟩ := map_eq_ok_iff.mp hread
    have heach : ReadEach place (TopicOverride.read encoding) ms entries :=
      dictionary_eq_ok_iff.mp hentries
    -- With distinct names no override takes the place of another.
    have hnodup : (entries.map Prod.fst).Nodup := by
      rw [heach.map_fst]
      exact hshape.nodup
    rintro _ ⟨t, g, hg, rfl⟩
    refine TopicOverride.readsAs.takes_within (overrideIn · t) rfl (hshape.topics t) ?_ g hg
    have hget := heach.get? t
    simp only [Setting.Takes, Takes, Value.at?_singleton, overrideIn, Table.getD,
      get?_topicTable hnodup]
    cases hfound : Named.get? ms t with
    | none =>
        rw [hfound] at hget
        rw [hget]
        rfl
    | some w =>
        rw [hfound] at hget
        obtain ⟨o, ho, hread⟩ := hget
        rw [ho]
        exact hread

/-- The settings of the pipeline itself. -/
def values : List (Setting PipelineSettings) := [
  ⟨["queue_capacity"], Located.uint64, queueCapacity⟩,
  ⟨["dlq_capacity"], Located.uint64, dlqCapacity⟩,
  ⟨["worker_count"], Located.uint64, workerCount⟩,
  ⟨["retry_limit"], Located.uint32, retryLimit⟩,
  ⟨["backoff_base_ms"], Located.uint64, backoffBaseMillis⟩,
  ⟨["backoff_max_ms"], Located.uint64, backoffMaxMillis⟩]

/-- The settings of the pipeline, with those of one topic. -/
def settings (t : Topic) : List (Setting PipelineSettings) :=
  values ++ TopicOverride.settings.map (.within ["topics", t] (·.override t))

theorem consistsOf : ConsistsOf (fields encoding) default
    (⟨["topics"], readTopics encoding, topics⟩ :: values) where
  exists_ok place ms absent hcan := by
    simp only [values, List.forall_mem_cons] at hcan
    obtain ⟨h₇, h₁, h₂, h₃, h₄, h₅, h₆, -⟩ := hcan
    simp only [fields, encoding, Record.withDefault, exists_read_seq_iff, exists_read_map_iff,
      exists_read_field_iff]
    exact ⟨⟨⟨⟨⟨⟨h₁, h₂⟩, h₃⟩, h₄⟩, h₅⟩, h₆⟩, h₇⟩
  takes place ms absent pipeline hread := by
    simp only [fields, Record.withDefault, read_seq_eq_ok_iff, read_map_eq_ok_iff,
      read_field_eq_ok_iff] at hread
    obtain ⟨_, _, ⟨_, _, ⟨_, _, ⟨_, _, ⟨_, _, ⟨_, _, ⟨_, h₁, rfl⟩, h₂, rfl⟩, h₃, rfl⟩, h₄, rfl⟩,
      h₅, rfl⟩, h₆, rfl⟩, h₇, rfl⟩ := hread
    simp only [values, List.forall_mem_cons]
    exact ⟨h₇, h₁, h₂, h₃, h₄, h₅, h₆, List.forall_mem_nil _⟩

structure IsPipeline (v : Value) : Prop where
  isTable : v.IsTable
  topics : ∀ w, v.at? ["topics"] = some w → ListsTopics w

theorem mem_settings_of_mem_values {f : Setting PipelineSettings} (hf : f ∈ values) (t : Topic) :
    f ∈ settings t :=
  List.mem_append_left _ hf

theorem mem_settings_within {g : Setting TopicOverride} (hg : g ∈ TopicOverride.settings)
    (t : Topic) : g.within ["topics", t] (·.override t) ∈ settings t :=
  List.mem_append_right _ (List.mem_map_of_mem hg)

theorem ext_settings {a b : PipelineSettings} (h : ∀ t, ∀ f ∈ settings t, f.get a = f.get b) :
    { a with topics := b.topics } = b ∧ ∀ t, a.override t = b.override t := by
  constructor
  · have hvalues : ∀ f ∈ values, f.get a = f.get b := fun f hf =>
      h "" f (mem_settings_of_mem_values hf "")
    cases a
    cases b
    simpa [values] using hvalues
  · exact fun t => TopicOverride.ext_settings fun g hg => h t _ (mem_settings_within hg t)

theorem readsAs :
    ReadsAs (read encoding) default IsPipeline fun f => ∃ t, f ∈ settings t where
  exists_ok place v hshape hcan := by
    refine (consistsOf.readsAs "PipelineConfig").exists_ok place v hshape.isTable ?_
    refine List.forall_mem_cons.mpr ⟨?_, fun f hf => hcan f ⟨"", mem_settings_of_mem_values hf ""⟩⟩
    refine readsAs_topics.canTake topics hshape.topics ?_
    rintro _ ⟨t, g, hg, rfl⟩
    exact hcan _ ⟨t, mem_settings_within hg t⟩
  takes place v pipeline hshape hread := by
    have htakes := (consistsOf.readsAs "PipelineConfig").takes place v pipeline hshape.isTable hread
    obtain ⟨htopics, hvalues⟩ := List.forall_mem_cons.mp htakes
    rintro f ⟨t, hf⟩
    obtain hf | hf := List.mem_append.mp hf
    · exact hvalues f hf
    · obtain ⟨g, hg, rfl⟩ := List.mem_map.mp hf
      exact readsAs_topics.takes_within topics rfl hshape.topics htopics _ ⟨t, g, hg, rfl⟩

end PipelineSettings

namespace Settings

/-- The settings, with those of one topic. -/
def settings (t : Topic) : List (Setting Settings) :=
  (PipelineSettings.settings t).map (.within ["pipeline"] pipeline) ++
    RateLimit.settings.map (.within ["rate_limit"] rateLimit) ++
    ShutdownSettings.settings.map (.within ["shutdown"] shutdown) ++
    SimulationSettings.settings.map (.within ["simulation"] simulation) ++
    LoggingSettings.settings.map (.within ["logging"] logging)

/-- Where tables are expected. -/
def sections (t : Topic) : List (List String) :=
  [["pipeline"], ["pipeline", "topics"], ["pipeline", "topics", t], ["rate_limit"], ["shutdown"],
    ["simulation"], ["logging"]]

/-- The sections before the one of the log, each read as one value. -/
def leading : List (Setting Settings) := [
  ⟨["pipeline"], PipelineSettings.read encoding, pipeline⟩,
  ⟨["rate_limit"], RateLimit.read encoding, rateLimit⟩,
  ⟨["shutdown"], ShutdownSettings.read encoding, shutdown⟩,
  ⟨["simulation"], SimulationSettings.read encoding, simulation⟩]

theorem consistsOf : ConsistsOf (fields encoding) default
    (⟨["logging"], LoggingSettings.read encoding, logging⟩ :: leading) where
  exists_ok place ms absent hcan := by
    simp only [leading, List.forall_mem_cons] at hcan
    obtain ⟨h₅, h₁, h₂, h₃, h₄, -⟩ := hcan
    simp only [fields, Record.withDefault, exists_read_seq_iff, exists_read_map_iff,
      exists_read_field_iff]
    exact ⟨⟨⟨⟨h₁, h₂⟩, h₃⟩, h₄⟩, h₅⟩
  takes place ms absent settings hread := by
    simp only [fields, Record.withDefault, read_seq_eq_ok_iff, read_map_eq_ok_iff,
      read_field_eq_ok_iff] at hread
    obtain ⟨_, _, ⟨_, _, ⟨_, _, ⟨_, _, ⟨_, h₁, rfl⟩, h₂, rfl⟩, h₃, rfl⟩, h₄, rfl⟩, h₅, rfl⟩ := hread
    simp only [leading, List.forall_mem_cons]
    exact ⟨h₅, h₁, h₂, h₃, h₄, List.forall_mem_nil _⟩

/-- A configuration in which all sections and topics that are there are tables. -/
structure IsSectioned (config : Value) : Prop where
  isTable : config.IsTable
  isTidy : config.IsTidy
  sections : ∀ t, ∀ names ∈ sections t, ∀ v, config.at? names = some v → v.IsTable

namespace IsSectioned

variable {config v w : Value}

theorem isTable_at {name : String} (h : IsSectioned config)
    (hname : name ∈ ["pipeline", "rate_limit", "shutdown", "simulation", "logging"]) :
    ∀ v, config.at? [name] = some v → v.IsTable := by
  refine h.sections "" [name] ?_
  simp only [List.mem_cons, List.not_mem_nil, or_false] at hname
  obtain rfl | rfl | rfl | rfl | rfl := hname <;> simp [Settings.sections]

theorem isPipeline (h : IsSectioned config) (hv : config.at? ["pipeline"] = some v) :
    PipelineSettings.IsPipeline v where
  isTable := h.sections "" _ (by simp [Settings.sections]) v hv
  topics w hw := by
    have hat : config.at? ["pipeline", "topics"] = some w :=
      (Value.at?_append_of_eq hv ["topics"]).trans hw
    refine ⟨h.sections "" _ (by simp [Settings.sections]) w hat, h.isTidy _ w hat, ?_⟩
    intro t o ho
    exact h.sections t ["pipeline", "topics", t] (by simp [Settings.sections]) o
      ((Value.at?_append_of_eq hat [t]).trans ho)

end IsSectioned

theorem mem_settings_iff {f : Setting Settings} {t : Topic} :
    f ∈ settings t ↔
      (∃ g ∈ PipelineSettings.settings t, g.within ["pipeline"] pipeline = f) ∨
      (∃ g ∈ RateLimit.settings, g.within ["rate_limit"] rateLimit = f) ∨
      (∃ g ∈ ShutdownSettings.settings, g.within ["shutdown"] shutdown = f) ∨
      (∃ g ∈ SimulationSettings.settings, g.within ["simulation"] simulation = f) ∨
      (∃ g ∈ LoggingSettings.settings, g.within ["logging"] logging = f) := by
  simp only [settings, List.mem_append, List.mem_map, or_assoc]

/-- There are no other settings, except that a topic may be listed without any. -/
theorem ext_settings {a b : Settings} (h : ∀ t, ∀ f ∈ settings t, f.get a = f.get b) :
    { a with pipeline.topics := b.pipeline.topics } = b ∧
      ∀ t, a.pipeline.override t = b.pipeline.override t := by
  simp only [mem_settings_iff] at h
  obtain ⟨hpipeline, hoverride⟩ := PipelineSettings.ext_settings fun t g hg =>
    h t _ (.inl ⟨g, hg, rfl⟩)
  have hlimits := RateLimit.ext_settings fun g hg => h "" _ (.inr (.inl ⟨g, hg, rfl⟩))
  have htimeouts := ShutdownSettings.ext_settings fun g hg =>
    h "" _ (.inr (.inr (.inl ⟨g, hg, rfl⟩)))
  have hsimulation := SimulationSettings.ext_settings fun g hg =>
    h "" _ (.inr (.inr (.inr (.inl ⟨g, hg, rfl⟩))))
  have hlogging := LoggingSettings.ext_settings fun g hg =>
    h "" _ (.inr (.inr (.inr (.inr ⟨g, hg, rfl⟩))))
  refine ⟨?_, hoverride⟩
  rw [hpipeline, hlimits, htimeouts, hsimulation, hlogging]

variable {place : Place} {config v : Value}

theorem canTake_leading (h : IsSectioned config)
    (hcan : ∀ t, ∀ f ∈ settings t, f.names.head? ≠ some "logging" → f.CanTake place config) :
    ∀ f ∈ leading, f.CanTake place config := by
  simp only [mem_settings_iff] at hcan
  simp only [leading, List.forall_mem_cons]
  refine ⟨?_, ?_, ?_, ?_, List.forall_mem_nil _⟩
  · refine PipelineSettings.readsAs.canTake pipeline (fun _ => h.isPipeline) ?_
    rintro g ⟨t, hg⟩
    exact hcan t _ (.inl ⟨g, hg, rfl⟩) (by simp [Setting.within])
  · refine RateLimit.readsAs.canTake rateLimit (h.isTable_at (by simp)) ?_
    exact fun g hg => hcan "" _ (.inr (.inl ⟨g, hg, rfl⟩)) (by simp [Setting.within])
  · refine ShutdownSettings.readsAs.canTake shutdown (h.isTable_at (by simp)) ?_
    exact fun g hg => hcan "" _ (.inr (.inr (.inl ⟨g, hg, rfl⟩))) (by simp [Setting.within])
  · refine SimulationSettings.readsAs.canTake simulation (h.isTable_at (by simp)) ?_
    exact fun g hg => hcan "" _ (.inr (.inr (.inr (.inl ⟨g, hg, rfl⟩)))) (by simp [Setting.within])

theorem mem_settings_logging {g : Setting LoggingSettings} (hg : g ∈ LoggingSettings.settings)
    (t : Topic) : g.within ["logging"] logging ∈ settings t :=
  mem_settings_iff.mpr (.inr (.inr (.inr (.inr ⟨g, hg, rfl⟩))))

theorem readsAs :
    ReadsAs (read encoding) default IsSectioned fun f => ∃ t, f ∈ settings t where
  exists_ok place config h hcan := by
    have hleading := canTake_leading h fun t f hf _ => hcan f ⟨t, hf⟩
    refine (consistsOf.readsAs "Settings").exists_ok place config h.isTable ?_
    refine List.forall_mem_cons.mpr ⟨?_, hleading⟩
    refine LoggingSettings.readsAs.canTake logging (h.isTable_at (by simp)) ?_
    exact fun g hg => hcan _ ⟨"", mem_settings_logging hg ""⟩
  takes place config settings h hread := by
    have htakes := (consistsOf.readsAs "Settings").takes place config settings h.isTable hread
    simp only [leading, List.forall_mem_cons] at htakes
    obtain ⟨h₅, h₁, h₂, h₃, h₄, -⟩ := htakes
    rintro f ⟨t, hf⟩
    obtain ⟨g, hg, rfl⟩ | ⟨g, hg, rfl⟩ | ⟨g, hg, rfl⟩ | ⟨g, hg, rfl⟩ | ⟨g, hg, rfl⟩ :=
      mem_settings_iff.mp hf
    · exact PipelineSettings.readsAs.takes_within pipeline rfl (fun _ => h.isPipeline) h₁ g ⟨t, hg⟩
    · exact RateLimit.readsAs.takes_within rateLimit rfl (h.isTable_at (by simp)) h₂ g hg
    · exact ShutdownSettings.readsAs.takes_within shutdown rfl (h.isTable_at (by simp)) h₃ g hg
    · exact SimulationSettings.readsAs.takes_within simulation rfl (h.isTable_at (by simp)) h₄ g hg
    · exact LoggingSettings.readsAs.takes_within logging rfl (h.isTable_at (by simp)) h₅ g hg

/-- If only the format of the log cannot be read, that is the error. -/
theorem read_eq_error {e : Error} (h : IsSectioned config)
    (hothers : ∀ t, ∀ f ∈ settings t, f.names ≠ ["logging", "format"] → f.CanTake place config)
    (hv : config.at? ["logging", "format"] = some v)
    (hformat : Located.logFormat ⟨place.under ["logging", "format"], v⟩ = .error e) :
    read encoding ⟨place, config⟩ = .error e := by
  -- The format is the last field of the last section: whatever else there is, is read.
  have hleading := canTake_leading h fun t f hf hname =>
    hothers t f hf fun heq => hname (congrArg List.head? heq)
  have hinner : ((config.at? ["logging"]).bind fun w => w.at? ["format"]) = some v :=
    (config.at?_append ["logging"] ["format"]).symm.trans hv
  obtain ⟨w, hw, hwv⟩ := Option.bind_eq_some_iff.mp hinner
  obtain ⟨members, rfl⟩ := (h.isTable_at (by simp) w hw).exists_eq
  obtain ⟨ms, rfl⟩ := h.isTable.exists_eq
  have hlevel : CanTake (.member place "logging") (.table members) ["level"] Located.string := by
    intro u hu
    have hmem : ⟨["level"], Located.string, LoggingSettings.level⟩ ∈ LoggingSettings.settings :=
      List.mem_cons_self
    exact hothers "" _ (mem_settings_logging hmem "") (by simp [Setting.within]) u
      ((Value.at?_append_of_eq hw ["level"]).trans hu)
  have hlogging : LoggingSettings.read encoding ⟨.member place "logging", .table members⟩ =
      .error e := by
    refine record_eq_error ((Value.at?_singleton ..).symm.trans hwv) hformat fun absent => ?_
    simp only [Record.withDefault, encoding, exists_read_map_iff, exists_read_field_iff]
    exact hlevel
  refine record_eq_error ((Value.at?_singleton ..).symm.trans hw) hlogging fun absent => ?_
  simp only [leading, List.forall_mem_cons] at hleading
  obtain ⟨h₁, h₂, h₃, h₄, -⟩ := hleading
  simp only [Record.withDefault, exists_read_seq_iff, exists_read_map_iff, exists_read_field_iff]
  exact ⟨⟨⟨h₁, h₂⟩, h₃⟩, h₄⟩

end Settings

end Courier

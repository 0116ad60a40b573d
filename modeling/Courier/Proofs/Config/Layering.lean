import Courier.Config.Layers
import Courier.Proofs.Config.Given

/-! # Settings out of layers

Each setting is what the uppermost layer makes of it that says anything about it, and has
its default if none does. If that layer gives the setting several values, the last one
counts in the order in which its tables are laid.
-/

namespace Courier

namespace Config

theorem getLast?_given (defaults mode top : Layer) (names : List String) :
    (given [defaults, mode, top] names).getLast? =
      (top.value? names).or ((mode.value? names).or (defaults.value? names)) := by
  simp only [given, List.flatMap_cons, List.flatMap_nil, List.append_nil, List.getLast?_append,
    Option.or_assoc, Layer.value?]

/-- What the layer with this number sets under names, with its tables arranged. -/
def Sources.value? (s : Sources) (i : Nat) (layer : Layer) (names : List String) : Option Value :=
  Layer.value? ((s.arrangement i).layer layer) names

theorem Sources.arranged_three (s : Sources) (defaults mode top : Layer) :
    s.arranged [defaults, mode, top] = [(s.arrangement 0).layer defaults,
      (s.arrangement 1).layer mode, (s.arrangement 2).layer top] := rfl

theorem Sources.fits_of_mem_arranged (s : Sources) {layers : List Layer}
    (hfits : ∀ layer ∈ layers, layer.Fits) : ∀ layer ∈ s.arranged layers, layer.Fits := by
  intro layer hlayer
  obtain ⟨i, hi, rfl⟩ := List.mem_mapIdx.mp hlayer
  exact (hfits _ (List.getElem_mem hi)).arranged (s.arrangement i)

theorem load_eq {s : Sources} {env : Environment} {defaults mode : Layer}
    (henv : s.fullEnvironment = .ok env) (hdefaults : s.fileLayer defaultsName = .ok defaults)
    (hmode : s.fileLayer (modeName env) = .ok mode) :
    load s = (ofLayers (s.arranged [defaults, mode, env.layer])).settings.map (env, ·) := by
  simp only [load, Sources.layers, henv, hdefaults, hmode, bind, Except.bind, pure, Except.pure]
  cases (ofLayers (s.arranged [defaults, mode, env.layer])).settings <;> rfl

/-- Settings are taken from the environment, else from the file for the mode, else from
the file with defaults; what none of them sets has its default. Only names of formats
that clash leave no settings. The formats of the files, what their readers make of them
and the arrangement of the tables may be any; where no layer gives a setting two values,
the arrangement makes no difference. -/
theorem load_layered {s : Sources} {env : Environment} {defaults mode : Layer}
    (henv : s.fullEnvironment = .ok env) (hdefaults : s.fileLayer defaultsName = .ok defaults)
    (hmode : s.fileLayer (modeName env) = .ok mode)
    (hfits : ∀ layer ∈ [defaults, mode, env.layer], layer.Fits) :
    (¬FormatsClash (s.arranged [defaults, mode, env.layer]) →
      ∃ settings, load s = .ok (env, settings) ∧
        (settings.ComesFrom fun names =>
          (s.value? 2 env.layer names).or
            ((s.value? 1 mode names).or (s.value? 0 defaults names))) ∧
        ((∀ layer ∈ [defaults, mode, env.layer], layer.IsDecided) →
          settings.ComesFrom fun names =>
            (env.layer.value? names).or ((mode.value? names).or (defaults.value? names)))) ∧
    (FormatsClash (s.arranged [defaults, mode, env.layer]) → load s = .error .noFormat) := by
  have hload := load_eq henv hdefaults hmode
  have harranged := s.fits_of_mem_arranged hfits
  constructor
  · intro hclash
    obtain ⟨settings, hsettings, hfrom⟩ := exists_settings harranged hclash
    simp only [Sources.arranged_three, getLast?_given] at hfrom
    rw [hsettings] at hload
    refine ⟨settings, hload, hfrom, fun hdecided => hfrom.congr fun t f hf => ?_⟩
    simp only [List.forall_mem_cons] at hfits hdecided
    obtain ⟨hd, hm, he, -⟩ := hfits
    obtain ⟨hd', hm', he', -⟩ := hdecided
    simp only [Option.map_or, convert_value?_arranged hd hd' hf,
      convert_value?_arranged hm hm' hf, convert_value?_arranged he he' hf]
  · intro hclash
    rw [settings_of_clash harranged hclash] at hload
    exact hload

/-! ## Layers for the log only -/

namespace Layer

variable {layer : Layer}

theorem head?_of_mem_values {name : String} {names : List String} {v : Value}
    (hpaths : ∀ p ∈ layer.placements, ∃ path, p.path = .name name :: path) (hne : names ≠ [])
    (hv : v ∈ layer.values names) : names.head? = some name := by
  obtain ⟨⟨path, w⟩, hp, hsets⟩ := List.mem_filterMap.mp hv
  obtain ⟨path, rfl⟩ := hpaths _ hp
  cases names with
  | nil => exact absurd rfl hne
  | cons name' names =>
      rw [Placement.sets?_name_cons] at hsets
      split at hsets
      next heq => rw [heq, List.head?_cons]
      next => cases hsets

/-- The level of the log. -/
def level : Setting Settings :=
  ⟨["logging", "level"], Located.string, fun s => s.logging.level⟩

/-- A layer for the log gives values to the level and to the format only. -/
theorem eq_level_or_format {t : Topic} {f : Setting Settings} {v : Value}
    (hpaths : ∀ p ∈ layer.placements, ∃ path, p.path = .name "logging" :: path)
    (hf : f ∈ Settings.settings t) (hv : v ∈ layer.values f.names) :
    f = level ∨ f = Settings.format := by
  have hhead := head?_of_mem_values hpaths (Settings.standsIn_of_mem hf).names_ne_nil hv
  obtain ⟨g, hg, rfl⟩ | ⟨g, hg, rfl⟩ | ⟨g, hg, rfl⟩ | ⟨g, hg, rfl⟩ | ⟨g, hg, rfl⟩ :=
    Settings.mem_settings_iff.mp hf
  case inr.inr.inr.inr =>
    simp only [LoggingSettings.settings, List.mem_cons, List.not_mem_nil, or_false] at hg
    obtain rfl | rfl := hg
    · exact .inl rfl
    · exact .inr rfl
  all_goals
    rw [Setting.within, List.singleton_append, List.head?_cons] at hhead
    exact absurd hhead (by decide)

/-- The layer sets no more than one level and one format of the log. -/
structure SetsLog (layer : Layer) (level? : Option String) (format? : Option Value) : Prop where
  paths : ∀ p ∈ layer.placements, ∃ path, p.path = .name "logging" :: path
  tables : ∀ v ∈ layer.values ["logging"], v.IsTable
  levels : layer.values level.names = level?.toList.map .string
  formats : layer.values Settings.format.names = format?.toList
  converts : ∀ v ∈ format?, ∃ format, Settings.format.convert v = .ok format

namespace SetsLog

variable {level? : Option String} {format? : Option Value} (h : layer.SetsLog level? format?)
include h

theorem fits : layer.Fits where
  tables t names hnames v hv := by
    simp only [Settings.sections, List.mem_cons, List.not_mem_nil, or_false] at hnames
    obtain rfl | rfl | rfl | rfl | rfl | rfl | rfl := hnames
    all_goals
      have hhead := head?_of_mem_values h.paths (List.cons_ne_nil _ _) hv
      first
        | exact h.tables v hv
        | exact absurd hhead (by simp)
  converts t f hf v hv := by
    obtain rfl | rfl := eq_level_or_format h.paths hf hv
    · rw [h.levels] at hv
      obtain ⟨text, -, rfl⟩ := List.mem_map.mp hv
      exact ⟨text, rfl⟩
    · rw [h.formats, Option.mem_toList] at hv
      exact h.converts v hv

theorem isDecided : layer.IsDecided := by
  intro t f hf v hv w hw
  obtain rfl | rfl := eq_level_or_format h.paths hf hv
  · rw [h.levels] at hv hw
    cases level? with
    | none => cases hv
    | some text => rw [List.mem_singleton.mp hv, List.mem_singleton.mp hw]
  · rw [h.formats, Option.mem_toList] at hv hw
    rw [Option.some.inj (hv.symm.trans hw)]

theorem value?_level : layer.value? level.names = level?.map .string := by
  rw [value?, h.levels]
  cases level? <;> rfl

theorem value?_format : layer.value? Settings.format.names = format? := by
  rw [value?, h.formats]
  cases format? <;> rfl

theorem value?_eq_none {names : List String} (hne : names ≠ [])
    (hother : names.head? ≠ some "logging") : layer.value? names = none := by
  rw [value?, List.getLast?_eq_none_iff, List.eq_nil_iff_forall_not_mem]
  exact fun v hv => hother (head?_of_mem_values h.paths hne hv)

end SetsLog

theorem setsLog_nil : SetsLog [] none none :=
  ⟨nofun, nofun, rfl, rfl, nofun⟩

theorem setsLog_of_placements {ps : List Placement} {level? : Option String}
    {format? : Option Value} (hplacements : layer.placements = ps)
    (hpaths : ∀ p ∈ ps, ∃ path, p.path = .name "logging" :: path)
    (htables : ∀ v ∈ ps.filterMap (·.sets? ["logging"]), v.IsTable)
    (hlevels : ps.filterMap (·.sets? level.names) = level?.toList.map .string)
    (hformats : ps.filterMap (·.sets? Settings.format.names) = format?.toList)
    (hconverts : ∀ v ∈ format?, ∃ format, Settings.format.convert v = .ok format) :
    layer.SetsLog level? format? := by
  subst hplacements
  exact ⟨hpaths, htables, hlevels, hformats, hconverts⟩

end Layer

theorem formatOfName_name (format : LogFormat) :
    Located.formatOfName format.name = .ok format := by
  have hfind : LogFormat.all.find? (fun f => f.name = Text.lower format.name) = some format := by
    cases format <;> decide +kernel
  rw [Located.formatOfName, hfind]

/-- Defaults for the log. -/
def logText : String :=
  "\x7b\"logging\": \x7b\"level\": \"warn\", \"format\": \x7b\"json\": 1\x7d\x7d\x7d"

/-- A file with these defaults, and an environment. -/
def sourcesOf (env : Environment) : Sources where
  environment := env
  file? path := if path = "config/default.json" then some logText else none

/-- What that file sets. -/
def logLayer : Layer :=
  [("logging", .table [("level", .string "warn"), ("format", .table [("json", .whole 1)])])]

/-- A level for the log, in YAML. -/
def levelText : String :=
  "logging:\n  level: error\n"

def levelLayer : Layer :=
  [("logging", .table [("level", .string "error")])]

/-- The last member of each table comes first. -/
def reversed : Arrangement := ⟨fun _ ms => ms.reverse, fun _ ms => ms.reverse_perm⟩

/-- The same with a file for the mode, and with all tables laid in reverse. -/
def sourcesWithMode (env : Environment) : Sources where
  environment := env
  file? path :=
    if path = "config/development.yml" then some levelText else (sourcesOf env).file? path
  readers := { Readers.none with
    yaml := fun text => if text = levelText then some levelLayer else none }
  arrangement := fun _ => reversed

/-- The format in one word. -/
def inOneWord : Environment := [("FANOUT__LOGGING__FORMAT", "pretty")]

/-- The format as a table. -/
def asTable : Environment := [("FANOUT__LOGGING__FORMAT__PRETTY", "1")]

theorem files_looked_for :
    candidates FileFormat.all defaultsName = [("config/default", none),
      ("config/default.toml", some .toml), ("config/default.json", some .json),
      ("config/default.yaml", some .yaml), ("config/default.yml", some .yaml),
      ("config/default.ini", some .ini), ("config/default.ron", some .ron),
      ("config/default.json5", some .json5)] ∧
    candidates FileFormat.all "config/development" = [("config/development", none),
      ("config/development.toml", some .toml), ("config/development.json", some .json),
      ("config/development.yaml", some .yaml), ("config/development.yml", some .yaml),
      ("config/development.ini", some .ini), ("config/development.ron", some .ron),
      ("config/development.json5", some .json5)] ∧
    modeName inOneWord = "config/development" ∧ modeName asTable = "config/development" := by
  decide +kernel

theorem paths_of_names :
    Path.ofName (Text.lower "logging") = [.name "logging"] ∧
    Path.ofName (Text.lower "logging.format") = [.name "logging", .name "format"] ∧
    Path.ofName (Text.lower "logging.format.pretty") =
      [.name "logging", .name "format", .name "pretty"] ∧
    Text.lower "level" = "level" ∧ Text.lower "format" = "format" ∧
    Text.lower "json" = "json" := by
  decide +kernel

theorem targets_of_variables :
    Environment.target? "FANOUT__LOGGING__FORMAT" = some "logging.format" ∧
    Environment.target? "FANOUT__LOGGING__FORMAT__PRETTY" = some "logging.format.pretty" := by
  decide +kernel

theorem readScalar_pretty : Environment.readScalar "pretty" = .string "pretty" := by
  have hread : Text.lower "pretty" = "pretty" ∧ Text.readInt64? "pretty".toList = none ∧
      (readFloat? "pretty".toList).isNone := by
    decide +kernel
  obtain ⟨hlower, hwhole, hreal⟩ := hread
  simp only [Environment.readScalar, hlower, hwhole, Option.isNone_iff_eq_none.mp hreal]
  rfl

theorem readScalar_one : Environment.readScalar "1" = .whole 1 := by
  have hread : Text.lower "1" = "1" ∧ Text.readInt64? "1".toList = some 1 := by decide +kernel
  obtain ⟨hlower, hwhole⟩ := hread
  simp only [Environment.readScalar, hlower, hwhole]
  rfl

theorem readJson?_logText : readJson? logText = some logLayer := by
  have hread : Json.Value.read? logText.toList =
      some (.object [("logging", .object [("level", .string "warn"),
        ("format", .object [("json", .number (.whole 1))])])]) := by
    simp only [logText, String.reduceToList]
    rfl
  rw [readJson?, hread]
  simp [ofMembers, ofJson, ofNumber, Text.fitsSigned, Text.signedBound, Named.set, logLayer]

theorem fileLayer_sourcesOf {env : Environment} (hname : modeName env = "config/development") :
    (sourcesOf env).fileLayer defaultsName = .ok logLayer ∧
      (sourcesOf env).fileLayer (modeName env) = .ok [] := by
  constructor
  · simp [Sources.fileLayer, files_looked_for, sourcesOf, Sources.readFile, Readers.read?,
      readJson?_logText]
  · simp [Sources.fileLayer, hname, files_looked_for, sourcesOf]

theorem fileLayer_sourcesWithMode {env : Environment}
    (hname : modeName env = "config/development") :
    (sourcesWithMode env).fileLayer defaultsName = .ok logLayer ∧
      (sourcesWithMode env).fileLayer (modeName env) = .ok levelLayer := by
  constructor
  · simp [Sources.fileLayer, files_looked_for, sourcesWithMode, sourcesOf, Sources.readFile,
      Readers.read?, readJson?_logText]
  · simp [Sources.fileLayer, hname, files_looked_for, sourcesWithMode, sourcesOf,
      Sources.readFile, Readers.read?]

theorem layer_inOneWord : inOneWord.layer = [("logging.format", .string "pretty")] := by
  simp [inOneWord, Environment.layer, Environment.addTo, Named.set, targets_of_variables,
    readScalar_pretty]

theorem layer_asTable : asTable.layer = [("logging.format.pretty", .whole 1)] := by
  simp [asTable, Environment.layer, Environment.addTo, Named.set, targets_of_variables,
    readScalar_one]

/-- What the single placements of these layers are. -/
theorem placements_of_layers :
    logLayer.placements = [⟨[.name "logging", .name "level"], .string "warn"⟩,
      ⟨[.name "logging", .name "format", .name "json"], .whole 1⟩] ∧
    levelLayer.placements = [⟨[.name "logging", .name "level"], .string "error"⟩] ∧
    inOneWord.layer.placements = [⟨[.name "logging", .name "format"], .string "pretty"⟩] ∧
    asTable.layer.placements =
      [⟨[.name "logging", .name "format", .name "pretty"], .whole 1⟩] := by
  simp [logLayer, levelLayer, layer_inOneWord, layer_asTable, Layer.placements, placementsAt,
    Value.leaves, Value.memberLeaves, Placement.under, Step.isName, paths_of_names]

theorem convert_format (format : LogFormat) (x : Value) :
    Settings.format.convert (.string format.name) = .ok format ∧
      Settings.format.convert (.table [(format.name, x)]) = .ok format :=
  ⟨formatOfName_name format, formatOfName_name format⟩

theorem setsLog_logLayer :
    logLayer.SetsLog (some "warn") (some (.table [("json", .whole 1)])) := by
  obtain ⟨hplacements, -⟩ := placements_of_layers
  refine Layer.setsLog_of_placements hplacements (by simp) ?_ rfl rfl ?_
  · simp [Placement.sets?, alone, Value.at?, Value.members, Named.get?, Value.IsTable]
  · rintro _ ⟨⟩
    exact ⟨.json, (convert_format .json _).2⟩

theorem setsLog_levelLayer : levelLayer.SetsLog (some "error") none := by
  obtain ⟨-, hplacements, -⟩ := placements_of_layers
  refine Layer.setsLog_of_placements hplacements (by simp) ?_ rfl rfl nofun
  simp [Placement.sets?, alone, Value.at?, Value.members, Named.get?, Value.IsTable]

theorem setsLog_inOneWord : Layer.SetsLog inOneWord.layer none (some (.string "pretty")) := by
  obtain ⟨-, -, hplacements, -⟩ := placements_of_layers
  refine Layer.setsLog_of_placements hplacements (by simp) ?_ rfl rfl ?_
  · simp [Placement.sets?, alone, Value.at?, Value.members, Named.get?, Value.IsTable]
  · rintro _ ⟨⟩
    exact ⟨.pretty, (convert_format .pretty .null).1⟩

theorem setsLog_asTable :
    Layer.SetsLog asTable.layer none (some (.table [("pretty", .whole 1)])) := by
  obtain ⟨-, -, -, hplacements⟩ := placements_of_layers
  refine Layer.setsLog_of_placements hplacements (by simp) ?_ rfl rfl ?_
  · simp [Placement.sets?, alone, Value.at?, Value.members, Named.get?, Value.IsTable]
  · rintro _ ⟨⟩
    exact ⟨.pretty, (convert_format .pretty _).2⟩

theorem fits_withMode : ∀ layer ∈ [logLayer, levelLayer, inOneWord.layer], Layer.Fits layer := by
  simp only [List.forall_mem_cons]
  exact ⟨setsLog_logLayer.fits, setsLog_levelLayer.fits, setsLog_inOneWord.fits, nofun⟩

theorem isDecided_withMode :
    ∀ layer ∈ [logLayer, levelLayer, inOneWord.layer], Layer.IsDecided layer := by
  simp only [List.forall_mem_cons]
  exact ⟨setsLog_logLayer.isDecided, setsLog_levelLayer.isDecided, setsLog_inOneWord.isDecided,
    nofun⟩

theorem fits_asTable : ∀ layer ∈ [logLayer, [], asTable.layer], Layer.Fits layer := by
  simp only [List.forall_mem_cons]
  exact ⟨setsLog_logLayer.fits, Layer.setsLog_nil.fits, setsLog_asTable.fits, nofun⟩

/-- One word takes the place of all names. -/
theorem not_formatsClash_withMode :
    ¬FormatsClash ((sourcesWithMode inOneWord).arranged
      [logLayer, levelLayer, inOneWord.layer]) := by
  have hword : Layer.values (reversed.layer inOneWord.layer) Settings.format.names =
      [.string "pretty"] := by
    have hlayer : reversed.layer inOneWord.layer = inOneWord.layer := by
      rw [layer_inOneWord]
      rfl
    rw [hlayer, setsLog_inOneWord.formats]
    rfl
  rintro ⟨a, ha, -⟩
  have hgiven : given ((sourcesWithMode inOneWord).arranged
      [logLayer, levelLayer, inOneWord.layer]) Settings.format.names =
        (Layer.values (reversed.layer logLayer) Settings.format.names ++
          Layer.values (reversed.layer levelLayer) Settings.format.names) ++
            [.string "pretty"] := by
    simp [given, Sources.arranged_three, sourcesWithMode, hword]
  rw [hgiven, joinedNames_append_singleton] at ha
  cases ha

theorem formatsClash_asTable :
    FormatsClash ((sourcesOf asTable).arranged [logLayer, [], asTable.layer]) := by
  have harranged : (sourcesOf asTable).arranged [logLayer, [], asTable.layer] =
      [logLayer, [], asTable.layer] := by
    simp [Sources.arranged_three, sourcesOf, Arrangement.layer_asRead]
  have hnames : joinedNames (given [logLayer, [], asTable.layer] Settings.format.names) =
      ["json", "pretty"] := by
    simp only [given, List.flatMap_cons, setsLog_logLayer.formats, setsLog_asTable.formats]
    rfl
  rw [FormatsClash, harranged, hnames]
  exact ⟨"json", by decide, "pretty", by decide, by decide⟩

/-- With the format in one word in the environment and the level in the file for the mode,
both replace those of the file with defaults, and the limit has its default, whichever
way the tables are laid. With the format as a table there are no settings. -/
theorem load_layered_of_log :
    (∃ settings, load (sourcesWithMode inOneWord) = .ok (inOneWord, settings) ∧
      settings.logging.level = "error" ∧ settings.logging.format = .pretty ∧
      settings.rateLimit.limit = 1000) ∧
    load (sourcesOf asTable) = .error .noFormat := by
  constructor
  · obtain ⟨hdefaults, hmode⟩ := fileLayer_sourcesWithMode files_looked_for.2.2.1
    have henv : (sourcesWithMode inOneWord).fullEnvironment = .ok inOneWord := rfl
    have hlayered := load_layered henv hdefaults hmode fits_withMode
    obtain ⟨settings, hload, -, hdecided⟩ := hlayered.1 not_formatsClash_withMode
    have hfrom := hdecided isDecided_withMode
    have hlevel := hfrom "" Layer.level (Settings.mem_settings_logging List.mem_cons_self "")
    have hformat := hfrom "" _ (Settings.mem_settings_format "")
    have hlimit := hfrom "" _ (Settings.mem_settings_iff.mpr
      (.inr (.inl ⟨_, List.mem_cons_of_mem _ List.mem_cons_self, rfl⟩)))
    have hunset {layer : Layer} {level? format?} (h : layer.SetsLog level? format?) :
        layer.value? ["rate_limit", "limit"] = none :=
      h.value?_eq_none (List.cons_ne_nil _ _) (by decide)
    simp only [setsLog_inOneWord.value?_level, setsLog_levelLayer.value?_level] at hlevel
    simp only [setsLog_inOneWord.value?_format] at hformat
    simp only [Setting.within, List.cons_append, List.nil_append, hunset setsLog_inOneWord,
      hunset setsLog_levelLayer, hunset setsLog_logLayer] at hlimit
    exact ⟨settings, hload, (Except.ok.inj hlevel).symm,
      Except.ok.inj (hformat.symm.trans (convert_format .pretty .null).1), hlimit⟩
  · obtain ⟨hdefaults, hmode⟩ := fileLayer_sourcesOf files_looked_for.2.2.2
    have henv : (sourcesOf asTable).fullEnvironment = .ok asTable := rfl
    have hlayered := load_layered henv hdefaults hmode fits_asTable
    exact hlayered.2 formatsClash_asTable

/-- Tables that name different formats are joined, though each names one by itself. -/
theorem not_forall_layered :
    ¬∀ (s : Sources) (env : Environment) (defaults mode : Layer),
      s.fullEnvironment = .ok env → s.fileLayer defaultsName = .ok defaults →
      s.fileLayer (modeName env) = .ok mode →
      (∀ layer ∈ [defaults, mode, env.layer], layer.Fits) →
      ∃ settings, load s = .ok (env, settings) ∧
        settings.ComesFrom fun names =>
          (s.value? 2 env.layer names).or
            ((s.value? 1 mode names).or (s.value? 0 defaults names)) := by
  intro hall
  obtain ⟨hdefaults, hmode⟩ := fileLayer_sourcesOf files_looked_for.2.2.2
  obtain ⟨settings, hload, -⟩ := hall (sourcesOf asTable) asTable _ _ rfl hdefaults hmode
    fits_asTable
  have hfits := (sourcesOf asTable).fits_of_mem_arranged fits_asTable
  rw [load_eq rfl hdefaults hmode, settings_of_clash hfits formatsClash_asTable] at hload
  cases hload

end Config

end Courier

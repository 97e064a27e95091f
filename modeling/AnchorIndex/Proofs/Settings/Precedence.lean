import AnchorIndex.Proofs.Datum.Same
import AnchorIndex.Proofs.Settings.Environment
import AnchorIndex.Proofs.Settings.User
import AnchorIndex.Settings.Load
import Mathlib.Data.List.ReduceOption

/-!
# Precedence of sources

The sources of settings are read as layers (`Layers`). Each setting has the value that the strongest
layer gives that gives one for it, whatever the layers give for other settings, and its default if
no layer gives a value (`load_of_layers`).
-/

namespace AnchorIndex

open Validation (Accepts HasOnlySections sectionKeys)

/-- What the sources of settings say, from the strongest on: what is overridden, the environment,
the file of the user, and the file for all workspaces, if it says anything. -/
structure Layers where
  overrides : Datum
  environment : Datum
  user : Datum
  common : Option Datum

/-- What the layers give for a setting, from the strongest on. -/
def Setting.given {α : Type} (l : Layers) (st : Setting α) : List Datum :=
  [st.in? l.overrides, st.in? l.environment, st.ofUser? l.user, l.common.bind fun d => st.in? d].reduceOption

namespace Layers

/-- The layers are what the sources say. -/
structure AreRead (l : Layers) (disk : Files.Disk) (sources : SettingsSources) : Prop where
  overrides : sources.overrides = l.overrides
  environment : sources.environment.read = .ok l.environment
  user : UserSettings.fileDatum disk (disk.path UserSettings.file) = .ok l.user
  common : sources.commonDatum? = .ok l.common

/-- Every section is a table, and every value that is given is accepted. -/
structure AreValid (l : Layers) : Prop where
  overrides : l.overrides.HasDictionaries sectionKeys
  environment : ∀ name s, l.environment.get? name = some s → ∃ es, s = .table es
  user : l.user.isEmpty = true ∨ ∃ es, l.user = .table es
  libPath : ∀ v, l.user.get? UserSettings.libPathKey = some v →
    ∃ path?, Validation.optionalText v = .ok path?
  common : ∀ d ∈ l.common, d.HasTables sectionKeys
  values : ∀ {α : Type} (st : Setting α), ∀ v ∈ st.given l, ∃ a, st.check v = .ok a

/-- Nothing but sections stands at the top of the layers. -/
structure HaveOnlySections (l : Layers) : Prop where
  overrides : HasOnlySections l.overrides
  common : ∀ d ∈ l.common, HasOnlySections d
  texts : l.common.all SettingsSources.hasTextKeys = true

variable {l : Layers} {disk : Files.Disk} {sources : SettingsSources} {u : UserSettings} {s : Settings}

/-! ### Merging the layers -/

/-- The layers of the files merged, where the user has some settings. -/
def files (l : Layers) (u : UserSettings) : Datum :=
  match l.common with
  | none => u.toSettings
  | some d => mergeDatum d u.toSettings

/-- All layers merged, where the user has some settings. -/
def merged (l : Layers) (u : UserSettings) : Datum :=
  mergeDatum (l.files u) (mergeDatum l.environment l.overrides)

theorem AreValid.isTable_eq_false (h : l.AreValid) {α : Type} {st : Setting α} {v : Datum}
    (hv : v ∈ st.given l) :
  v.isTable = false
  := by
  obtain ⟨a, ha⟩ := h.values st v hv
  exact Setting.isTable_eq_false ha

theorem mem_given {α : Type} {st : Setting α} {v : Datum} :
  v ∈ st.given l
    ↔ st.in? l.overrides = some v ∨ st.in? l.environment = some v ∨ st.ofUser? l.user = some v
      ∨ (l.common.bind fun d => st.in? d) = some v
  := by
  simp [Setting.given, List.reduceOption_mem_iff, eq_comm]

theorem head?_given {α : Type} (st : Setting α) :
  (st.given l).head?
    = ((st.in? l.overrides).or (st.in? l.environment)).or
      ((st.ofUser? l.user).or (l.common.bind fun d => st.in? d))
  := by
  rw [Setting.given]
  cases st.in? l.overrides <;> cases st.in? l.environment <;> cases st.ofUser? l.user <;>
    cases l.common.bind fun d => st.in? d <;> rfl

theorem AreValid.hasDictionaries_environment (h : l.AreValid) (hread : l.AreRead disk sources) :
  l.environment.HasDictionaries sectionKeys
  := by
  use Environment.isDictionary_read hread.environment
  intro name _ s hs
  obtain ⟨es, rfl⟩ := h.environment name s hs
  exact Environment.isDictionary_of_read hread.environment hs

/-- The files give for each setting what the user gives, or else what is given for all
workspaces. -/
theorem AreValid.in?_files (h : l.AreValid) (hu : UserSettings.Says l.user u) {α : Type}
    (st : Setting α) :
  (l.files u).HasTables sectionKeys
    ∧ st.in? (l.files u) = (st.ofUser? l.user).or (l.common.bind fun d => st.in? d)
  := by
  have huser := UserSettings.hasDictionaries_toSettings u sectionKeys
  rw [files]
  cases hcommon : l.common with
  | none =>
    use huser.hasTables
    rw [UserSettings.in?_toSettings hu, Option.bind_none, Option.or_none]
  | some d =>
    have htables := h.common d hcommon
    use hasTables_mergeDatum htables huser
    have hvalue : ∀ v, u.toSettings.under? st.part st.key = some v → v.isTable = false := by
      intro v hv
      have hmem : v ∈ st.given l := by
        rw [mem_given, ← UserSettings.in?_toSettings hu]
        exact .inr (.inr (.inl hv))
      exact h.isTable_eq_false hmem
    rw [← UserSettings.in?_toSettings hu]
    exact under?_mergeDatum htables huser st.part_mem hvalue

/-- All layers merged give for each setting what the strongest layer gives that gives something. -/
theorem AreValid.in?_merged (h : l.AreValid) (hread : l.AreRead disk sources)
    (hu : UserSettings.Says l.user u) {α : Type} (st : Setting α) :
  (l.merged u).HasTables sectionKeys ∧ st.in? (l.merged u) = (st.given l).head?
  := by
  have henvironment := h.hasDictionaries_environment hread
  have hstrong := hasDictionaries_mergeDatum henvironment h.overrides
  obtain ⟨htables, hfiles⟩ := h.in?_files hu st
  use hasTables_mergeDatum htables hstrong
  have hoverrides : st.in? (mergeDatum l.environment l.overrides)
      = (st.in? l.overrides).or (st.in? l.environment) := by
    apply under?_mergeDatum henvironment.hasTables h.overrides st.part_mem
    intro v hv
    exact h.isTable_eq_false (mem_given.2 (.inl hv))
  rw [head?_given, ← hfiles, ← hoverrides]
  apply under?_mergeDatum htables hstrong st.part_mem
  intro v hv
  have hmem : v ∈ st.given l := by
    rw [mem_given]
    change st.in? _ = some v at hv
    rw [hoverrides, Option.or_eq_some_iff] at hv
    obtain hv | ⟨-, hv⟩ := hv
    · exact .inl hv
    · exact .inr (.inl hv)
  exact h.isTable_eq_false hmem

theorem hasOnlySections_files_iff (h : l.AreValid) :
  HasOnlySections (l.files u) ↔ ∀ d ∈ l.common, HasOnlySections d
  := by
  have huser := UserSettings.hasOnlySections_toSettings u
  rw [files]
  cases hd : l.common with
  | none => simp [huser]
  | some d =>
    have hdict := (UserSettings.hasDictionaries_toSettings u sectionKeys).top
    simp [Validation.hasOnlySections_mergeDatum_iff (h.common d hd).top hdict, huser]

/-- Nothing but sections stands at the top of the layers merged if that is so of each layer. -/
theorem hasOnlySections_merged_iff (h : l.AreValid) (hread : l.AreRead disk sources)
    (hfiles : (l.files u).isTable = true) :
  HasOnlySections (l.merged u) ↔ HasOnlySections l.overrides ∧ ∀ d ∈ l.common, HasOnlySections d
  := by
  have henvironment := Environment.isDictionary_read hread.environment
  have honly := Environment.hasOnlySections_read hread.environment
  have hstrong := isDictionary_mergeDatum henvironment h.overrides.top
  rw [merged, Validation.hasOnlySections_mergeDatum_iff hfiles hstrong,
    Validation.hasOnlySections_mergeDatum_iff henvironment.isTable h.overrides.top,
    hasOnlySections_files_iff h]
  constructor
  · exact fun ⟨hcommon, _, hoverrides⟩ => ⟨hoverrides, hcommon⟩
  · exact fun ⟨hoverrides, hcommon⟩ => ⟨hcommon, honly, hoverrides⟩

/-! ### Loading -/

theorem load_eq_asFault (hread : l.AreRead disk sources)
    (hu : UserSettings.ofDatum (disk.path UserSettings.file) l.user = .ok u)
    (hcommon : ∀ d ∈ l.common, d.isTable = true) :
  Settings.load disk sources
    = if l.common.all SettingsSources.hasTextKeys then
        Validation.asFault (Validation.strictSettings (l.merged u))
      else .error .keysNotText
  := by
  have huser : UserSettings.load disk (disk.path UserSettings.file) = .ok u := by
    rw [UserSettings.load_eq_bind, hread.user]
    exact hu
  have hfiles : SettingsSources.filesMerged l.common u.toSettings = .ok (l.files u) := by
    rw [files]
    cases hd : l.common with
    | none => rfl
    | some d => rw [SettingsSources.filesMerged, if_pos (hcommon d hd)]
  rw [Settings.load, huser, hread.common, hread.environment, hread.overrides]
  change (SettingsSources.filesMerged l.common u.toSettings >>= _) = _
  rw [hfiles]
  rfl

/-- The user's file is accepted if the layers are valid. -/
theorem AreValid.exists_user (h : l.AreValid) (path : String) :
  ∃ u, UserSettings.ofDatum path l.user = .ok u
  := by
  simp only [UserSettings.ofDatum_eq_ok_iff]
  by_cases hempty : l.user.isEmpty = true
  · exact ⟨_, .inl ⟨hempty, rfl⟩⟩
  · obtain ⟨es, hes⟩ := h.user.resolve_left hempty
    obtain ⟨u, hu⟩ : ∃ u, Validation.userSettings l.user = .ok u := by
      apply UserSettings.exists_userSettings
      · intro v hv
        obtain ⟨a, ha⟩ := h.values .folder v (mem_given.2 (.inr (.inr (.inl hv))))
        exact Validation.exists_text_of_relativeFolder ha
      · exact h.libPath
      · intro v hv
        exact h.values .level v (mem_given.2 (.inr (.inr (.inl hv))))
    exact ⟨u, .inr ⟨Bool.eq_false_iff.2 hempty, es, hes, hu⟩⟩

/-- There are settings with the values that the strongest layers give. -/
theorem AreValid.exists_settings (h : l.AreValid) :
  ∃ s : Settings, ∀ {α : Type} (st : Setting α),
    Accepts st.check st.standard (st.given l).head? (st.value s)
  := by
  apply Setting.exists_settings
  intro α st
  cases hhead : (st.given l).head? with
  | none => exact ⟨st.standard, rfl⟩
  | some v => exact h.values st v (List.mem_of_head? hhead)

/-- What loads are the settings with the values that the strongest layers give, as long as nothing
but sections stands at the top of the layers. -/
theorem AreValid.load_eq_ok_iff (h : l.AreValid) (hread : l.AreRead disk sources) {s : Settings} :
  Settings.load disk sources = .ok s
    ↔ (∀ {α : Type} (st : Setting α), Accepts st.check st.standard (st.given l).head? (st.value s))
      ∧ l.HaveOnlySections
  := by
  obtain ⟨u, hu⟩ := h.exists_user (disk.path UserSettings.file)
  have hsays := UserSettings.says_of_ofDatum hu
  have htables : (l.merged u).HasTables sectionKeys := (h.in?_merged hread hsays .level).1
  have hfiles : (l.files u).isTable = true := (h.in?_files hsays .level).1.top
  have haccepts : (∀ {α : Type} (st : Setting α),
        Accepts st.check st.standard (st.in? (l.merged u)) (st.value s))
      ↔ ∀ {α : Type} (st : Setting α),
        Accepts st.check st.standard (st.given l).head? (st.value s) := by
    simp only [(h.in?_merged hread hsays _).2]
  rw [load_eq_asFault hread hu fun d hd => (h.common d hd).top]
  split
  next htexts =>
    rw [Validation.asFault_eq_ok_iff, Validation.strictSettings_eq_ok_iff,
      Validation.sections_eq_ok_iff htables, haccepts, hasOnlySections_merged_iff h hread hfiles]
    constructor
    · exact fun ⟨hvalues, hoverrides, hcommon⟩ => ⟨hvalues, hoverrides, hcommon, htexts⟩
    · exact fun ⟨hvalues, hoverrides, hcommon, _⟩ => ⟨hvalues, hoverrides, hcommon⟩
  next htexts =>
    constructor
    · intro hload
      cases hload
    · intro hload
      exact absurd hload.2.texts htexts

end Layers

/-- Settings of a team: all sources give some. -/
def teamLayers : Layers where
  overrides := .table [("metadata", .table [("metadata_dir", .text "docs")])]
  environment := .table [("logging", .table [("level", .text "DEBUG")])]
  user := .table [("program_dir", .text "onchain"), ("log_level", .text "ERROR")]
  common := some (.table
    [("program", .table [("program_dir", .text "contracts"), ("program_lib_path", .text "lib.rs")]),
      ("logging", .table [])])

def teamDisk : Files.Disk where
  folder := "/"
  tree := .folder
    [(".anchorscan", .folder
      [("config.yaml", .file (.text "program_dir: onchain\nlog_level: ERROR\n"))])]

def teamSources : SettingsSources where
  commonPath := "/config.yaml"
  common := some (.text
    "program:\n  program_dir: contracts\n  program_lib_path: lib.rs\nlogging: \x7b\x7d\n")
  environment := [("ANCHORSCAN__LOGGING__LEVEL", "DEBUG")]
  overrides := .table [("metadata", .table [("metadata_dir", .text "docs")])]

theorem areRead_teamLayers :
  teamLayers.AreRead teamDisk teamSources
  := by
  constructor
  · rfl
  · apply Datum.eq_ok_of_same
    decide +kernel
  · apply Datum.eq_ok_of_same
    decide +kernel
  · apply Datum.eq_ok_some_of_same
    decide +kernel

theorem areValid_teamLayers :
  teamLayers.AreValid
  := by
  have honchain : "onchain".startsWith "/" = false := by decide +kernel
  have hcontracts : "contracts".startsWith "/" = false := by decide +kernel
  constructor
  · refine ⟨⟨_, rfl, by simp⟩, fun name _ s hs => ?_⟩
    have hmem := List.mem_map_of_mem (f := Prod.snd) (mem_of_lookup_eq_some hs)
    obtain rfl : s = .table [("metadata_dir", .text "docs")] := by
      simpa [teamLayers, Datum.entries] using hmem
    exact ⟨_, rfl, by simp⟩
  · intro name s hs
    have hmem := List.mem_map_of_mem (f := Prod.snd) (mem_of_lookup_eq_some hs)
    exact ⟨_, by simpa [teamLayers, Datum.entries] using hmem⟩
  · exact .inr ⟨_, rfl⟩
  · intro v hv
    cases hv
  · rintro _ ⟨⟩
    refine ⟨rfl, fun name _ s hs => ?_⟩
    have hmem := List.mem_map_of_mem (f := Prod.snd) (mem_of_lookup_eq_some hs)
    simp only [Datum.entries, List.map_cons, List.map_nil, List.mem_cons, List.not_mem_nil,
      or_false] at hmem
    obtain rfl | rfl := hmem <;> rfl
  · intro α st v hv
    cases st with
    | level =>
      obtain rfl | rfl : v = .text "DEBUG" ∨ v = .text "ERROR" := by
        simpa using (show v ∈ [Datum.text "DEBUG", .text "ERROR"] from hv)
      · exact ⟨.debug, rfl⟩
      · exact ⟨.error, rfl⟩
    | folder =>
      obtain rfl | rfl : v = .text "onchain" ∨ v = .text "contracts" := by
        simpa using (show v ∈ [Datum.text "onchain", .text "contracts"] from hv)
      · simp [Setting.check, Validation.relativeFolder, Validation.text, honchain]
      · simp [Setting.check, Validation.relativeFolder, Validation.text, hcontracts]
    | libPath =>
      obtain rfl : v = .text "lib.rs" := List.mem_singleton.1 hv
      exact ⟨some "lib.rs", rfl⟩
    | documents =>
      obtain rfl : v = .text "docs" := List.mem_singleton.1 hv
      exact ⟨"docs", rfl⟩
    | outputs => exact absurd hv List.not_mem_nil
    | extensions => exact absurd hv List.not_mem_nil
    | maxMegabytes => exact absurd hv List.not_mem_nil
    | kinds => exact absurd hv List.not_mem_nil

end AnchorIndex

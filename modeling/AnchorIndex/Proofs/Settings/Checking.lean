import AnchorIndex.Proofs.Settings.Merging
import AnchorIndex.Settings.Validation

/-!
# Checked settings

There are eight settings, each under a key of a section (`Setting`). The sections of a table are
accepted with some settings if and only if each value that is given is accepted with the value of
its setting, and all others have their defaults (`sections_eq_ok_iff`). A key that is no setting is
passed over in a section, and rejected at the top (`strictSettings_eq_ok_iff`).
-/

namespace AnchorIndex.Validation

section

variable {α β : Type} {a : α} {b : β} {d : Datum} {name key : String} {default : α}
  {check : Datum → Checked α}

/-! ### Accepted values -/

/-- A value that may be left out is accepted with `a`: it is left out and `a` is the default, or
the check gives `a`. -/
def Accepts (check : Datum → Checked α) (default : α) (v? : Option Datum) (a : α) : Prop :=
  match v? with
  | none => a = default
  | some v => check v = .ok a

theorem both_eq_ok_iff {x : Checked α} {y : Checked β} :
  both x y = .ok (a, b) ↔ x = .ok a ∧ y = .ok b
  := by
  cases x <;> cases y <;> simp [both]

theorem within_eq_ok_iff {x : Checked α} :
  within key x = .ok a ↔ x = .ok a
  := by
  obtain (_ | _) | _ := x <;> simp [within]

theorem field_eq_ok_iff :
  field d key default check = .ok a ↔ Accepts check default (d.get? key) a
  := by
  rw [field]
  cases d.get? key with
  | none => simp [Accepts, eq_comm]
  | some v => exact within_eq_ok_iff

theorem map_eq_ok_iff {x : Checked α} {f : α → β} :
  x.map f = .ok b ↔ ∃ a, x = .ok a ∧ f a = b
  := by
  cases x <;> simp [Except.map]

theorem asFault_eq_ok_iff {x : Checked α} :
  asFault x = .ok a ↔ x = .ok a
  := by
  cases x with
  | ok b => simp [asFault]
  | error o =>
    cases o with
    | rejected rs => cases rs <;> simp [asFault]
    | homeless => simp [asFault]

theorem model_of_isTable (h : d.isTable = true) :
  model name check d = check d
  := by
  rw [model, if_pos h]

/-- A section is accepted key by key, also when it is left out. -/
theorem field_model_eq_ok_iff {part : String} {Q : (String → Option Datum) → α → Prop}
    (hcheck : ∀ s a, check s = .ok a ↔ Q s.get? a) (hdefault : ∀ a, a = default ↔ Q (fun _ => none) a)
    (htable : ∀ s, d.get? part = some s → s.isTable = true) :
  field d part default (model name check) = .ok a ↔ Q (d.under? part) a
  := by
  have hunder : d.under? part = fun key => (d.get? part).bind (·.get? key) := rfl
  rw [field_eq_ok_iff, hunder]
  cases hs : d.get? part with
  | none => exact hdefault a
  | some s =>
    change model name check s = .ok a ↔ Q s.get? a
    rw [model_of_isTable (htable s hs)]
    exact hcheck s a

end

end AnchorIndex.Validation

namespace AnchorIndex

open Validation (Checked Accepts)

/-! ### All settings -/

/-- The settings, with the kinds of their values. -/
inductive Setting : Type → Type where
  | level : Setting Level
  | outputs : Setting (List LogOutput)
  | folder : Setting String
  | libPath : Setting (Option String)
  | documents : Setting String
  | extensions : Setting (List String)
  | maxMegabytes : Setting Int
  | kinds : Setting (List Kind)

namespace Setting

variable {α : Type}

/-- The section of a setting. -/
def part : Setting α → String
  | level | outputs => "logging"
  | folder | libPath => "program"
  | documents => "metadata"
  | extensions | maxMegabytes | kinds => "scan"

/-- The key of a setting in its section. -/
def key : Setting α → String
  | level => "level"
  | outputs => "outputs"
  | folder => "program_dir"
  | libPath => "program_lib_path"
  | documents => "metadata_dir"
  | extensions => "extensions"
  | maxMegabytes => "max_file_size_mb"
  | kinds => "kinds"

/-- The value of a setting. -/
def value (s : Settings) : Setting α → α
  | level => s.logging.level
  | outputs => s.logging.outputs
  | folder => s.program.folder
  | libPath => s.program.libPath
  | documents => s.metadata.folder
  | extensions => s.scan.extensions
  | maxMegabytes => s.scan.maxMegabytes
  | kinds => s.scan.kinds

/-- How a datum is checked that is given for a setting. -/
def check : Setting α → Datum → Checked α
  | level => Validation.level
  | outputs => Validation.list Validation.logOutput
  | folder => Validation.relativeFolder
  | libPath => Validation.optionalText
  | documents => Validation.text
  | extensions => fun v => (Validation.list Validation.text v).map (·.map Validation.withPoint)
  | maxMegabytes => Validation.positive
  | kinds => Validation.list (Validation.choice Kind.label Kind.all)

/-- The default of a setting. -/
def standard (st : Setting α) : α :=
  st.value Settings.standard

/-- What a datum gives for a setting. -/
def in? (d : Datum) (st : Setting α) : Option Datum :=
  d.under? st.part st.key

theorem part_mem (st : Setting α) :
  st.part ∈ Validation.sectionKeys
  := by
  cases st <;> simp [part, Validation.sectionKeys]

/-- No table is accepted for a setting. -/
theorem isTable_eq_false {st : Setting α} {v : Datum} {a : α} (h : st.check v = .ok a) :
  v.isTable = false
  := by
  cases v with
  | table es => cases st <;> cases h
  | mapping es => cases st <;> cases h
  | _ => rfl

/-- Values of all settings make up settings. -/
theorem exists_settings {P : {α : Type} → Setting α → α → Prop}
    (h : ∀ {α : Type} (st : Setting α), ∃ a, P st a) :
  ∃ s : Settings, ∀ {α : Type} (st : Setting α), P st (st.value s)
  := by
  obtain ⟨level, hlevel⟩ := h .level
  obtain ⟨outputs, houtputs⟩ := h .outputs
  obtain ⟨folder, hfolder⟩ := h .folder
  obtain ⟨libPath, hlibPath⟩ := h .libPath
  obtain ⟨documents, hdocuments⟩ := h .documents
  obtain ⟨extensions, hextensions⟩ := h .extensions
  obtain ⟨maxMegabytes, hmaxMegabytes⟩ := h .maxMegabytes
  obtain ⟨kinds, hkinds⟩ := h .kinds
  use ⟨⟨level, outputs⟩, ⟨folder, libPath⟩, ⟨documents⟩, ⟨extensions, maxMegabytes, kinds⟩⟩
  intro α st
  cases st <;> assumption

end Setting

namespace Validation

variable {d : Datum} {s : Settings}

/-! ### Sections -/

section

variable (h : d.HasTables sectionKeys)

include h

theorem logging_eq_ok_iff {a : LogSettings} :
  field d "logging" .standard logSettings = .ok a
    ↔ Accepts level LogSettings.standard.level (d.under? "logging" "level") a.level
      ∧ Accepts (list logOutput) LogSettings.standard.outputs (d.under? "logging" "outputs") a.outputs
  := by
  refine field_model_eq_ok_iff (Q := fun get? (a : LogSettings) =>
    Accepts level LogSettings.standard.level (get? "level") a.level
      ∧ Accepts (list logOutput) LogSettings.standard.outputs (get? "outputs") a.outputs) ?_ ?_
      (h.sections "logging" (by simp [sectionKeys]))
  · rintro s ⟨level, outputs⟩
    simp [map_eq_ok_iff, both_eq_ok_iff, field_eq_ok_iff]
  · rintro ⟨level, outputs⟩
    simp [Accepts, LogSettings.standard]

theorem program_eq_ok_iff {a : ProgramSettings} :
  field d "program" .standard programSettings = .ok a
    ↔ Accepts relativeFolder ProgramSettings.standard.folder (d.under? "program" "program_dir") a.folder
      ∧ Accepts optionalText none (d.under? "program" "program_lib_path") a.libPath
  := by
  refine field_model_eq_ok_iff (Q := fun get? (a : ProgramSettings) =>
    Accepts relativeFolder ProgramSettings.standard.folder (get? "program_dir") a.folder
      ∧ Accepts optionalText none (get? "program_lib_path") a.libPath) ?_ ?_
      (h.sections "program" (by simp [sectionKeys]))
  · rintro s ⟨folder, libPath⟩
    simp [map_eq_ok_iff, both_eq_ok_iff, field_eq_ok_iff]
  · rintro ⟨folder, libPath⟩
    simp [Accepts, ProgramSettings.standard]

theorem metadata_eq_ok_iff {a : MetadataSettings} :
  field d "metadata" .standard metadataSettings = .ok a
    ↔ Accepts text MetadataSettings.standard.folder (d.under? "metadata" "metadata_dir") a.folder
  := by
  refine field_model_eq_ok_iff (Q := fun get? (a : MetadataSettings) =>
    Accepts text MetadataSettings.standard.folder (get? "metadata_dir") a.folder) ?_ ?_
      (h.sections "metadata" (by simp [sectionKeys]))
  · rintro s ⟨folder⟩
    simp [map_eq_ok_iff, field_eq_ok_iff]
  · rintro ⟨folder⟩
    simp [Accepts, MetadataSettings.standard]

theorem scan_eq_ok_iff {a : ScanSettings} :
  field d "scan" .standard scanSettings = .ok a
    ↔ Accepts (fun v => (list text v).map (·.map withPoint)) ScanSettings.standard.extensions
        (d.under? "scan" "extensions") a.extensions
      ∧ Accepts positive ScanSettings.standard.maxMegabytes (d.under? "scan" "max_file_size_mb")
        a.maxMegabytes
      ∧ Accepts (list (choice Kind.label Kind.all)) ScanSettings.standard.kinds
        (d.under? "scan" "kinds") a.kinds
  := by
  refine field_model_eq_ok_iff (Q := fun get? (a : ScanSettings) =>
    Accepts (fun v => (list text v).map (·.map withPoint)) ScanSettings.standard.extensions
        (get? "extensions") a.extensions
      ∧ Accepts positive ScanSettings.standard.maxMegabytes (get? "max_file_size_mb")
        a.maxMegabytes
      ∧ Accepts (list (choice Kind.label Kind.all)) ScanSettings.standard.kinds
        (get? "kinds") a.kinds) ?_ ?_
      (h.sections "scan" (by simp [sectionKeys]))
  · rintro s ⟨extensions, maxMegabytes, kinds⟩
    simp [map_eq_ok_iff, both_eq_ok_iff, field_eq_ok_iff]
  · rintro ⟨extensions, maxMegabytes, kinds⟩
    simp [Accepts, ScanSettings.standard]

/-- The sections are accepted with some settings exactly if what is given for each setting is. -/
theorem sections_eq_ok_iff :
  sections d = .ok s
    ↔ ∀ {α : Type} (st : Setting α), Accepts st.check st.standard (st.in? d) (st.value s)
  := by
  have hparts : sections d = .ok s
      ↔ field d "logging" .standard logSettings = .ok s.logging
        ∧ field d "program" .standard programSettings = .ok s.program
        ∧ field d "metadata" .standard metadataSettings = .ok s.metadata
        ∧ field d "scan" .standard scanSettings = .ok s.scan := by
    obtain ⟨logging, program, metadata, scan⟩ := s
    rw [sections, map_eq_ok_iff]
    simp [both_eq_ok_iff]
  rw [hparts, logging_eq_ok_iff h, program_eq_ok_iff h, metadata_eq_ok_iff h, scan_eq_ok_iff h]
  constructor
  · rintro ⟨⟨hlevel, houtputs⟩, ⟨hfolder, hlibPath⟩, hdocuments, hextensions, hmaxMegabytes, hkinds⟩
    intro α st
    cases st <;> assumption
  · intro hall
    exact ⟨⟨hall .level, hall .outputs⟩, ⟨hall .folder, hall .libPath⟩, hall .documents,
      hall .extensions, hall .maxMegabytes, hall .kinds⟩

end

/-- All keys of a table are names of sections. -/
def HasOnlySections (d : Datum) : Prop :=
  ∀ key, (d.get? key).isSome = true → key ∈ sectionKeys

theorem hasOnlySections_iff :
  HasOnlySections d ↔ ∀ p ∈ d.entries, p.1 ∈ sectionKeys
  := by
  constructor
  · intro h p hp
    apply h p.1 (isSome_lookup_iff.2 (List.mem_map_of_mem hp))
  · intro h key hkey
    obtain ⟨p, hp, rfl⟩ := List.mem_map.1 (isSome_lookup_iff.1 hkey)
    exact h p hp

theorem hasOnlySections_mergeDatum_iff {base strong : Datum} (hbase : base.isTable = true)
    (hstrong : strong.IsDictionary) :
  HasOnlySections (mergeDatum base strong) ↔ HasOnlySections base ∧ HasOnlySections strong
  := by
  simp only [HasOnlySections, isSome_get?_mergeDatum hbase hstrong, Bool.or_eq_true]
  constructor
  · intro h
    exact ⟨fun key hkey => h key (.inr hkey), fun key hkey => h key (.inl hkey)⟩
  · rintro ⟨hbase, hstrong⟩ key (hkey | hkey)
    · exact hstrong key hkey
    · exact hbase key hkey

/-- The settings are accepted if the sections are and nothing else stands at the top. -/
theorem strictSettings_eq_ok_iff :
  strictSettings d = .ok s ↔ sections d = .ok s ∧ HasOnlySections d
  := by
  let extras : List Rejection :=
    d.entries.filterMap fun e =>
      if sectionKeys.contains e.1 then none
      else some ⟨[e.1], "Extra inputs are not permitted", e.2⟩
  have hextras : extras.isEmpty = true ↔ HasOnlySections d := by
    rw [hasOnlySections_iff, List.isEmpty_iff, List.filterMap_eq_nil_iff]
    simp
  rw [strictSettings, ← hextras]
  cases sections d with
  | error o => simp
  | ok s' =>
    change (if extras.isEmpty then Except.ok s' else .error (Objection.rejected extras))
      = .ok s ↔ _
    by_cases hempty : extras.isEmpty = true
    · simp [hempty]
    · simp [hempty]

end Validation

end AnchorIndex

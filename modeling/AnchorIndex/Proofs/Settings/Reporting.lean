import AnchorIndex.Proofs.Files.Folders
import AnchorIndex.Proofs.Settings.Objecting
import AnchorIndex.Proofs.Settings.Precedence

/-!
# Reported failures

Settings are read from two files: that of the user, and that for all workspaces. Where reading does
not succeed, the failure is reported as a fault of the settings exactly if each file that is read
holds what can be reported (`settles_load_iff`): no scalar that means no value, no keys but texts at
the top, and in the file for all workspaces nothing but a table, none of whose log outputs goes to
the home of somebody who has none.
-/

namespace AnchorIndex

open Validation (HasHomelessOutput sectionKeys)

variable {α : Type}

/-- A computation succeeds, or its failure is reported as a fault of the settings. -/
inductive Settles : Except Failure α → Prop where
  | ok (a : α) : Settles (.ok a)
  | parse (path reason : String) : Settles (.error (.fault (.configParse path reason)))
  | invalid (field : String) (value : Datum) (reason : String) :
    Settles (.error (.fault (.configInvalid field value reason)))

/-- The datum of a text as it is read from a file. -/
def datumOf (text : String) : Yaml.Valued Datum :=
  Yaml.read (String.ofList (Text.foldNewlines text.toList))

/-- No scalar of the text means a value that there is not. -/
def IsPossible (text : String) : Prop :=
  ∀ message, datumOf text ≠ .error (.impossible message)

/-- The text of a user's file can be read, or why not can be reported. -/
structure UserSettles (text : String) : Prop where
  possible : IsPossible text
  keys : ∀ es, datumOf text = .ok (.mapping es) → es = []

/-- The text of the file for all workspaces can be used, or why not can be reported. -/
structure CommonSettles (text : String) : Prop where
  possible : IsPossible text
  isTable : ∀ d, datumOf text = .ok d → d.isEmpty = false → ∃ es, d = .table es
  homes : ∀ d, datumOf text = .ok d → ¬HasHomelessOutput d

/-! ### Reading the files -/

theorem readSettingsFile_text (path text : String) :
  readSettingsFile path (.text text)
    = match datumOf text with
      | .ok d => .ok d
      | .error .malformed => .error (.fault (.configParse path malformedReason))
      | .error (.impossible message) => .error (.argument message)
  := rfl

theorem settles_asFault {c : Validation.Checked α} {p : Prop} (h : Validation.Objects c p) :
  Settles (Validation.asFault c) ↔ ¬p
  := by
  obtain ⟨⟨a, ha⟩, hp⟩ | ⟨⟨field, value, reason, hfault⟩, hp⟩ | ⟨hhomeless, hp⟩ := h.asFault_cases
  · rw [ha]
    exact iff_of_true (.ok a) hp
  · rw [hfault]
    exact iff_of_true (.invalid field value reason) hp
  · rw [hhomeless]
    apply iff_of_false _ (not_not.2 hp)
    rintro ⟨⟩

theorem settles_ofDatum_iff {path : String} {d : Datum} :
  Settles (UserSettings.ofDatum path d) ↔ ∀ es, d = .mapping es → es = []
  := by
  unfold UserSettings.ofDatum
  by_cases hempty : d.isEmpty = true
  · rw [if_pos hempty]
    apply iff_of_true (.ok _)
    rintro es rfl
    exact List.isEmpty_iff.1 hempty
  · rw [if_neg hempty]
    cases d with
    | table es =>
      apply iff_of_true
      · exact (settles_asFault (Validation.objects_userSettings _)).2 not_false
      · rintro _ ⟨⟩
    | mapping es =>
      apply iff_of_false
      · rintro ⟨⟩
      · exact fun h => hempty (List.isEmpty_iff.2 (h es rfl))
    | _ => exact iff_of_true (.parse _ _) fun _ heq => by cases heq

section

variable {disk : Files.Disk} {text : String}

/-- What is done with the datum of a file is reported if the datum can be read and this is
reported. -/
theorem settles_readSettingsFile_iff (path : String) (f : Datum → Except Failure α) :
  Settles ((readSettingsFile path (.text text)).bind f)
    ↔ IsPossible text ∧ ∀ d, datumOf text = .ok d → Settles (f d)
  := by
  rw [readSettingsFile_text, IsPossible]
  cases datumOf text with
  | ok d => simp [Except.bind]
  | error flaw =>
    cases flaw with
    | malformed =>
      apply iff_of_true (.parse path malformedReason)
      simp
    | impossible message =>
      apply iff_of_false
      · rintro ⟨⟩
      · exact fun h => h.1 message rfl

theorem settles_user_iff {path : String} (hhas : disk.has path = .ok true)
    (htext : disk.content path = .ok (.text text)) :
  Settles (UserSettings.load disk path) ↔ UserSettles text
  := by
  have hload : UserSettings.load disk path
      = (readSettingsFile path (.text text)).bind (UserSettings.ofDatum path) := by
    rw [UserSettings.load, hhas, htext]
  rw [hload, settles_readSettingsFile_iff]
  simp only [settles_ofDatum_iff]
  constructor
  · rintro ⟨hpossible, hkeys⟩
    exact ⟨hpossible, fun es heq => hkeys _ heq es rfl⟩
  · rintro ⟨hpossible, hkeys⟩
    refine ⟨hpossible, ?_⟩
    rintro d heq es rfl
    exact hkeys es heq

theorem outputs_toSettings (u : UserSettings) :
  u.toSettings.under? "logging" "outputs" = none
  := by
  rw [UserSettings.toSettings]
  cases u.level <;> rfl

/-- The outputs of a log are those in the file for all workspaces, if nothing else sets them. -/
theorem outputs_merged {l : Layers} (hoverrides : l.overrides = .table [])
    (henvironment : l.environment = .table []) (hcommon : ∀ d ∈ l.common, d.isTable = true)
    (u : UserSettings) :
  (l.merged u).under? "logging" "outputs" = l.common.bind (·.under? "logging" "outputs")
  := by
  have hnothing : (Datum.table []).HasDictionaries sectionKeys :=
    ⟨⟨[], rfl, List.nodup_nil⟩, fun _ _ _ h => nomatch h⟩
  have hlogging : "logging" ∈ sectionKeys := List.mem_cons_self
  have huser := UserSettings.hasDictionaries_toSettings u sectionKeys
  have hstrong : mergeDatum (.table []) (.table []) = .table [] := mergeDatum_table rfl []
  rw [Layers.merged, hoverrides, henvironment, hstrong, Layers.files]
  cases hd : l.common with
  | none =>
    rw [under?_mergeDatum_of_none huser.top.isTable hnothing hlogging rfl, outputs_toSettings]
    rfl
  | some d =>
    have htable := hcommon d hd
    rw [under?_mergeDatum_of_none (isTable_mergeDatum d huser.top.isTable) hnothing hlogging rfl,
      under?_mergeDatum_of_none htable huser hlogging (outputs_toSettings u)]
    rfl

/-- The settings of the two files, where the datum of the second one is known: it has to be a table,
and none of its log outputs may go to the home of somebody who has none. -/
theorem settles_load_of_common {u : UserSettings} {sources : SettingsSources}
    (hu : UserSettings.load disk (disk.path UserSettings.file) = .ok u)
    (hoverrides : sources.overrides = .table []) (henvironment : sources.environment = [])
    {common : Option Datum} (hcommon : sources.commonDatum? = .ok common) :
  Settles (Settings.load disk sources)
    ↔ ∀ d ∈ common, (∃ es, d = .table es) ∧ ¬HasHomelessOutput d
  := by
  by_cases htable : ∀ d ∈ common, ∃ es, d = .table es
  · rw [UserSettings.load_eq_bind] at hu
    obtain ⟨d, hd, hofDatum⟩ := bind_eq_ok_iff.1 hu
    have hread : Layers.AreRead ⟨.table [], .table [], d, common⟩ disk sources := by
      refine ⟨hoverrides, ?_, hd, hcommon⟩
      rw [henvironment]
      rfl
    have hisTable : ∀ d ∈ common, d.isTable = true := by
      intro d hd
      obtain ⟨es, rfl⟩ := htable d hd
      rfl
    have hall : common.all SettingsSources.hasTextKeys = true := by
      cases common with
      | none => rfl
      | some d =>
        obtain ⟨es, rfl⟩ := htable d rfl
        rfl
    rw [Layers.load_eq_asFault hread hofDatum hisTable, if_pos hall,
      settles_asFault (Validation.objects_strictSettings _), HasHomelessOutput,
      outputs_merged rfl rfl hisTable]
    cases common with
    | none => simp
    | some d => simp [HasHomelessOutput, htable d rfl]
  · push Not at htable
    obtain ⟨d, rfl, hne⟩ := htable
    apply iff_of_false
    · rw [Settings.load, hu, hcommon]
      -- what is no table is not merged, and keys that are no texts are refused
      cases d with
      | table es => exact absurd rfl (hne es)
      | mapping es =>
        rw [henvironment]
        rintro ⟨⟩
      | _ => rintro ⟨⟩
    · intro h
      obtain ⟨es, heq⟩ := (h d rfl).1
      exact hne es heq

/-- Without overrides and variables the settings are those of the files. -/
theorem settles_load_of_user {u : UserSettings} {path : String}
    (hu : UserSettings.load disk (disk.path UserSettings.file) = .ok u) :
  Settles (Settings.load disk ⟨path, some (.text text), [], .table []⟩) ↔ CommonSettles text
  := by
  let sources : SettingsSources := ⟨path, some (.text text), [], .table []⟩
  have hcommon : sources.commonDatum?
      = (readSettingsFile path (.text text)).map fun d => if d.isEmpty then none else some d := rfl
  have hload : Settings.load disk sources
      = (readSettingsFile path (.text text)).bind fun _ => Settings.load disk sources := by
    cases hread : readSettingsFile path (.text text) with
    | ok d => rfl
    | error failure =>
      rw [hread] at hcommon
      rw [Settings.load, hu, hcommon]
      rfl
  change Settles (Settings.load disk sources) ↔ _
  rw [hload, settles_readSettingsFile_iff]
  have hdatum : ∀ d, datumOf text = .ok d → (Settles (Settings.load disk sources)
      ↔ (d.isEmpty = false → ∃ es, d = .table es) ∧ ¬HasHomelessOutput d) := by
    intro d hd
    rw [readSettingsFile_text, hd] at hcommon
    rw [settles_load_of_common hu rfl rfl hcommon]
    cases hempty : d.isEmpty with
    | true => simp [hempty, HasHomelessOutput, Datum.under?, UserSettings.get?_of_isEmpty hempty]
    | false => simp [hempty]
  constructor
  · rintro ⟨hpossible, hsettles⟩
    refine ⟨hpossible, fun d hd => ?_, fun d hd => ?_⟩
    · exact ((hdatum d hd).1 (hsettles d hd)).1
    · exact ((hdatum d hd).1 (hsettles d hd)).2
  · rintro ⟨hpossible, htables, hhomes⟩
    exact ⟨hpossible, fun d hd => (hdatum d hd).2 ⟨htables d hd, hhomes d hd⟩⟩

end

theorem spot_teamDisk :
  teamDisk.spot (teamDisk.path UserSettings.file)
    = .ok ⟨[".anchorscan", "config.yaml"],
        some (.file (.text "program_dir: onchain\nlog_level: ERROR\n"))⟩
  := by
  have hplace : Files.Place.ofText (teamDisk.path UserSettings.file)
      = [".anchorscan", "config.yaml"] := by decide +kernel
  apply Files.IsShortPath.spot_eq ⟨by decide +kernel, by decide +kernel⟩
  rw [hplace]
  apply Files.Leads.down rfl ⟨by decide, by decide, by decide +kernel⟩ rfl
    (fun _ => Files.Node.noConfusion)
  apply Files.Leads.down rfl ⟨by decide, by decide, by decide +kernel⟩ rfl
    (fun _ => Files.Node.noConfusion)
  apply Files.Leads.stay

theorem has_teamDisk :
  teamDisk.has (teamDisk.path UserSettings.file) = .ok true
  := by
  rw [Files.Disk.has, Files.Disk.find?, spot_teamDisk]
  rfl

theorem content_teamDisk :
  teamDisk.content (teamDisk.path UserSettings.file)
    = .ok (.text "program_dir: onchain\nlog_level: ERROR\n")
  := by
  rw [Files.Disk.content, spot_teamDisk]
  rfl

end AnchorIndex

import AnchorIndex.Proofs.Settings.Checking
import AnchorIndex.Settings.User

/-!
# Settings of a user as sections

The file of a user is read as a datum (`UserSettings.fileDatum`), which gives settings under keys of
its own. As sections, the settings of the user give what the datum gives, and nothing that it leaves
out (`in?_toSettings`); a library file without a path is left out as well.
-/

namespace AnchorIndex

namespace Validation

variable {α : Type} {v : Datum}

/-! ### Accepted texts -/

theorem text_eq_ok_iff {s : String} :
  text v = .ok s ↔ v = .text s
  := by
  cases v <;> simp [text, reject]

theorem optionalText_eq_ok_iff {s? : Option String} :
  optionalText v = .ok s? ↔ v = .ofText? s?
  := by
  cases s? <;> cases v <;> simp [optionalText, text, reject, Datum.ofText?, Except.map]

theorem exists_text_of_relativeFolder {s : String} (h : relativeFolder v = .ok s) :
  ∃ s, text v = .ok s
  := by
  rw [relativeFolder] at h
  cases htext : text v with
  | error o =>
    rw [htext] at h
    cases h
  | ok s => exact ⟨s, rfl⟩

theorem choice_eq_ok {label : α → String} {all : List α} {a : α} (h : choice label all v = .ok a) :
  v = .text (label a) ∧ a ∈ all
  := by
  cases v with
  | text s =>
    rw [choice] at h
    split at h
    next b hfound =>
      cases h
      have hlabel : label a = s := by simpa using List.find?_some hfound
      exact ⟨by rw [hlabel], List.mem_of_find?_eq_some hfound⟩
    · cases h
  | _ => cases h

end Validation

/-! ### The datum of the file -/

/-- The datum of the file of a user. A file that is not there says nothing. -/
def UserSettings.fileDatum (disk : Files.Disk) (path : String) : Except Failure Datum :=
  match disk.has path with
  | .error refusal => .error (.refused refusal)
  | .ok false => .ok .null
  | .ok true =>
    match disk.content path with
    | .error refusal => .error (.refused refusal)
    | .ok content => readSettingsFile path content

/-- What the datum of a user's file gives for a setting. -/
def Setting.ofUser? {α : Type} (d : Datum) : Setting α → Option Datum
  | folder => d.get? UserSettings.folderKey
  | libPath => (d.get? UserSettings.libPathKey).filter fun v => v.text?.any (· != "")
  | level => d.get? UserSettings.levelKey
  | _ => none

namespace UserSettings

open Validation (Accepts)

variable {d : Datum} {path : String} {u : UserSettings}

theorem load_eq_bind (disk : Files.Disk) (path : String) :
  load disk path = (fileDatum disk path).bind (ofDatum path)
  := by
  rw [load, fileDatum]
  cases disk.has path with
  | error refusal => rfl
  | ok present =>
    cases present with
    | false => rfl
    | true => cases disk.content path <;> rfl

theorem ofDatum_eq_ok_iff :
  ofDatum path d = .ok u
    ↔ d.isEmpty = true ∧ u = standard
      ∨ d.isEmpty = false ∧ ∃ es, d = .table es ∧ Validation.userSettings d = .ok u
  := by
  by_cases hempty : d.isEmpty = true
  · simp [ofDatum, hempty, eq_comm]
  · unfold ofDatum
    rw [if_neg hempty]
    cases d with
    | table es => simp [hempty, Validation.asFault_eq_ok_iff]
    | _ => simp [hempty]

/-- What the datum of a file gives is what the user sets. -/
structure Says (d : Datum) (u : UserSettings) : Prop where
  folder : d.get? folderKey = u.folder.map Datum.text
  libPath : d.get? libPathKey = u.libPath.map Datum.ofText?
  level : d.get? levelKey = u.level.map fun l => Datum.text l.label

theorem get?_of_isEmpty (h : d.isEmpty = true) (key : String) :
  d.get? key = none
  := by
  have hentries : d.entries = [] := by
    cases d with
    | table es => exact List.isEmpty_iff.1 h
    | mapping es => simp [Datum.entries, List.isEmpty_iff.1 h]
    | _ => rfl
  rw [Datum.get?, hentries]
  rfl

/-- A value that is given and accepted is one that the accepted text comes from. -/
theorem map_eq_of_accepts {α : Type} {check : Datum → Validation.Checked α} {f : α → Datum}
    {v? : Option Datum} {a? : Option α} (hcheck : ∀ v a, check v = .ok a → v = f a)
    (h : Accepts (fun v => (check v).map some) none v? a?) :
  v? = a?.map f
  := by
  cases v? with
  | none =>
    cases h
    rfl
  | some v =>
    obtain ⟨a, ha, rfl⟩ := Validation.map_eq_ok_iff.1 h
    rw [hcheck v a ha]
    rfl

theorem says_of_ofDatum (h : ofDatum path d = .ok u) :
  Says d u
  := by
  obtain ⟨hempty, rfl⟩ | ⟨-, es, -, hchecked⟩ := ofDatum_eq_ok_iff.1 h
  · exact ⟨get?_of_isEmpty hempty _, get?_of_isEmpty hempty _, get?_of_isEmpty hempty _⟩
  · obtain ⟨⟨folder, libPath, level⟩, hfields, rfl⟩ := Validation.map_eq_ok_iff.1 hchecked
    rw [Validation.both_eq_ok_iff, Validation.both_eq_ok_iff] at hfields
    obtain ⟨hfolder, hlibPath, hlevel⟩ := hfields
    constructor
    · exact map_eq_of_accepts (fun v a => Validation.text_eq_ok_iff.1) (Validation.field_eq_ok_iff.1 hfolder)
    · exact map_eq_of_accepts (fun v a => Validation.optionalText_eq_ok_iff.1) (Validation.field_eq_ok_iff.1 hlibPath)
    · exact map_eq_of_accepts (fun v a ha => (Validation.choice_eq_ok ha).1) (Validation.field_eq_ok_iff.1 hlevel)

/-- A value that may be left out is accepted if it is accepted where it is given. -/
theorem exists_given {α : Type} {check : Datum → Validation.Checked α} {key : String}
    (h : ∀ v, d.get? key = some v → ∃ a, check v = .ok a) :
  ∃ a?, Validation.given d key check = .ok a?
  := by
  simp only [Validation.given, Validation.field_eq_ok_iff]
  cases hv : d.get? key with
  | none => exact ⟨none, rfl⟩
  | some v =>
    obtain ⟨a, ha⟩ := h v hv
    exact ⟨some a, Validation.map_eq_ok_iff.2 ⟨a, ha, rfl⟩⟩

/-- The settings of a user are accepted if all values that are given are. -/
theorem exists_userSettings
    (hfolder : ∀ v, d.get? folderKey = some v → ∃ s, Validation.text v = .ok s)
    (hlibPath : ∀ v, d.get? libPathKey = some v → ∃ s?, Validation.optionalText v = .ok s?)
    (hlevel : ∀ v, d.get? levelKey = some v → ∃ l, Validation.level v = .ok l) :
  ∃ u, Validation.userSettings d = .ok u
  := by
  obtain ⟨folder, hfolder⟩ := exists_given hfolder
  obtain ⟨libPath, hlibPath⟩ := exists_given hlibPath
  obtain ⟨level, hlevel⟩ := exists_given hlevel
  use ⟨folder, libPath, level⟩
  rw [Validation.userSettings, hfolder, hlibPath, hlevel]
  rfl

/-! ### The user's sections -/

theorem entries_toSettings (u : UserSettings) :
  ∃ program logging, u.toSettings = .table [("program", .table program), ("logging", .table logging)]
    ∧ (program.map Prod.fst).Nodup ∧ (logging.map Prod.fst).Nodup
  := by
  refine ⟨_, _, rfl, ?_, ?_⟩
  · cases u.folder <;> cases (u.libPath.getD none).filter (· != "") <;> simp
  · cases u.level <;> simp

theorem hasOnlySections_toSettings (u : UserSettings) :
  Validation.HasOnlySections u.toSettings
  := by
  obtain ⟨program, logging, heq, -, -⟩ := u.entries_toSettings
  rw [heq, Validation.hasOnlySections_iff]
  simp [Datum.entries, Validation.sectionKeys]

theorem hasDictionaries_toSettings (u : UserSettings) (names : List String) :
  u.toSettings.HasDictionaries names
  := by
  obtain ⟨program, logging, heq, hprogram, hlogging⟩ := u.entries_toSettings
  rw [heq]
  constructor
  · exact ⟨_, rfl, by simp⟩
  · intro name hname s hs
    obtain heq | heq : s = .table program ∨ s = .table logging := by
      have hmem := List.mem_map_of_mem (f := Prod.snd) (mem_of_lookup_eq_some hs)
      simpa [Datum.entries] using hmem
    · exact ⟨program, heq, hprogram⟩
    · exact ⟨logging, heq, hlogging⟩

/-- The library file that is given is one with a path. -/
theorem ofUser?_libPath (h : Says d u) :
  Setting.libPath.ofUser? d = ((u.libPath.getD none).filter (· != "")).map Datum.text
  := by
  rw [Setting.ofUser?, h.libPath]
  obtain _ | _ | s := u.libPath
  · rfl
  · rfl
  · by_cases hs : s = "" <;> simp [Datum.ofText?, Datum.text?, Option.filter, hs]

/-- The sections of the user give what the datum of the file gives. -/
theorem in?_toSettings (h : Says d u) {α : Type} (st : Setting α) :
  st.in? u.toSettings = st.ofUser? d
  := by
  cases st with
  | level =>
    rw [Setting.ofUser?, h.level]
    rw [Setting.in?, toSettings]
    cases u.level <;> rfl
  | outputs =>
    rw [Setting.in?, toSettings]
    cases u.level <;> rfl
  | folder =>
    rw [Setting.ofUser?, h.folder, Setting.in?, toSettings]
    cases u.folder with
    | some s => rfl
    | none => cases (u.libPath.getD none).filter (· != "") <;> rfl
  | libPath =>
    rw [ofUser?_libPath h, Setting.in?, toSettings]
    cases u.folder <;> cases (u.libPath.getD none).filter (· != "") <;> rfl
  | documents => rfl
  | extensions => rfl
  | maxMegabytes => rfl
  | kinds => rfl

end UserSettings

end AnchorIndex

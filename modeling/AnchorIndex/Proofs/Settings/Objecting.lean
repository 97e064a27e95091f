import AnchorIndex.Proofs.Settings.Checking
import AnchorIndex.Settings.User

/-!
# Objections to settings

A check that fails rejects at least one value, unless it ends at a path that starts at the home of
somebody who has none (`Objects`). The settings are checked to the end but for the destinations of
log outputs (`objects_sections`).
-/

namespace AnchorIndex.Validation

variable {α β : Type} {d v : Datum} {p q : Prop}

/-- The check ends for want of a home exactly if `p`, and if it rejects, it rejects some value. -/
structure Objects (c : Checked α) (p : Prop) : Prop where
  homeless : c = .error .homeless ↔ p
  rejects : c ≠ .error (.rejected [])

theorem Objects.of_iff {c : Checked α} (h : Objects c p) (hpq : p ↔ q) :
  Objects c q
  := ⟨h.homeless.trans hpq, h.rejects⟩

/-! ### Single checks -/

theorem objects_ok (a : α) :
  Objects (.ok a : Checked α) False
  := by
  constructor <;> simp

theorem objects_reject (message : String) (d : Datum) :
  Objects (reject message d : Checked α) False
  := by
  constructor <;> simp [reject]

theorem objects_text (d : Datum) :
  Objects (text d) False
  := by
  cases d with
  | text s => exact objects_ok s
  | _ => exact objects_reject _ _

theorem objects_choice (label : α → String) (all : List α) (d : Datum) :
  Objects (choice label all d) False
  := by
  unfold choice
  dsimp only
  split
  · exact objects_ok _
  · exact objects_reject _ _

theorem objects_integer (d : Datum) :
  Objects (integer d) False
  := by
  rw [integer]
  split
  · exact objects_ok _
  · exact objects_reject _ _

/-! ### Checks of parts -/

theorem Objects.both {a : Checked α} {b : Checked β} (ha : Objects a p) (hb : Objects b q) :
  Objects (both a b) (p ∨ q)
  := by
  obtain ⟨hp, hra⟩ := ha
  obtain ⟨hq, hrb⟩ := hb
  rw [← hp, ← hq]
  cases a with
  | ok x =>
    cases b with
    | ok y => constructor <;> simp [Validation.both]
    | error o => exact ⟨by simp [Validation.both], by simpa [Validation.both] using hrb⟩
  | error o =>
    cases b with
    | ok y => exact ⟨by simp [Validation.both], by simpa [Validation.both] using hra⟩
    | error o' =>
      cases o <;> cases o' <;> constructor <;> simp_all [Validation.both, Objection.and]

theorem Objects.within {a : Checked α} (h : Objects a p) (key : String) :
  Objects (within key a) p
  := by
  obtain ⟨hp, hr⟩ := h
  rw [← hp]
  cases a with
  | ok x => constructor <;> simp [Validation.within]
  | error o => cases o <;> constructor <;> simp_all [Validation.within]

theorem Objects.map {a : Checked α} (h : Objects a p) (f : α → β) :
  Objects (a.map f) p
  := by
  obtain ⟨hp, hr⟩ := h
  rw [← hp]
  cases a <;> constructor <;> simp_all [Except.map]

/-- The value under a key is checked, if there is one. -/
theorem objects_field {check : Datum → Checked α} {P : Datum → Prop}
    (h : ∀ v, Objects (check v) (P v)) (d : Datum) (key : String) (default : α) :
  Objects (field d key default check) (∃ v, d.get? key = some v ∧ P v)
  := by
  rw [field]
  cases d.get? key with
  | none => exact (objects_ok default).of_iff (by simp)
  | some v => exact ((h v).within key).of_iff (by simp)

/-- A section is checked if it is a table. -/
theorem Objects.inModel {c : Checked α} (h : Objects c p) (name : String) (d : Datum) :
  Objects (model name (fun _ => c) d) (d.isTable = true ∧ p)
  := by
  rw [model]
  split
  next htable => exact h.of_iff (by simp [htable])
  next htable => exact (objects_reject _ d).of_iff (by simp [htable])

theorem objects_collect {check : Datum → Checked α} {P : Datum → Prop}
    (h : ∀ v, Objects (check v) (P v)) (items : List (Datum × Nat)) :
  Objects (collect (items.map fun (item, i) => within (toString i) (check item)))
    (∃ item ∈ items, P item.1)
  := by
  induction items with
  | nil => exact (objects_ok []).of_iff (by simp)
  | cons item items ih =>
    rw [List.map_cons, collect]
    exact ((((h item.1).within _).both ih).map _).of_iff (by simp)

/-- All items of a list are checked. -/
theorem objects_list {check : Datum → Checked α} {P : Datum → Prop}
    (h : ∀ v, Objects (check v) (P v)) (d : Datum) :
  Objects (list check d) (∃ items, d = .list items ∧ ∃ item ∈ items, P item)
  := by
  cases d with
  | list items =>
    apply (objects_collect h items.zipIdx).of_iff
    constructor
    · rintro ⟨⟨item, i⟩, hitem, hp⟩
      exact ⟨items, rfl, item, List.fst_mem_of_mem_zipIdx hitem, hp⟩
    · rintro ⟨_, heq, item, hitem, hp⟩
      cases heq
      rw [← List.zipIdx_map_fst 0 items] at hitem
      obtain ⟨indexed, hindexed, rfl⟩ := List.mem_map.1 hitem
      exact ⟨indexed, hindexed, hp⟩
  | _ => exact (objects_reject _ _).of_iff (by simp)

/-! ### All settings -/

/-- A destination of a log output that starts at the home of somebody who has none. -/
def IsHomeless (v : Datum) : Prop :=
  ∃ s, v = .text s ∧ s ≠ "stderr" ∧ s ≠ "stdout" ∧ fromHome? s = none

theorem objects_destination (v : Datum) :
  Objects (destination v) (IsHomeless v)
  := by
  cases v with
  | text s =>
    have htext : text (.text s) = .ok s := rfl
    rw [destination, htext]
    dsimp only
    split
    next hstream =>
      apply (objects_ok s).of_iff
      simp only [IsHomeless, Datum.text.injEq, false_iff, not_exists, not_and]
      rintro _ rfl herr hout
      exact absurd hstream (not_or.2 ⟨herr, hout⟩)
    next hstream =>
      obtain ⟨herr, hout⟩ := not_or.1 hstream
      cases hhome : fromHome? s with
      | none =>
        constructor
        · simp [IsHomeless, herr, hout, hhome]
        · simp
      | some path =>
        have hnot : False ↔ IsHomeless (.text s) := by simp [IsHomeless, hhome]
        dsimp only
        split
        · exact (objects_ok _).of_iff hnot
        · exact (objects_reject _ _).of_iff hnot
  | _ => exact (objects_reject _ _).of_iff (by simp [IsHomeless])

theorem objects_optionalText (v : Datum) :
  Objects (optionalText v) False
  := by
  unfold optionalText
  split
  · exact objects_ok none
  · exact (objects_text v).map some

theorem objects_optionalLevel (v : Datum) :
  Objects (optionalLevel v) False
  := by
  unfold optionalLevel
  split
  · exact objects_ok none
  · exact (objects_choice _ _ v).map some

theorem objects_relativeFolder (v : Datum) :
  Objects (relativeFolder v) False
  := by
  cases v with
  | text s =>
    rw [relativeFolder, text]
    dsimp only
    split
    · exact objects_reject _ _
    · exact objects_ok s
  | _ => exact objects_reject _ _

theorem objects_positive (v : Datum) :
  Objects (positive v) False
  := by
  have hinteger := objects_integer v
  rw [positive]
  cases hn : integer v with
  | error o =>
    rw [hn] at hinteger
    exact ⟨by simpa using hinteger.homeless, by simpa using hinteger.rejects⟩
  | ok n =>
    dsimp only
    split
    · exact objects_reject _ _
    · exact objects_ok n

/-- A log output whose destination starts at the home of somebody who has none. -/
def HasHomelessDestination (v : Datum) : Prop :=
  ∃ destination, v.get? "destination" = some destination ∧ IsHomeless destination

theorem objects_logOutput (v : Datum) :
  Objects (logOutput v) (HasHomelessDestination v)
  := by
  have hfields := (objects_field (objects_choice LogFormat.label LogFormat.all) v "format"
      LogFormat.console).both
    ((objects_field objects_destination v "destination" "stderr").both
      (objects_field objects_optionalLevel v "level" none))
  apply ((hfields.map _).inModel "LogOutputConfig" v).of_iff
  constructor
  · simp [HasHomelessDestination]
  · rintro ⟨destination, hdestination, hhomeless⟩
    exact ⟨isTable_of_get? hdestination, .inr (.inl ⟨destination, hdestination, hhomeless⟩)⟩

/-- The logging section has an output whose destination starts at the home of somebody who has
none. -/
def HasHomelessOutput (d : Datum) : Prop :=
  ∃ items, d.under? "logging" "outputs" = some (.list items)
    ∧ ∃ item ∈ items, HasHomelessDestination item

theorem objects_logSettings (v : Datum) :
  Objects (logSettings v) (v.isTable = true ∧ ∃ outputs, v.get? "outputs" = some outputs
    ∧ ∃ items, outputs = .list items ∧ ∃ item ∈ items, HasHomelessDestination item)
  := by
  have hfields := (objects_field (objects_choice Level.label Level.all) v "level"
      LogSettings.standard.level).both
    (objects_field (objects_list objects_logOutput) v "outputs" LogSettings.standard.outputs)
  exact ((hfields.map _).inModel "LoggingConfig" v).of_iff (by simp)

theorem objects_programSettings (v : Datum) :
  Objects (programSettings v) False
  := by
  have hfields := (objects_field objects_relativeFolder v "program_dir"
      ProgramSettings.standard.folder).both
    (objects_field objects_optionalText v "program_lib_path" none)
  exact ((hfields.map _).inModel "ProgramConfig" v).of_iff (by simp)

theorem objects_metadataSettings (v : Datum) :
  Objects (metadataSettings v) False
  := by
  have hfields := objects_field objects_text v "metadata_dir" MetadataSettings.standard.folder
  exact ((hfields.map _).inModel "MetadataConfig" v).of_iff (by simp)

theorem objects_scanSettings (v : Datum) :
  Objects (scanSettings v) False
  := by
  have hfields := (objects_field (fun v => (objects_list objects_text v).map (·.map withPoint)) v
      "extensions" ScanSettings.standard.extensions).both
    ((objects_field objects_positive v "max_file_size_mb" ScanSettings.standard.maxMegabytes).both
      (objects_field (objects_list (objects_choice Kind.label Kind.all)) v "kinds"
        ScanSettings.standard.kinds))
  exact ((hfields.map _).inModel "ScanConfig" v).of_iff (by simp)

/-- The sections are checked to the end unless a log output has no home. -/
theorem objects_sections (d : Datum) :
  Objects (sections d) (HasHomelessOutput d)
  := by
  have hfields := (objects_field objects_logSettings d "logging" .standard).both
    ((objects_field objects_programSettings d "program" .standard).both
      ((objects_field objects_metadataSettings d "metadata" .standard).both
        (objects_field objects_scanSettings d "scan" .standard)))
  apply (hfields.map _).of_iff
  constructor
  · rintro (⟨logging, hlogging, -, _, houtputs, items, rfl, hitem⟩ | h)
    · exact ⟨items, Option.bind_eq_some_iff.2 ⟨logging, hlogging, houtputs⟩, hitem⟩
    · simp at h
  · rintro ⟨items, hitems, hitem⟩
    obtain ⟨logging, hlogging, houtputs⟩ := Option.bind_eq_some_iff.1 hitems
    exact .inl ⟨logging, hlogging, isTable_of_get? houtputs, _, houtputs, items, rfl, hitem⟩

theorem objects_strictSettings (d : Datum) :
  Objects (strictSettings d) (HasHomelessOutput d)
  := by
  obtain ⟨hhomeless, hrejects⟩ := objects_sections d
  rw [strictSettings]
  dsimp only
  rw [← hhomeless]
  cases hs : sections d with
  | ok s =>
    dsimp only
    split
    · exact (objects_ok s).of_iff (by simp)
    next hextras =>
      constructor
      · simp
      · intro heq
        apply hextras
        rw [Objection.rejected.inj (Except.error.inj heq)]
        rfl
  | error o =>
    rw [hs] at hrejects
    cases o with
    | homeless => constructor <;> simp [Objection.and]
    | rejected rs =>
      constructor
      · simp [Objection.and]
      · intro heq
        obtain ⟨hnil, -⟩ := List.append_eq_nil_iff.1 (Objection.rejected.inj (Except.error.inj heq))
        apply hrejects
        rw [hnil]

/-- A check that does not end for want of a home succeeds or is reported as a fault. -/
theorem Objects.asFault_cases {c : Checked α} (h : Objects c p) :
  (∃ a, asFault c = .ok a) ∧ ¬p
    ∨ (∃ field value reason, asFault c = .error (.fault (.configInvalid field value reason))) ∧ ¬p
    ∨ asFault c = .error .homeless ∧ p
  := by
  obtain ⟨hhomeless, hrejects⟩ := h
  rw [← hhomeless]
  cases c with
  | ok a => exact .inl ⟨⟨a, rfl⟩, by simp⟩
  | error o =>
    cases o with
    | homeless => exact .inr (.inr ⟨rfl, rfl⟩)
    | rejected rs =>
      cases rs with
      | nil => exact absurd rfl hrejects
      | cons r rs => exact .inr (.inl ⟨⟨_, _, _, rfl⟩, by simp⟩)

theorem objects_userSettings (d : Datum) :
  Objects (userSettings d) False
  := by
  have hgiven {α : Type} {check : Datum → Checked α} (h : ∀ v, Objects (check v) False)
      (key : String) : Objects (given d key check) False :=
    (objects_field (fun v => (h v).map some) d key none).of_iff (by simp)
  have hfields := (hgiven objects_text UserSettings.folderKey).both
    ((hgiven objects_optionalText UserSettings.libPathKey).both
      (hgiven (objects_choice Level.label Level.all) UserSettings.levelKey))
  exact (hfields.map _).of_iff (by simp)

end AnchorIndex.Validation

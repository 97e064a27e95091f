import AnchorIndex.Proofs.Files.Written
import AnchorIndex.Proofs.Settings.Rendering

/-!
# Settings that are written and read back

The file of a user is written with its values as they are. So a value comes back only if it is the
plain scalar that it is read as, which stands for a text (`IsPlainText`). Of values that begin as
plain scalars, on one line each, all come back exactly if all are such texts (`comesBack_iff`).
-/

namespace AnchorIndex

open Yaml

theorem Level.label_injective {a b : Level} (h : a.label = b.label) :
  a = b
  := by
  cases a <;> cases b <;> first | rfl | exact absurd h (by decide)

namespace UserSettings

/-! ### What is read -/

/-- The values are those of other settings, with the defaults of what these leave out. -/
structure SameValues (u u' : UserSettings) : Prop where
  folder : u'.folderOrDefault = u.folderOrDefault
  libPath : u'.libPathOrDefault = u.libPathOrDefault
  level : u'.levelOrDefault = u.levelOrDefault

/-- Reading the file at a path gives the values of some settings. -/
def ComesBack (disk : Files.Disk) (path : String) (u : UserSettings) : Prop :=
  ∃ u', load disk path = .ok u' ∧ SameValues u u'

/-- Each scalar stands for the value that it begins. -/
structure StandForValues (u : UserSettings) (folder : List Char × List Char)
    (libPath : Option (List Char × List Char)) : Prop where
  folder : plainValue (String.ofList folder.1) = .ok (.text u.folderOrDefault)
  libPath : ∀ s, libPath = some s → ∀ p, u.libPathOrDefault = some p →
    plainValue (String.ofList s.1) = .ok (.text p)

variable {u : UserSettings} {folder : List Char × List Char}
  {libPath : Option (List Char × List Char)}

section

variable {ds : List (String × Datum)} {u' : UserSettings}

theorem lookup_folderKey (hds : (entriesOf (u.fileRows folder libPath)).mapM valueOf = .ok ds) :
  ∃ d, ds.lookup folderKey = some d ∧ plainValue (String.ofList folder.1) = .ok d
  := by
  apply lookup_of_mapM_valueOf hds
  rw [entriesOf_fileRows, List.lookup_cons_self]

theorem lookup_libPathKey {s : List Char × List Char}
    (hds : (entriesOf (u.fileRows folder (some s))).mapM valueOf = .ok ds) :
  ∃ d, ds.lookup libPathKey = some d ∧ plainValue (String.ofList s.1) = .ok d
  := by
  apply lookup_of_mapM_valueOf hds
  rw [entriesOf_fileRows]
  simp [List.lookup_cons, folderKey, libPathKey]

theorem lookup_libPathKey_none (hds : (entriesOf (u.fileRows folder none)).mapM valueOf = .ok ds) :
  ds.lookup libPathKey = none
  := by
  apply lookup_eq_none_of_mapM_valueOf hds
  rw [entriesOf_fileRows]
  split <;> simp [folderKey, libPathKey, levelKey]

theorem lookup_levelKey (hds : (entriesOf (u.fileRows folder libPath)).mapM valueOf = .ok ds) :
  ds.lookup levelKey
    = if u.levelOrDefault = LogSettings.standard.level then none
      else some (.text u.levelOrDefault.label)
  := by
  by_cases hstandard : u.levelOrDefault = LogSettings.standard.level
  · rw [if_pos hstandard]
    apply lookup_eq_none_of_mapM_valueOf hds
    rw [entriesOf_fileRows, if_pos hstandard]
    cases libPath <;> simp [folderKey, libPathKey, levelKey]
  · have hlookup : (entriesOf (u.fileRows folder libPath)).lookup levelKey
        = some u.levelOrDefault.label := by
      rw [entriesOf_fileRows, if_neg hstandard]
      cases libPath <;> simp [List.lookup_cons, folderKey, libPathKey, levelKey]
    obtain ⟨d, hd, hvalue⟩ := lookup_of_mapM_valueOf hds hlookup
    rw [(isPlainText_label _).value] at hvalue
    cases hvalue
    rw [if_neg hstandard, hd]

theorem folder_eq_iff (hds : (entriesOf (u.fileRows folder libPath)).mapM valueOf = .ok ds)
    (hsaid : Says (.table ds) u') :
  u'.folderOrDefault = u.folderOrDefault
    ↔ plainValue (String.ofList folder.1) = .ok (.text u.folderOrDefault)
  := by
  obtain ⟨d, hd, hvalue⟩ := lookup_folderKey hds
  have hgiven : ds.lookup folderKey = u'.folder.map Datum.text := hsaid.folder
  rw [hd, eq_comm, Option.map_eq_some_iff] at hgiven
  obtain ⟨x, hx, rfl⟩ := hgiven
  rw [folderOrDefault, hx, hvalue]
  simp

theorem libPath_eq_iff (h : IsSplit u folder libPath)
    (hds : (entriesOf (u.fileRows folder libPath)).mapM valueOf = .ok ds)
    (hsaid : Says (.table ds) u') :
  u'.libPathOrDefault = u.libPathOrDefault
    ↔ ∀ s, libPath = some s → ∀ p, u.libPathOrDefault = some p →
        plainValue (String.ofList s.1) = .ok (.text p)
  := by
  have hgiven : ds.lookup libPathKey = u'.libPath.map Datum.ofText? := hsaid.libPath
  cases libPath with
  | none =>
    rw [lookup_libPathKey_none hds, eq_comm, Option.map_eq_none_iff] at hgiven
    rw [libPathOrDefault, hgiven, h.libPathOrDefault_eq_none]
    simp [ProgramSettings.standard]
  | some s =>
    obtain ⟨d, hd, hvalue⟩ := lookup_libPathKey hds
    obtain ⟨p, hp, -⟩ := h.exists_libPath rfl
    rw [hd, eq_comm, Option.map_eq_some_iff] at hgiven
    obtain ⟨x, hx, rfl⟩ := hgiven
    rw [libPathOrDefault, hx, hp]
    cases x with
    | none => simp [hvalue, Datum.ofText?]
    | some t => simp [hvalue, Datum.ofText?]

theorem level_eq (hds : (entriesOf (u.fileRows folder libPath)).mapM valueOf = .ok ds)
    (hsaid : Says (.table ds) u') :
  u'.levelOrDefault = u.levelOrDefault
  := by
  have hgiven : ds.lookup levelKey = u'.level.map fun l => Datum.text l.label := hsaid.level
  rw [lookup_levelKey hds] at hgiven
  split at hgiven
  next hstandard =>
    rw [eq_comm, Option.map_eq_none_iff] at hgiven
    rw [levelOrDefault, hgiven, hstandard]
    rfl
  next =>
    rw [eq_comm, Option.map_eq_some_iff] at hgiven
    obtain ⟨l, hl, hlabel⟩ := hgiven
    rw [levelOrDefault, hl]
    exact Level.label_injective (Datum.text.inj hlabel)

/-- The values come back exactly if the scalars stand for them. -/
theorem sameValues_iff (h : IsSplit u folder libPath)
    (hds : (entriesOf (u.fileRows folder libPath)).mapM valueOf = .ok ds)
    (hsaid : Says (.table ds) u') :
  SameValues u u' ↔ StandForValues u folder libPath
  := by
  constructor
  · rintro ⟨hfolder, hlibPath, -⟩
    exact ⟨(folder_eq_iff hds hsaid).1 hfolder, (libPath_eq_iff h hds hsaid).1 hlibPath⟩
  · rintro ⟨hfolder, hlibPath⟩
    exact ⟨(folder_eq_iff hds hsaid).2 hfolder, (libPath_eq_iff h hds hsaid).2 hlibPath,
      level_eq hds hsaid⟩

end

/-- The file that is written is the one that is read. -/
theorem load_of_write {disk disk' : Files.Disk} {path : String}
    (h : disk.write path (.text u.render) = .ok disk') {u' : UserSettings} :
  load disk' path = .ok u' ↔ ∃ d, datumOf u.render = .ok d ∧ ofDatum path d = .ok u'
  := by
  rw [load, Files.has_of_write h]
  dsimp only
  rw [Files.content_of_write h]
  dsimp only
  rw [readSettingsFile_text]
  cases datumOf u.render with
  | ok d => simp [Except.bind]
  | error flaw => cases flaw <;> simp [Except.bind]

/-- Values that stand for texts are accepted. -/
theorem exists_ofDatum (h : IsSplit u folder libPath) (path : String)
    (hvalues : StandForValues u folder libPath) :
  ∃ ds u', (entriesOf (u.fileRows folder libPath)).mapM valueOf = .ok ds ∧
    ofDatum path (.table ds) = .ok u'
  := by
  obtain ⟨hfolder, hlibPath⟩ := hvalues
  obtain ⟨ds, hds⟩ : ∃ ds, (entriesOf (u.fileRows folder libPath)).mapM valueOf = .ok ds := by
    apply exists_mapM_valueOf
    rw [entriesOf_fileRows, List.forall_mem_cons, List.forall_mem_append]
    refine ⟨⟨_, hfolder⟩, ?_, ?_⟩
    · intro e he
      obtain ⟨s, hs, rfl⟩ : ∃ s, libPath = some s ∧ (libPathKey, String.ofList s.1) = e := by
        simpa using he
      obtain ⟨p, hp, -⟩ := h.exists_libPath hs
      exact ⟨_, hlibPath s hs p hp⟩
    · intro e he
      split at he
      · cases he
      · rw [List.mem_singleton.1 he]
        exact ⟨_, (isPlainText_label _).value⟩
  obtain ⟨d, hd, hvalue⟩ := lookup_folderKey hds
  obtain ⟨u', hu'⟩ : ∃ u', Validation.userSettings (.table ds) = .ok u' := by
    apply exists_userSettings
    · intro v hv
      obtain rfl : d = v := Option.some.inj (hd.symm.trans hv)
      rw [hfolder] at hvalue
      exact ⟨_, Validation.text_eq_ok_iff.2 (Except.ok.inj hvalue).symm⟩
    · intro v hv
      cases libPath with
      | none =>
        cases (lookup_libPathKey_none hds).symm.trans hv
      | some s =>
        obtain ⟨d', hd', hvalue'⟩ := lookup_libPathKey hds
        obtain rfl : d' = v := Option.some.inj (hd'.symm.trans hv)
        obtain ⟨p, hp, -⟩ := h.exists_libPath rfl
        rw [hlibPath s rfl p hp] at hvalue'
        exact ⟨some p, Validation.optionalText_eq_ok_iff.2 (Except.ok.inj hvalue').symm⟩
    · intro v hv
      have hlevel := (lookup_levelKey hds).symm.trans hv
      split at hlevel
      · cases hlevel
      · cases hlevel
        use u.levelOrDefault
        cases u.levelOrDefault <;> rfl
  have hempty : (Datum.table ds).isEmpty = false := by
    cases ds with
    | nil => cases hd
    | cons e ds => rfl
  exact ⟨ds, u', hds, ofDatum_eq_ok_iff.2 (.inr ⟨hempty, ds, rfl, hu'⟩)⟩

/-- What is written comes back exactly if it can be read and the scalars stand for the values. -/
theorem comesBack_of_write_iff {disk disk' : Files.Disk} {path : String}
    (hwrite : disk.write path (.text u.render) = .ok disk') (h : IsSplit u folder libPath) :
  ComesBack disk' path u ↔ AreReadable folder libPath ∧ StandForValues u folder libPath
  := by
  by_cases hreadable : AreReadable folder libPath
  · have hdatum := datumOf_render_of_areReadable h hreadable
    constructor
    · rintro ⟨u', hload, hsame⟩
      obtain ⟨d, hd, hof⟩ := (load_of_write hwrite).1 hload
      cases hds : (entriesOf (u.fileRows folder libPath)).mapM valueOf with
      | error flaw =>
        rw [hdatum, hds] at hd
        cases hd
      | ok ds =>
        rw [hdatum, hds] at hd
        cases hd
        exact ⟨hreadable, (sameValues_iff h hds (says_of_ofDatum hof)).1 hsame⟩
    · rintro ⟨-, hvalues⟩
      obtain ⟨ds, u', hds, hof⟩ := exists_ofDatum h path hvalues
      refine ⟨u', (load_of_write hwrite).2 ⟨.table ds, ?_, hof⟩, ?_⟩
      · rw [hdatum, hds]
        rfl
      · exact (sameValues_iff h hds (says_of_ofDatum hof)).2 hvalues
  · have hdatum := datumOf_render_of_not_areReadable h hreadable
    apply iff_of_false _ fun h => hreadable h.1
    rintro ⟨u', hload, -⟩
    obtain ⟨d, hd, -⟩ := (load_of_write hwrite).1 hload
    rw [hdatum] at hd
    cases hd

/-- A value on one line that begins as a plain scalar. -/
structure BeginsLine (v : String) : Prop where
  begins : BeginsPlain v.toList
  line : OnOneLine v.toList

theorem exists_isSplit (hfolder : BeginsLine u.folderOrDefault)
    (hlibPath : ∀ p, u.libPathOrDefault = some p → BeginsLine p) :
  ∃ folder libPath, IsSplit u folder libPath
  := by
  obtain ⟨text, tail, hsplits⟩ := exists_splits hfolder.begins hfolder.line
  cases hp : u.libPathOrDefault with
  | none =>
    refine ⟨(text, tail), none, hsplits, ?_⟩
    rw [hp]
    exact .none
  | some p =>
    obtain ⟨text', tail', hsplits'⟩ := exists_splits (hlibPath p hp).begins (hlibPath p hp).line
    refine ⟨(text, tail), some (text', tail'), hsplits, ?_⟩
    rw [hp]
    exact .some hsplits'

/-- A disk with an empty top folder. -/
def bareDisk : Files.Disk where
  folder := "/"
  tree := .folder []

theorem exists_write_bareDisk (c : Files.Content) :
  ∃ disk', bareDisk.write "/config.yaml" c = .ok disk'
  := by
  have hfree :
      (bareDisk.spot "/config.yaml").toOption.any (fun spot => spot.entry?.isNone) = true := by
    decide +kernel
  rw [Files.Disk.write]
  cases hspot : bareDisk.spot "/config.yaml" with
  | error refusal =>
    rw [hspot] at hfree
    cases hfree
  | ok spot =>
    obtain ⟨place, _ | node⟩ := spot
    · exact ⟨_, rfl⟩
    · rw [hspot] at hfree
      cases hfree

end UserSettings

end AnchorIndex

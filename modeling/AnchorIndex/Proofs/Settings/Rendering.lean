import AnchorIndex.Proofs.Settings.Reporting
import AnchorIndex.Proofs.Yaml.Mappings

/-!
# The file that is written for a user

The lines of the file are notes and entries (`UserSettings.fileRows`), and the values stand in it as
they are. A value is a plain scalar and what follows that on its line (`Splits`). If nothing follows
the scalars but spaces and comments, the file is read as its keys with the values of the scalars
(`datumOf_render_of_areReadable`), and it is malformed otherwise
(`datumOf_render_of_not_areReadable`).
-/

namespace AnchorIndex

open Yaml

/-! ### Values -/

/-- A value that is read as one plain scalar, which stands for the text that it is. -/
structure IsPlainText (v : String) : Prop where
  begins : BeginsPlain v.toList
  unbroken : isUnbroken v.toList = true
  allowed : ∀ c ∈ v.toList, isAllowed c = true
  value : plainValue v = .ok (.text v)

/-- A value begins with the plain scalar `text`, and `tail` is what follows that on the line. -/
structure Splits (v text tail : List Char) : Prop where
  eq : v = text ++ tail
  begins : BeginsPlain v
  line : OnOneLine v
  phrase : Phrase tail text
  ends : IsTrail tail ∨ IsObstacle tail

theorem exists_splits {v : List Char} (hbegins : BeginsPlain v) (hline : OnOneLine v) :
  ∃ text tail, Splits v text tail
  := by
  obtain ⟨text, tail, heq, hphrase, hends⟩ := exists_phrase hline hbegins.plainLength_pos
  exact ⟨text, tail, heq, hbegins, hline, hphrase, hends⟩

theorem Splits.sound {v text tail key : List Char} (h : Splits v text tail) (hkey : IsKeyWord key) :
  (Row.entry key text tail).Sound
  := by
  obtain ⟨rfl, hbegins, hline, hphrase, -⟩ := h
  exact .entry hkey hbegins hline hphrase

/-- An unbroken value has no tail. -/
theorem splits_of_isUnbroken {v : List Char} (hbegins : BeginsPlain v) (h : isUnbroken v = true) :
  Splits v v []
  := by
  have hline := onOneLine_of_isUnbroken h
  refine ⟨(List.append_nil v).symm, hbegins, hline, ?_, .inl (.blank 0)⟩
  exact phrase_of_isUnbroken hline hbegins.plainLength_pos h

/-- A value can be read: nothing follows its plain scalar but spaces and a comment, and all its
characters may stand in a text. -/
structure IsReadable (s : List Char × List Char) : Prop where
  trail : IsTrail s.2
  allowed : ∀ ch ∈ s.1 ++ s.2, isAllowed ch = true

/-- A value is read as itself exactly if it is a plain text. -/
theorem Splits.isPlainText_iff {v : String} {s : List Char × List Char}
    (h : Splits v.toList s.1 s.2) :
  IsReadable s ∧ plainValue (String.ofList s.1) = .ok (.text v) ↔ IsPlainText v
  := by
  constructor
  · rintro ⟨hreadable, hvalue⟩
    obtain rfl := eq_of_plainValue hvalue
    have htail : s.2 = [] := by simpa using h.eq
    have hphrase := h.phrase
    have hallowed := hreadable.allowed
    rw [htail] at hphrase
    rw [htail, List.append_nil] at hallowed
    refine ⟨h.begins, ?_, ?_, hvalue⟩
    · rw [String.toList_ofList]
      exact hphrase.isUnbroken
    · rwa [String.toList_ofList]
  · intro hplain
    have htail : s.2 = [] := by
      apply eq_nil_of_isUnbroken h.ends
      apply isUnbroken_of_append (a := s.1)
      rw [← h.eq]
      exact hplain.unbroken
    have htext : v.toList = s.1 := by rw [h.eq, htail, List.append_nil]
    refine ⟨⟨?_, ?_⟩, ?_⟩
    · rw [htail]
      exact .blank 0
    · rw [← h.eq]
      exact hplain.allowed
    · rw [← htext, String.ofList_toList]
      exact hplain.value

/-! ### The lines of the file -/

namespace UserSettings

/-- The line of the level, which is a comment for the level that is standard. -/
def levelRow (l : Level) : Row :=
  if l = LogSettings.standard.level then .note (line true levelKey l.label).toList
  else .entry levelKey.toList l.label.toList []

/-- The line of the library file, which is a comment when there is none. -/
def libPathRow : Option (List Char × List Char) → Row
  | none => .note (line true libPathKey "programs/<name>/src/lib.rs").toList
  | some p => .entry libPathKey.toList p.1 p.2

/-- The lines of the file of a user, whose values are plain scalars and what follows them. -/
def fileRows (u : UserSettings) (folder : List Char × List Char)
    (libPath : Option (List Char × List Char)) : List Row :=
  [.note "# anchorscan configuration".toList,
    .note [],
    .note "# Directory walked for program sources (relative to the repo root)".toList,
    .entry folderKey.toList folder.1 folder.2,
    .note [],
    .note "# File that declares the #[program] module. Leave unset to auto-detect".toList,
    .note "# <program_dir>/*/src/lib.rs when the workspace has a single program.".toList,
    libPathRow libPath,
    .note [],
    .note "# Log level: DEBUG, INFO, WARNING, ERROR, CRITICAL".toList,
    levelRow u.levelOrDefault]

/-- How the values of the file split. -/
structure IsSplit (u : UserSettings) (folder : List Char × List Char)
    (libPath : Option (List Char × List Char)) : Prop where
  folder : Splits u.folderOrDefault.toList folder.1 folder.2
  libPath : Option.Rel (fun p s => Splits p.toList s.1 s.2) u.libPathOrDefault libPath

variable {u : UserSettings} {folder : List Char × List Char}
  {libPath : Option (List Char × List Char)}

theorem chars_levelRow (l : Level) :
  (levelRow l).chars = (line (l == LogSettings.standard.level) levelKey l.label).toList
  := by
  cases l <;> decide +kernel

theorem toList_line (key value : String) :
  (line false key value).toList = key.toList ++ ':' :: ' ' :: value.toList
  := by
  simp [line]

theorem toList_render (h : IsSplit u folder libPath) :
  u.render.toList = textOf (u.fileRows folder libPath)
  := by
  obtain ⟨hfolder, hlibPath⟩ := h
  have hlines :
      u.fileLines.map String.toList = (u.fileRows folder libPath).map Row.chars ++ [[]] := by
    rw [fileLines, fileRows]
    cases hp : u.libPathOrDefault with
    | none =>
      rw [hp] at hlibPath
      cases hlibPath
      simp [toList_line, chars_levelRow, hfolder.eq, libPathRow]
    | some p =>
      rw [hp] at hlibPath
      cases hlibPath with
      | some hsplits =>
        have hne : p ≠ "" := by
          rintro rfl
          obtain ⟨c, r, hcons, -⟩ := hsplits.begins
          cases hcons
        have hgiven : (some p).filter (· != "") = some p := by simp [Option.filter, hne]
        simp [toList_line, chars_levelRow, hfolder.eq, hsplits.eq, hgiven, libPathRow]
  rw [render, String.toList_intercalate, hlines, textOf_eq_intercalate]
  rfl

/-! ### Reading the lines -/

theorem isKeyWord_keys :
  IsKeyWord folderKey.toList ∧ IsKeyWord libPathKey.toList ∧ IsKeyWord levelKey.toList
  := by
  refine ⟨isKeyWord_of_all ?_ ?_ ?_, isKeyWord_of_all ?_ ?_ ?_, isKeyWord_of_all ?_ ?_ ?_⟩
  all_goals decide

theorem isPlainText_label (l : Level) :
  IsPlainText l.label
  := by
  constructor
  · exact beginsPlain_of_head (by cases l <;> decide)
  · cases l <;> decide
  · cases l <;> exact List.all_eq_true.1 (by decide)
  · cases l <;> exact Datum.eq_ok_of_same (by decide +kernel)

/-- What holds of all notes, and of the lines with values, holds of all lines of the file. -/
theorem forall_mem_fileRows {P : Row → Prop}
    (hnote : ∀ cs, (Row.note cs).Sound → (∀ ch ∈ cs, isAllowed ch = true) → P (.note cs))
    (hfolder : P (.entry folderKey.toList folder.1 folder.2))
    (hlibPath : ∀ s ∈ libPath, P (.entry libPathKey.toList s.1 s.2))
    (hlevel : P (.entry levelKey.toList u.levelOrDefault.label.toList [])) :
  ∀ r ∈ u.fileRows folder libPath, P r
  := by
  have hremark (s : String) (hhead : s.toList.head? = some '#')
      (hchars : (s.toList.all fun c => !isBreak c && isAllowed c) = true) : P (.note s.toList) := by
    simp only [List.all_eq_true, Bool.and_eq_true, Bool.not_eq_true'] at hchars
    have hallowed : ∀ ch ∈ s.toList, isAllowed ch = true := fun ch hch => (hchars ch hch).2
    obtain ⟨cs, hcs⟩ := List.head?_eq_some_iff.1 hhead
    rw [hcs] at hchars hallowed ⊢
    exact hnote _ (.comment fun ch hch => (hchars ch (List.mem_cons_of_mem _ hch)).1) hallowed
  have hempty : P (.note []) := hnote [] .empty (by simp)
  have hlibPathRow : P (libPathRow libPath) := by
    cases libPath with
    | none => exact hremark _ (by decide +kernel) (by decide +kernel)
    | some s => exact hlibPath s rfl
  have hlevelRow : P (levelRow u.levelOrDefault) := by
    rw [levelRow]
    split
    next hstandard =>
      rw [hstandard]
      exact hremark _ (by decide +kernel) (by decide +kernel)
    next => exact hlevel
  simp only [fileRows, List.forall_mem_cons]
  refine ⟨?_, hempty, ?_, hfolder, hempty, ?_, ?_, hlibPathRow, hempty, ?_, hlevelRow, by simp⟩
  all_goals exact hremark _ (by decide +kernel) (by decide +kernel)

theorem IsSplit.exists_libPath (h : IsSplit u folder libPath) {s : List Char × List Char}
    (hs : libPath = some s) :
  ∃ p, u.libPathOrDefault = some p ∧ Splits p.toList s.1 s.2
  := by
  have hrel := h.libPath
  rw [hs] at hrel
  cases hp : u.libPathOrDefault with
  | none =>
    rw [hp] at hrel
    cases hrel
  | some p =>
    rw [hp] at hrel
    cases hrel with
    | some hsplits => exact ⟨p, rfl, hsplits⟩

theorem IsSplit.libPathOrDefault_eq_none (h : IsSplit u folder none) :
  u.libPathOrDefault = none
  := by
  have hrel := h.libPath
  cases hp : u.libPathOrDefault with
  | none => rfl
  | some p =>
    rw [hp] at hrel
    cases hrel

theorem sound_fileRows (h : IsSplit u folder libPath) :
  ∀ r ∈ u.fileRows folder libPath, r.Sound
  := by
  obtain ⟨hfolderKey, hlibPathKey, hlevelKey⟩ := isKeyWord_keys
  apply forall_mem_fileRows
  · exact fun cs hsound hallowed => hsound
  · exact h.folder.sound hfolderKey
  · intro s hs
    obtain ⟨p, -, hsplits⟩ := h.exists_libPath hs
    exact hsplits.sound hlibPathKey
  · have hlabel := isPlainText_label u.levelOrDefault
    exact (splits_of_isUnbroken hlabel.begins hlabel.unbroken).sound hlevelKey

/-- Both values can be read. -/
def AreReadable (folder : List Char × List Char) (libPath : Option (List Char × List Char)) :
    Prop :=
  IsReadable folder ∧ ∀ s, libPath = some s → IsReadable s

theorem closed_fileRows (h : AreReadable folder libPath) :
  ∀ r ∈ u.fileRows folder libPath, r.Closed
  := by
  apply forall_mem_fileRows
  · exact fun cs hsound hallowed => trivial
  · exact h.1.trail
  · exact fun s hs => (h.2 s hs).trail
  · exact .blank 0

theorem allowed_entry {key text tail : List Char} (hkey : key.all isAllowed = true)
    (hvalue : ∀ ch ∈ text ++ tail, isAllowed ch = true) :
  ∀ ch ∈ (Row.entry key text tail).chars, isAllowed ch = true
  := by
  rw [Row.chars_entry, List.forall_mem_append, List.forall_mem_cons, List.forall_mem_cons]
  exact ⟨List.all_eq_true.1 hkey, rfl, rfl, hvalue⟩

theorem allowed_fileRows (h : AreReadable folder libPath) :
  ∀ ch ∈ textOf (u.fileRows folder libPath), isAllowed ch = true
  := by
  apply (forall_mem_textOf_iff (P := fun ch => isAllowed ch = true) rfl).2
  apply forall_mem_fileRows
  · exact fun cs hsound hallowed => hallowed
  · exact allowed_entry (by decide) h.1.allowed
  · exact fun s hs => allowed_entry (by decide) (h.2 s hs).allowed
  · apply allowed_entry (by decide)
    rw [List.append_nil]
    exact (isPlainText_label _).allowed

theorem folder_mem_fileRows :
  Row.entry folderKey.toList folder.1 folder.2 ∈ u.fileRows folder libPath
  := .tail _ (.tail _ (.tail _ (.head _)))

theorem libPath_mem_fileRows {s : List Char × List Char} :
  Row.entry libPathKey.toList s.1 s.2 ∈ u.fileRows folder (some s)
  := .tail _ (.tail _ (.tail _ (.tail _ (.tail _ (.tail _ (.tail _ (.head _)))))))

/-- What the file gives: the keys, each with its plain scalar. -/
theorem entriesOf_fileRows :
  entriesOf (u.fileRows folder libPath)
    = (folderKey, String.ofList folder.1)
      :: ((libPath.map fun s => (libPathKey, String.ofList s.1)).toList
        ++ if u.levelOrDefault = LogSettings.standard.level then []
          else [(levelKey, u.levelOrDefault.label)])
  := by
  rw [fileRows, levelRow]
  cases libPath with
  | none => split <;> simp [libPathRow]
  | some s => split <;> simp [libPathRow]

/-- The text of the file is read line by line. -/
theorem datumOf_render (h : IsSplit u folder libPath) :
  datumOf u.render = Yaml.read (String.ofList (textOf (u.fileRows folder libPath)))
  := by
  have hreturn : '\r' ∉ textOf (u.fileRows folder libPath) := by
    have hne : ∀ ch ∈ textOf (u.fileRows folder libPath), ch ≠ '\r' := by
      rw [forall_mem_textOf_iff (by decide)]
      rintro r hr _ hch rfl
      have hbreak := (sound_fileRows h r hr).onOneLine _ hch
      cases hbreak
    exact fun hmem => hne _ hmem rfl
  rw [datumOf, toList_render h, Text.foldNewlines_eq_self hreturn]

/-- Values that can be read are read as what their plain scalars stand for. -/
theorem datumOf_render_of_areReadable (h : IsSplit u folder libPath)
    (hreadable : AreReadable folder libPath) :
  datumOf u.render = ((entriesOf (u.fileRows folder libPath)).mapM valueOf).map Datum.table
  := by
  have htexts : IsTextKey folderKey ∧ IsTextKey libPathKey ∧ IsTextKey levelKey :=
    ⟨Datum.eq_ok_of_same (by decide +kernel), Datum.eq_ok_of_same (by decide +kernel),
      Datum.eq_ok_of_same (by decide +kernel)⟩
  rw [datumOf_render h]
  apply read_textOf
  · exact fun r hr => ⟨sound_fileRows h r hr, closed_fileRows hreadable r hr⟩
  · exact allowed_fileRows hreadable
  · rw [entriesOf_fileRows]
    cases libPath <;> split <;> simp [htexts]
  · rw [entriesOf_fileRows]
    cases libPath <;> split <;> simp [folderKey, libPathKey, levelKey]
  · exact ⟨_, folder_mem_fileRows, rfl⟩

/-- The file is malformed if a value cannot be read. -/
theorem datumOf_render_of_not_areReadable (h : IsSplit u folder libPath)
    (hreadable : ¬AreReadable folder libPath) :
  datumOf u.render = .error .malformed
  := by
  have hends : ∀ r ∈ u.fileRows folder libPath, r.Closed ∨ r.Blocked := by
    apply forall_mem_fileRows
    · exact fun cs hsound hallowed => .inl trivial
    · exact h.folder.ends
    · intro s hs
      obtain ⟨p, -, hsplits⟩ := h.exists_libPath hs
      exact hsplits.ends
    · exact .inl (.blank 0)
  rw [datumOf_render h]
  apply read_eq_malformed
  apply scan?_eq_none (sound_fileRows h) hends
  by_contra hflaw
  rw [not_or] at hflaw
  obtain ⟨hblocked, hnot⟩ := hflaw
  -- then each value can be read
  have hread {key : String} {s : List Char × List Char}
      (hmem : Row.entry key.toList s.1 s.2 ∈ u.fileRows folder libPath) : IsReadable s := by
    constructor
    · exact (hends _ hmem).resolve_right fun hobstacle => hblocked ⟨_, hmem, hobstacle⟩
    · have hall : ∀ ch ∈ textOf (u.fileRows folder libPath), isAllowed ch = true := by
        intro ch hch
        by_contra hch'
        exact hnot ⟨ch, hch, by simpa using hch'⟩
      intro ch hch
      apply (forall_mem_textOf_iff (P := fun ch => isAllowed ch = true) rfl).1 hall _ hmem
      rw [Row.chars_entry, List.mem_append]
      exact .inr (.tail _ (.tail _ hch))
  apply hreadable
  constructor
  · exact hread folder_mem_fileRows
  · rintro s rfl
    exact hread libPath_mem_fileRows

end UserSettings

end AnchorIndex

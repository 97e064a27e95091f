import AnchorIndex.Proofs.Document.Padding
import AnchorIndex.Proofs.Text.Splitting
import AnchorIndex.Proofs.Text.Words
import AnchorIndex.Store.Layouts

/-!
# Documents read back

Someone may edit a document by hand: put blank lines into it and blanks behind its lines, and
change the order of the fields within the sections (`IsHandEdit`). Cutting the document at its
headings still finds the padded sections, so it is read as the unchanged document is
(`decode_iff_of_isHandEdit`). A document that is written and left alone reads back as the normal
forms of its records, in their order (`decode_encode`).
-/

namespace AnchorIndex.Document

open Text

/-! ### Lines of sections and records -/

/-- The lines are those of the section at the level, with its fields in any order. -/
def Section.HasLines (level : Nat) (l : Layout) (s : Section) (ls : List (List Char)) : Prop :=
  ∃ fs : List FieldSpec, fs.Perm l.fields ∧ ls = sectionLines level { l with fields := fs } s

/-- The lines are those of the record, with the fields of each section in any order. -/
def Record.HasLines (schema : Schema) (r : Record) (ls : List (List Char)) : Prop :=
  match schema.nested with
  | none => r.main.HasLines 1 schema.layout ls
  | some (_, layout) =>
    ∃ main blocks, r.main.HasLines 1 schema.layout main ∧
      List.Forall₂ (Section.HasLines 2 layout) r.children blocks ∧
      ls = main ++ blocks.flatMap ([] :: ·)

/-- The lines are those of the records, with the fields of each section in any order. -/
def HasLines (schema : Schema) (rs : List Record) (ls : List (List Char)) : Prop :=
  ∃ blocks, List.Forall₂ (Record.HasLines schema) rs blocks ∧ ls = blocks.flatMap (· ++ [[]])

/-- The text is the document of the records as someone may have edited it by hand: there are more
blank lines in it and blanks behind its lines, and the fields within its sections are in any
order. -/
def IsHandEdit (schema : Schema) (rs : List Record) (text : String) : Prop :=
  ∃ ls, HasLines schema rs ls ∧ Padded ls (lines text.toList)

/-! ### What is read from them -/

/-- The second section is what is read where the first one is written. -/
structure Section.ReadsAs (l : Layout) (s s' : Section) : Prop where
  title : s'.title = normalText s.title
  values : readFields l (bodyLines l.fields s) = .ok s'.values

/-- The second record is what is read where the first one is written. -/
def Record.ReadsAs (schema : Schema) (r r' : Record) : Prop :=
  r.main.ReadsAs schema.layout r'.main ∧
    match schema.nested with
    | none => r'.children = []
    | some (_, layout) => List.Forall₂ (Section.ReadsAs layout) r.children r'.children

theorem Section.readsAs_iff {l : Layout} {s s' : Section} :
  s.ReadsAs l s' ↔
    ∃ vs, readFields l (bodyLines l.fields s) = .ok vs ∧ s' = ⟨normalText s.title, vs⟩
  := by
  constructor
  · intro h
    exact ⟨s'.values, h.values, by rw [← h.title]⟩
  · rintro ⟨vs, hvs, rfl⟩
    exact ⟨rfl, hvs⟩

/-- A section is read as its normal form. -/
theorem Section.Fits.readsAs_normal {l : Layout} (hl : l.WellFormed) {s : Section}
    (hs : s.Fits l) :
  s.ReadsAs l (s.normal l)
  := by
  use rfl
  apply readFields_of_readsAs hl (List.Perm.refl l.fields)
  intro f hf
  apply Document.readsAs_normal hl hf (hs f hf)

/-- A record is read as its normal form. -/
theorem Record.Fits.readsAs_normal {schema : Schema} (hw : schema.WellFormed) {r : Record}
    (hr : r.Fits schema) :
  r.ReadsAs schema (r.normal schema)
  := by
  obtain ⟨hmain, hchildren⟩ := hr
  use hmain.readsAs_normal hw.layout
  rw [Record.normal]
  cases hnested : schema.nested with
  | none => rfl
  | some p =>
    obtain ⟨key, layout⟩ := p
    simp only [hnested] at hchildren
    simp only [List.forall₂_map_right_iff, List.forall₂_same]
    intro c hc
    apply (hchildren c hc).readsAs_normal (hw.nested key layout hnested)

/-! ### Sections -/

theorem isFirm_of_mem_bodyLines {fs : List FieldSpec} {s : Section} {line : List Char}
    (h : line ∈ bodyLines fs s) :
  IsFirm line
  := by
  obtain ⟨f, -, hline⟩ := List.mem_flatMap.1 h
  apply isFirm_of_mem_fieldLines hline

theorem isFirm_of_mem_between {fs : List FieldSpec} {s : Section} {line : List Char}
    (h : line ∈ [] :: bodyLines fs s ++ [[]]) :
  IsFirm line
  := by
  rw [List.cons_append, List.mem_cons, List.mem_append, List.mem_singleton] at h
  obtain rfl | h | rfl := h
  · apply IsFirm.empty
  · apply isFirm_of_mem_bodyLines h
  · apply IsFirm.empty

/-- The fields of a section are read from its padded lines. -/
theorem readFields_padded_iff {l : Layout} (hl : l.WellFormed) {fs : List FieldSpec}
    (hfs : fs.Perm l.fields) {s : Section} {body : List (List Char)}
    (h : Padded ([] :: bodyLines fs s ++ [[]]) body) (vs : List (String × Value)) :
  readFields l body = .ok vs ↔ readFields l (bodyLines l.fields s) = .ok vs
  := by
  rw [h.readFields_iff fun line => isFirm_of_mem_between,
    (Padded.between (bodyLines fs s)).readFields_iff fun line => isFirm_of_mem_bodyLines,
    readFields_perm_iff hl hfs]

/-- The title of a section reads back, whatever blanks stand behind it. -/
theorem readTitle_headingLine (level : Nat) (title : String) {b : List Char}
    (hb : allBlank b = true) :
  readTitle level (headingLine level title ++ b) = normalText title
  := by
  have hdrop : (headingLine level title ++ b).drop (level + 1) = oneLine title ++ b := by
    rw [headingLine, ← List.drop_drop, List.append_assoc,
      List.drop_left' (List.length_replicate ..)]
    rfl
  have hstrip : strip (oneLine title ++ b) = strip (oneLine title) :=
    strip_append_blank allBlank_nil hb (oneLine title)
  rw [readTitle, hdrop, hstrip, oneLine, foldBreaks_eq_foldRuns, normalText]

/-- The lines of a section are a heading and firm lines. -/
theorem steady_of_hasLines {level n : Nat} (hn : level ≤ n) {l : Layout} {s : Section}
    {ls : List (List Char)} (h : s.HasLines n l ls) {line : List Char}
    (hline : line ∈ ls ++ [[]]) :
  Steady level line
  := by
  obtain ⟨fs, -, rfl⟩ := h
  obtain rfl | hline := List.mem_cons.1 hline
  · right
    exact ⟨n, s.title, hn, rfl⟩
  · left
    apply isFirm_of_mem_between hline

/-- The lines of a section and an empty line are a section. -/
theorem isSection_of_hasLines {level : Nat} {l : Layout} {s : Section} {ls : List (List Char)}
    (h : s.HasLines (level + 1) l ls) :
  IsSection (level + 1) (ls ++ [[]])
  := by
  obtain ⟨fs, -, rfl⟩ := h
  use headingLine (level + 1) s.title, [] :: bodyLines fs s ++ [[]], rfl
  use isHeading_headingLine (level + 1) s.title
  intro line hline
  apply (isFirm_of_mem_between hline).isHeading_eq_false

/-- A padded section starts with its heading and goes on with its padded fields. -/
theorem exists_of_paddedSection {level : Nat} {l : Layout} {s : Section}
    {ls rest : List (List Char)} (h : s.HasLines level l ls) {ls' : List (List Char)}
    (hpadded : PaddedSection (ls ++ rest) ls') :
  ∃ fs b body, fs.Perm l.fields ∧ allBlank b = true ∧
    ls' = (headingLine level s.title ++ b) :: body ∧ Padded ([] :: bodyLines fs s ++ rest) body
  := by
  obtain ⟨fs, hfs, rfl⟩ := h
  cases hpadded with
  | mk heading hb hbody => exact ⟨fs, _, _, hfs, hb, rfl, hbody⟩

/-- A section without subsections is read from its padded lines. -/
theorem readLeaf_eq_ok_iff (document : String) {level : Nat} {l : Layout} (hl : l.WellFormed)
    {s s' : Section} {ls ls' : List (List Char)} (h : s.HasLines level l ls)
    (hpadded : PaddedSection (ls ++ [[]]) ls') :
  readLeaf document level l ls' = .ok s' ↔ s.ReadsAs l s'
  := by
  obtain ⟨fs, b, body, hfs, hb, rfl, hbody⟩ := exists_of_paddedSection h hpadded
  obtain ⟨front, hsplit, hfront⟩ :=
    hbody.exists_splitSections_of_firm level fun line => isFirm_of_mem_between
  rw [readLeaf, List.drop_one, List.tail_cons, hsplit]
  simp only [bind_eq_ok_iff, faultIn_eq_ok_iff, readFields_padded_iff hl hfs hfront]
  rw [Section.readsAs_iff, List.headD_cons, readTitle_headingLine level s.title hb]
  simp only [pure, Except.pure, Except.ok.injEq, eq_comm]

/-! ### Records -/

/-- The lines of a record are headings and firm lines. -/
theorem steady_of_recordHasLines {schema : Schema} {r : Record} {ls : List (List Char)}
    (h : r.HasLines schema ls) {line : List Char} (hline : line ∈ ls ++ [[]]) :
  Steady 1 line
  := by
  rw [Record.HasLines] at h
  split at h
  · apply steady_of_hasLines le_rfl h hline
  next key layout heq =>
    obtain ⟨main, blocks, hmain, hblocks, rfl⟩ := h
    rw [List.append_assoc, List.mem_append] at hline
    obtain hline | hline := hline
    · apply steady_of_hasLines le_rfl hmain (List.mem_append_left [[]] hline)
    · obtain hline | hline := List.mem_append.1 hline
      · obtain ⟨block, hblock, hline⟩ := List.mem_flatMap.1 hline
        obtain ⟨c, -, hc⟩ := exists_of_forall₂_right hblocks hblock
        obtain rfl | hline := List.mem_cons.1 hline
        · exact .inl .empty
        · apply steady_of_hasLines (by omega) hc (List.mem_append_left [[]] hline)
      · rw [List.mem_singleton.1 hline]
        exact .inl .empty

/-- The empty line before each subsection ends the section before it. -/
theorem flatMap_append_empty (blocks : List (List (List Char))) :
  blocks.flatMap ([] :: ·) ++ [[]] = [[]] ++ (blocks.map (· ++ [[]])).flatten
  := by
  induction blocks with
  | nil => rfl
  | cons block blocks ih =>
    rw [List.flatMap_cons, List.append_assoc, ih, List.map_cons, List.flatten_cons]
    simp

theorem forall₂_paddedSection {α : Type} {R : α → List (List Char) → Prop} {xs : List α}
    {blocks sections : List (List (List Char))} (hblocks : List.Forall₂ R xs blocks)
    (hsections : List.Forall₂ PaddedSection (blocks.map (· ++ [[]])) sections) :
  List.Forall₂ (fun x lines => ∃ block, R x block ∧ PaddedSection (block ++ [[]]) lines) xs sections
  := by
  rw [List.forall₂_map_left_iff] at hsections
  apply forall₂_trans _ hblocks hsections
  intro x block lines hblock hlines
  exact ⟨block, hblock, hlines⟩

/-- The padded lines of a record behind its heading are cut at the headings of its subsections. -/
theorem splitSections_children {layout : Layout} {fs : List FieldSpec} {s : Section}
    {cs : List Section} {blocks : List (List (List Char))}
    (hblocks : List.Forall₂ (Section.HasLines 2 layout) cs blocks) {body : List (List Char)}
    (h : Padded (([] :: bodyLines fs s ++ [[]]) ++ (blocks.map (· ++ [[]])).flatten) body) :
  ∃ front sections, splitSections 2 body = (front, sections) ∧
    Padded ([] :: bodyLines fs s ++ [[]]) front ∧
    List.Forall₂ PaddedSection (blocks.map (· ++ [[]])) sections
  := by
  have hblock : ∀ lines ∈ blocks.map (· ++ [[]]), ∃ c block, Section.HasLines 2 layout c block ∧
      lines = block ++ [[]] := by
    intro lines hlines
    obtain ⟨block, hmem, rfl⟩ := List.mem_map.1 hlines
    obtain ⟨c, -, hc⟩ := exists_of_forall₂_right hblocks hmem
    exact ⟨c, block, hc, rfl⟩
  apply h.exists_splitSections 1
  · intro line hline
    obtain hline | hline := List.mem_append.1 hline
    · exact .inl (isFirm_of_mem_between hline)
    · obtain ⟨lines, hlines, hline⟩ := List.mem_flatten.1 hline
      obtain ⟨c, block, hc, rfl⟩ := hblock lines hlines
      apply steady_of_hasLines le_rfl hc hline
  · intro line hline
    apply (isFirm_of_mem_between hline).isHeading_eq_false
  · intro lines hlines
    obtain ⟨c, block, hc, rfl⟩ := hblock lines hlines
    apply isSection_of_hasLines hc

/-- A record is read from its padded lines. -/
theorem readRecord_eq_ok_iff {schema : Schema} (hw : schema.WellFormed) {r r' : Record}
    {ls ls' : List (List Char)} (h : r.HasLines schema ls)
    (hpadded : PaddedSection (ls ++ [[]]) ls') :
  readRecord schema ls' = .ok r' ↔ r.ReadsAs schema r'
  := by
  rw [Record.HasLines] at h
  rw [readRecord, Record.ReadsAs]
  cases hnested : schema.nested with
  | none =>
    simp only [hnested] at h ⊢
    simp only [bind_eq_ok_iff, readLeaf_eq_ok_iff schema.document hw.layout h hpadded]
    constructor
    · rintro ⟨main, hmain, heq⟩
      cases heq
      exact ⟨hmain, rfl⟩
    · rintro ⟨hmain, hchildren⟩
      exact ⟨r'.main, hmain, by rw [← hchildren]; rfl⟩
  | some p =>
    obtain ⟨key, layout⟩ := p
    simp only [hnested] at h ⊢
    obtain ⟨main, blocks, hmain, hblocks, rfl⟩ := h
    rw [List.append_assoc, flatMap_append_empty] at hpadded
    obtain ⟨fs, b, body, hfs, hb, rfl, hbody⟩ := exists_of_paddedSection hmain hpadded
    rw [← List.append_assoc] at hbody
    obtain ⟨front, sections, hsplit, hfront, hsections⟩ := splitSections_children hblocks hbody
    have hread := readFields_padded_iff hw.layout hfs hfront
    have hchildren : ∀ cs, sections.mapM (readLeaf schema.document 2 layout) = .ok cs
        ↔ List.Forall₂ (Section.ReadsAs layout) r.children cs := by
      intro cs
      apply mapM_eq_ok_iff_of_forall₂
      apply (forall₂_paddedSection hblocks hsections).imp
      rintro c lines ⟨block, hblock, hlines⟩ c'
      apply readLeaf_eq_ok_iff schema.document (hw.nested key layout hnested) hblock hlines
    rw [List.drop_one, List.tail_cons, hsplit, List.headD_cons,
      readTitle_headingLine 1 r.main.title hb]
    simp only [bind_eq_ok_iff, faultIn_eq_ok_iff, hread, hchildren, Section.readsAs_iff]
    constructor
    · rintro ⟨vs, hvs, cs, hcs, heq⟩
      cases heq
      exact ⟨⟨vs, hvs, rfl⟩, hcs⟩
    · rintro ⟨⟨vs, hvs, hmain⟩, hcs⟩
      exact ⟨vs, hvs, r'.children, hcs, by rw [← hmain]; rfl⟩

/-- The lines of a record and an empty line are a section. -/
theorem isSection_of_recordHasLines {schema : Schema} {r : Record} {ls : List (List Char)}
    (h : r.HasLines schema ls) :
  IsSection 1 (ls ++ [[]])
  := by
  rw [Record.HasLines] at h
  split at h
  · apply isSection_of_hasLines h
  next key layout heq =>
    obtain ⟨main, blocks, hmain, hblocks, rfl⟩ := h
    obtain ⟨fs, -, rfl⟩ := hmain
    rw [List.append_assoc, flatMap_append_empty, ← List.append_assoc]
    use headingLine 1 r.main.title,
      ([] :: bodyLines fs r.main ++ [[]]) ++ (blocks.map (· ++ [[]])).flatten, rfl
    use isHeading_headingLine 1 r.main.title
    intro line hline
    obtain hline | hline := List.mem_append.1 hline
    · apply (isFirm_of_mem_between hline).isHeading_eq_false
    · obtain ⟨lines, hlines, hline⟩ := List.mem_flatten.1 hline
      obtain ⟨block, hblock, rfl⟩ := List.mem_map.1 hlines
      obtain ⟨c, -, fs', -, rfl⟩ := exists_of_forall₂_right hblocks hblock
      obtain rfl | hline := List.mem_cons.1 hline
      · apply isHeading_headingLine_two
      · apply (isFirm_of_mem_between hline).isHeading_eq_false

/-! ### Line breaks -/

theorem unbroken_oneLine (s : String) :
  Unbroken (oneLine s)
  := unbroken_foldBreaks s.toList

/-- A name has no line breaks. -/
theorem unbroken_of_isName {s : String} (h : isName s = true) :
  Unbroken s.toList
  := by
  have hchar : ∀ c, isNameChar c = true → isBreak c = false := by
    intro c hc
    by_contra hb
    simp only [isBreak, Bool.not_eq_false, Bool.or_eq_true, beq_iff_eq] at hb
    obtain rfl | rfl := hb <;> contradiction
  intro c hc
  rw [isName] at h
  cases hs : s.toList with
  | nil => simp [hs] at hc
  | cons d k =>
    simp only [hs, Bool.and_eq_true, List.all_eq_true] at h hc
    obtain rfl | hc := List.mem_cons.1 hc
    · apply hchar
      apply isNameChar_of_isNameStart h.1
    · apply hchar c (h.2 c hc)

theorem unbroken_toString_int (n : Int) :
  Unbroken (toString n).toList
  := by
  intro c hc
  obtain h | ⟨-, rfl⟩ := mem_toString_int hc
  · by_contra hb
    simp only [isBreak, Bool.not_eq_false, Bool.or_eq_true, beq_iff_eq] at hb
    rcases hb with rfl | rfl <;> contradiction
  · rfl

theorem unbroken_inLine_range (first last : Int) :
  Unbroken (Value.range first last).inLine
  := by
  have hminus : Unbroken ['-'] := by simp [Unbroken, isBreak]
  exact (unbroken_toString_int first).append (hminus.append (unbroken_toString_int last))

theorem unbroken_inLine {type : FieldType} {v : Value} (h : v.Fits type) :
  Unbroken v.inLine
  := by
  cases h with
  | text s => exact unbroken_oneLine s
  | optionalText s => exact unbroken_oneLine s
  | integer n => exact unbroken_toString_int n
  | boolean b => cases b <;> simp [Value.inLine, Unbroken, isBreak]
  | range first last => exact unbroken_inLine_range first last
  | _ => simp [Value.inLine, Unbroken]

theorem unbroken_keyLine {key : String} (hk : isName key = true) {value : List Char}
    (hv : Unbroken value) :
  Unbroken (keyLine key value)
  := by
  have hdash : Unbroken "- ".toList := by simp [Unbroken, isBreak]
  have hcolon : Unbroken ": ".toList := by simp [Unbroken, isBreak]
  have hline := ((hdash.append (unbroken_of_isName hk)).append hcolon).append hv
  intro c hc
  apply hline c ((List.rdropWhile_prefix isBlank _).subset hc)

theorem unbroken_of_mem_fieldLines {f : FieldSpec} (hk : isName f.key = true) {v : Value}
    (hv : Unbroken v.inLine) {line : List Char} (h : line ∈ fieldLines f v) :
  Unbroken line
  := by
  have hkey : ∀ value, Unbroken value → line = keyLine f.key value → Unbroken line := by
    rintro value hvalue rfl
    apply unbroken_keyLine hk hvalue
  have hempty : Unbroken [] := by simp [Unbroken]
  have hboolean : Unbroken "true".toList ∧ Unbroken "false".toList := by
    simp [Unbroken, isBreak]
  rw [fieldLines.eq_def] at h
  split at h
  next items _ =>
    obtain h | h := List.mem_cons.1 h
    · apply hkey [] hempty h
    · obtain ⟨item, -, rfl⟩ := List.mem_map.1 h
      have hdash : Unbroken "  - ".toList := by simp [Unbroken, isBreak]
      apply hdash.append (unbroken_oneLine item)
  · apply hkey [] hempty (List.mem_singleton.1 h)
  · apply hkey _ hboolean.1 (List.mem_singleton.1 h)
  · apply hkey _ hboolean.2 (List.mem_singleton.1 h)
  · apply hkey _ hv (List.mem_singleton.1 h)

/-- No value of the section breaks its line. -/
def Section.Unbroken (l : Layout) (s : Section) : Prop :=
  ∀ f ∈ l.fields, Document.Unbroken (s.get f.key).inLine

/-- No value of the record or of its subsections breaks its line. -/
def Record.Unbroken (schema : Schema) (r : Record) : Prop :=
  r.main.Unbroken schema.layout ∧
    match schema.nested with
    | none => True
    | some (_, layout) => ∀ c ∈ r.children, c.Unbroken layout

theorem Section.Fits.unbroken {l : Layout} {s : Section} (h : s.Fits l) :
  s.Unbroken l
  := fun f hf => unbroken_inLine (h f hf)

/-- Values of the types of their fields break no line. -/
theorem Record.Fits.unbroken {schema : Schema} {r : Record} (h : r.Fits schema) :
  r.Unbroken schema
  := by
  obtain ⟨hmain, hchildren⟩ := h
  use hmain.unbroken
  cases hnested : schema.nested with
  | none => trivial
  | some p =>
    simp only [hnested] at hchildren
    intro c hc
    exact (hchildren c hc).unbroken

theorem unbroken_of_mem_sectionLines {level : Nat} {l : Layout} (hl : l.WellFormed) {s : Section}
    (hs : s.Unbroken l) {line : List Char} (h : line ∈ sectionLines level l s) :
  Unbroken line
  := by
  rw [sectionLines, List.mem_cons, List.mem_cons] at h
  obtain rfl | rfl | h := h
  · have hmarks : Unbroken (List.replicate level '#') := by
      intro c hc
      rw [List.eq_of_mem_replicate hc]
      rfl
    have hspace : Unbroken [' '] := by simp [Unbroken, isBreak]
    apply hmarks.append (hspace.append (unbroken_oneLine s.title))
  · simp [Unbroken]
  · obtain ⟨f, hf, hline⟩ := List.mem_flatMap.1 h
    apply unbroken_of_mem_fieldLines (hl.isName f hf) (hs f hf) hline

/-- No line of a record holds a line break. -/
theorem unbroken_of_mem_recordLines {schema : Schema} (hw : schema.WellFormed) {r : Record}
    (hr : r.Unbroken schema) {line : List Char} (h : line ∈ recordLines schema r) :
  Unbroken line
  := by
  obtain ⟨hmain, hchildren⟩ := hr
  rw [recordLines, List.mem_append] at h
  obtain h | h := h
  · apply unbroken_of_mem_sectionLines hw.layout hmain h
  · cases hnested : schema.nested with
    | none => simp [hnested] at h
    | some p =>
      obtain ⟨key, layout⟩ := p
      simp only [hnested] at h hchildren
      obtain ⟨c, hc, hline⟩ := List.mem_flatMap.1 h
      obtain rfl | hline := List.mem_cons.1 hline
      · simp [Unbroken]
      · apply unbroken_of_mem_sectionLines (hw.nested key layout hnested) (hchildren c hc) hline

/-! ### Documents -/

/-- The lines of a document. -/
def documentLines (schema : Schema) (rs : List Record) : List (List Char) :=
  rs.flatMap fun r => recordLines schema r ++ [[]]

theorem unbroken_of_mem_documentLines {schema : Schema} (hw : schema.WellFormed)
    {rs : List Record} (hrs : ∀ r ∈ rs, r.Unbroken schema) {line : List Char}
    (h : line ∈ documentLines schema rs) :
  Unbroken line
  := by
  obtain ⟨r, hr, hline⟩ := List.mem_flatMap.1 h
  obtain hline | hline := List.mem_append.1 hline
  · apply unbroken_of_mem_recordLines hw (hrs r hr) hline
  · rw [List.mem_singleton.1 hline]
    simp [Unbroken]

/-- The text of a document has no carriage returns. -/
theorem notMem_encode {schema : Schema} (hw : schema.WellFormed) {rs : List Record}
    (hrs : ∀ r ∈ rs, r.Unbroken schema) :
  '\r' ∉ (encode schema rs).toList
  := by
  rw [encode, String.toList_ofList, unlines]
  intro h
  obtain h | ⟨line, hline, hmem⟩ := mem_of_mem_joinWith h
  · contradiction
  · exact (unbroken_of_mem_documentLines hw hrs hline).notMem rfl hmem

/-- A document that was edited by hand is cut into the padded records. -/
theorem exists_splitSections_of_isHandEdit {schema : Schema} {rs : List Record} {text : String}
    (h : IsHandEdit schema rs text) :
  ∃ front sections, splitSections 1 (lines text.toList) = (front, sections) ∧
    (∀ line ∈ front, allBlank line = true) ∧
    List.Forall₂ (fun r ls => ∃ block, Record.HasLines schema r block ∧
      PaddedSection (block ++ [[]]) ls) rs sections
  := by
  obtain ⟨ls, ⟨blocks, hblocks, rfl⟩, hpadded⟩ := h
  have hblock : ∀ lines ∈ blocks.map (· ++ [[]]), ∃ r block, Record.HasLines schema r block ∧
      lines = block ++ [[]] := by
    intro lines hlines
    obtain ⟨block, hmem, rfl⟩ := List.mem_map.1 hlines
    obtain ⟨r, -, hr⟩ := exists_of_forall₂_right hblocks hmem
    exact ⟨r, block, hr, rfl⟩
  rw [List.flatMap_def, ← List.nil_append (List.flatten _)] at hpadded
  obtain ⟨front, sections, hsplit, hfront, hsections⟩ := hpadded.exists_splitSections 0
    (by
      intro line hline
      obtain ⟨lines, hlines, hline⟩ := List.mem_flatten.1 hline
      obtain ⟨r, block, hr, rfl⟩ := hblock lines hlines
      apply steady_of_recordHasLines hr hline)
    (by simp)
    (by
      intro lines hlines
      obtain ⟨r, block, hr, rfl⟩ := hblock lines hlines
      apply isSection_of_recordHasLines hr)
  exact ⟨front, sections, hsplit, hfront.allBlank_of_nil rfl,
    forall₂_paddedSection hblocks hsections⟩

/-- A document that was edited by hand is read as what was written there. -/
theorem decode_iff_of_isHandEdit {schema : Schema} (hw : schema.WellFormed) {rs rs' : List Record}
    {text : String} (h : IsHandEdit schema rs text) :
  decode schema text = .ok rs' ↔ List.Forall₂ (Record.ReadsAs schema) rs rs'
  := by
  obtain ⟨front, sections, hsplit, hfront, hsections⟩ := exists_splitSections_of_isHandEdit h
  have hblank : front.find? (!allBlank ·) = none := by
    rw [List.find?_eq_none]
    intro line hline
    simp [hfront line hline]
  rw [decode, hsplit]
  simp only [hblank]
  apply mapM_eq_ok_iff_of_forall₂
  apply hsections.imp
  rintro r ls ⟨block, hblock, hls⟩ r'
  apply readRecord_eq_ok_iff hw hblock hls

/-! ### Unchanged documents -/

theorem Section.hasLines_sectionLines (level : Nat) (l : Layout) (s : Section) :
  s.HasLines level l (sectionLines level l s)
  := ⟨l.fields, .refl _, rfl⟩

theorem Record.hasLines_recordLines (schema : Schema) (r : Record) :
  r.HasLines schema (recordLines schema r)
  := by
  rw [Record.HasLines, recordLines]
  cases schema.nested with
  | none =>
    rw [List.append_nil]
    apply Section.hasLines_sectionLines
  | some p =>
    obtain ⟨key, layout⟩ := p
    refine ⟨_, r.children.map (sectionLines 2 layout), Section.hasLines_sectionLines 1 _ _, ?_, ?_⟩
    · rw [List.forall₂_map_right_iff, List.forall₂_same]
      intro c _
      apply Section.hasLines_sectionLines
    · rw [List.flatMap_map]

theorem hasLines_documentLines (schema : Schema) (rs : List Record) :
  HasLines schema rs (documentLines schema rs)
  := by
  refine ⟨rs.map (recordLines schema), ?_, ?_⟩
  · rw [List.forall₂_map_right_iff, List.forall₂_same]
    intro r _
    apply Record.hasLines_recordLines
  · rw [List.flatMap_map]
    rfl

/-- To leave a document alone is to edit it, provided that no text of it breaks a line. -/
theorem isHandEdit_encode {schema : Schema} {rs : List Record}
    (h : ∀ line ∈ documentLines schema rs, '\n' ∉ line) :
  IsHandEdit schema rs (encode schema rs)
  := by
  use documentLines schema rs, hasLines_documentLines schema rs
  rw [encode, String.toList_ofList]
  cases rs with
  | nil => exact .blank allBlank_nil .nil
  | cons r rs =>
    have hlines : lines (unlines (documentLines schema (r :: rs)))
      = documentLines schema (r :: rs) := by
      apply lines_unlines _ h
      simp [documentLines]
    change Padded _ (lines (unlines (documentLines schema (r :: rs))))
    rw [hlines]
    apply Padded.refl

theorem Section.HasLines.mem_of_mem {level : Nat} {l : Layout} {s : Section}
    {ls : List (List Char)} (h : s.HasLines level l ls) {line : List Char}
    (hline : line ∈ sectionLines level l s) :
  line ∈ ls
  := by
  obtain ⟨fs, hfs, rfl⟩ := h
  rw [sectionLines, List.mem_cons, List.mem_cons] at hline ⊢
  apply hline.imp_right
  intro hline
  apply hline.imp_right
  intro hline
  apply (hfs.symm.flatMap_right _).mem_iff.1 hline

theorem Record.HasLines.mem_of_mem {schema : Schema} {r : Record} {ls : List (List Char)}
    (h : r.HasLines schema ls) {line : List Char} (hline : line ∈ recordLines schema r) :
  line ∈ ls
  := by
  rw [Record.HasLines] at h
  rw [recordLines] at hline
  cases hnested : schema.nested with
  | none =>
    simp only [hnested, List.append_nil] at h hline
    apply h.mem_of_mem hline
  | some p =>
    obtain ⟨key, layout⟩ := p
    simp only [hnested] at h hline
    obtain ⟨main, blocks, hmain, hblocks, rfl⟩ := h
    obtain hline | hline := List.mem_append.1 hline
    · apply List.mem_append_left _ (hmain.mem_of_mem hline)
    · apply List.mem_append_right main
      obtain ⟨c, hc, hline⟩ := List.mem_flatMap.1 hline
      obtain ⟨block, hblock, hlines⟩ := exists_of_forall₂_left hblocks hc
      apply List.mem_flatMap.2 ⟨block, hblock, _⟩
      obtain rfl | hline := List.mem_cons.1 hline
      · apply List.mem_cons_self
      · apply List.mem_cons_of_mem [] (hlines.mem_of_mem hline)

/-- If a document can be edited by hand, then leaving it alone is one of the edits. -/
theorem IsHandEdit.encode {schema : Schema} {rs : List Record} {text : String}
    (h : IsHandEdit schema rs text) :
  IsHandEdit schema rs (encode schema rs)
  := by
  obtain ⟨ls, ⟨blocks, hblocks, rfl⟩, hpadded⟩ := h
  apply isHandEdit_encode
  intro line hline hfeed
  obtain ⟨r, hr, hline⟩ := List.mem_flatMap.1 hline
  obtain ⟨block, hblock, hlines⟩ := exists_of_forall₂_left hblocks hr
  have hmem : line ∈ block ++ [[]] := by
    obtain hline | hline := List.mem_append.1 hline
    · apply List.mem_append_left [[]] (hlines.mem_of_mem hline)
    · apply List.mem_append_right block hline
  obtain ⟨b, hb⟩ := hpadded.exists_mem (List.mem_flatMap.2 ⟨block, hblock, hmem⟩)
  apply notMem_of_mem_splitAt hb (List.mem_append_left b hfeed)

/-- What is read from a document that is written, provided that no value breaks its line. -/
theorem decode_encode_iff {schema : Schema} (hw : schema.WellFormed) {rs rs' : List Record}
    (hrs : ∀ r ∈ rs, r.Unbroken schema) :
  decode schema (encode schema rs) = .ok rs' ↔ List.Forall₂ (Record.ReadsAs schema) rs rs'
  := by
  apply decode_iff_of_isHandEdit hw
  apply isHandEdit_encode
  intro line hline
  exact (unbroken_of_mem_documentLines hw hrs hline).notMem rfl

/-- A document that is written reads back as the normal forms of its records. -/
theorem decode_encode {schema : Schema} (hw : schema.WellFormed) {rs : List Record}
    (hrs : ∀ r ∈ rs, r.Fits schema) :
  decode schema (encode schema rs) = .ok (rs.map (·.normal schema))
  := by
  rw [decode_encode_iff hw fun r hr => (hrs r hr).unbroken, List.forall₂_map_right_iff,
    List.forall₂_same]
  intro r hr
  apply (hrs r hr).readsAs_normal hw

end AnchorIndex.Document

import AnchorIndex.Proofs.Document.FieldLines

/-!
# Blanks between and behind lines

Blank lines may be put between the lines of a document, and blanks behind them (`Padded`). The
lines of fields and of items are firm: they are read as before (`Padded.readFields_iff`). A line
that is a heading stays one and no line becomes one (`Steady`), so a padded document falls into
the padded sections of the document (`Padded.splitSections`).
-/

namespace AnchorIndex.Document

open Text

/-! ### Padded lines -/

/-- The second lines are the first ones with blank lines between them and blanks behind them. -/
inductive Padded : List (List Char) → List (List Char) → Prop where
  | nil : Padded [] []
  | blank {line : List Char} {ls ls' : List (List Char)} (hline : allBlank line = true)
      (h : Padded ls ls') : Padded ls (line :: ls')
  | line (line : List Char) {b : List Char} {ls ls' : List (List Char)} (hb : allBlank b = true)
      (h : Padded ls ls') : Padded (line :: ls) ((line ++ b) :: ls')

namespace Padded

theorem cons (line : List Char) {ls ls' : List (List Char)} (h : Padded ls ls') :
  Padded (line :: ls) (line :: ls')
  := by
  have hline := Padded.line line allBlank_nil h
  rwa [List.append_nil] at hline

theorem refl (ls : List (List Char)) :
  Padded ls ls
  := by
  induction ls with
  | nil => exact nil
  | cons line ls ih => exact ih.cons line

theorem append {ls₁ ls₁' ls₂ ls₂' : List (List Char)} (h₁ : Padded ls₁ ls₁')
    (h₂ : Padded ls₂ ls₂') :
  Padded (ls₁ ++ ls₂) (ls₁' ++ ls₂')
  := by
  induction h₁ with
  | nil => exact h₂
  | blank hline _ ih => exact .blank hline ih
  | line line hb _ ih => exact .line line hb ih

/-- Empty lines may stand before and behind lines. -/
theorem between (ls : List (List Char)) :
  Padded ls ([] :: ls ++ [[]])
  := by
  have h := (refl ls).append (blank allBlank_nil nil)
  rw [List.append_nil] at h
  exact blank allBlank_nil h

theorem allBlank_of_nil {ls ls' : List (List Char)} (h : Padded ls ls') (hls : ls = []) :
  ∀ line ∈ ls', allBlank line = true
  := by
  induction h with
  | nil => simp
  | blank hline _ ih =>
    intro line hmem
    obtain rfl | hmem := List.mem_cons.1 hmem
    · exact hline
    · apply ih hls line hmem
  | line => contradiction

/-- Every line stands with blanks behind it. -/
theorem exists_mem {ls ls' : List (List Char)} (h : Padded ls ls') {line : List Char}
    (hline : line ∈ ls) :
  ∃ b, line ++ b ∈ ls'
  := by
  induction h with
  | nil => contradiction
  | blank _ _ ih =>
    obtain ⟨b, hb⟩ := ih hline
    exact ⟨b, List.mem_cons_of_mem _ hb⟩
  | @line first b ls ls' _ _ ih =>
    obtain rfl | hline := List.mem_cons.1 hline
    · exact ⟨b, List.mem_cons_self⟩
    · obtain ⟨b', hb'⟩ := ih hline
      exact ⟨b', List.mem_cons_of_mem _ hb'⟩

end Padded

/-! ### Firm lines -/

/-- A line of a field or of an item, or an empty line. -/
inductive IsFirm : List Char → Prop where
  | empty : IsFirm []
  | key (key : String) (value : List Char) : IsFirm (keyLine key value)
  | item (item : String) : IsFirm (itemLine item)

theorem isFirm_of_mem_fieldLines {f : FieldSpec} {v : Value} {line : List Char}
    (h : line ∈ fieldLines f v) :
  IsFirm line
  := by
  by_cases ht : f.type = .textList
  · obtain ⟨items, hlines⟩ := exists_fieldLines_eq_of_textList ht v
    rw [hlines] at h
    obtain rfl | h := List.mem_cons.1 h
    · apply IsFirm.key
    · obtain ⟨item, -, rfl⟩ := List.mem_map.1 h
      apply IsFirm.item
  · obtain ⟨value, hlines⟩ := exists_fieldLines_eq ht v
    rw [hlines] at h
    rw [List.mem_singleton.1 h]
    apply IsFirm.key

/-- Whether a field is read depends on the key and the value in its line. -/
theorem readField_eq_ok_iff_of_eq {line line' : List Char}
    (h : readKeyLine? line' = readKeyLine? line) (l : Layout) (p q : Progress) :
  p.readField l line' = .ok q ↔ p.readField l line = .ok q
  := by
  rw [Progress.readField, Progress.readField, h]
  cases readKeyLine? line with
  | none => simp
  | some entry =>
    obtain ⟨key, value⟩ := entry
    cases hf : l.field? (String.ofList key) with
    | none => simp [hf]
    | some f =>
      simp only [hf]
      by_cases hseen : (p.values.lookup f.key).isSome = true
      · simp [hseen]
      · by_cases ht : f.type = .textList
        · by_cases hempty : (strip value).isEmpty = true
          · simp [hseen, ht, hempty]
          · simp [hseen, ht, hempty]
        · simp [hseen, ht]

/-- Blanks behind a firm line do not change how it is read. -/
theorem IsFirm.readLine_append_iff {line b : List Char} (h : IsFirm line)
    (hb : allBlank b = true) (l : Layout) (p q : Progress) :
  p.readLine l (line ++ b) = .ok q ↔ p.readLine l line = .ok q
  := by
  cases h with
  | empty =>
    rw [List.nil_append, Progress.readLine, if_pos hb]
    rfl
  | key key value =>
    have hkey : readKeyLine? (keyLine key value ++ b) = readKeyLine? (keyLine key value) := by
      rw [readKeyLine?, stripRight_append_blank hb]
      rfl
    have hblank : allBlank (keyLine key value ++ b) = false := by
      rw [keyLine_eq]
      rfl
    have hitem : readItemLine? (keyLine key value ++ b) = none := by
      rw [keyLine_eq]
      rfl
    rw [Progress.readLine, Progress.readLine, hblank, hitem, allBlank_keyLine,
      readItemLine?_keyLine]
    apply readField_eq_ok_iff_of_eq hkey
  | item item =>
    have hblank : allBlank (itemLine item ++ b) = false := rfl
    have hblank' : allBlank (itemLine item) = false := rfl
    have hitem : readItemLine? (itemLine item ++ b) = some (oneLine item ++ b) := rfl
    have hstrip : strip (oneLine item ++ b) = strip (oneLine item) :=
      strip_append_blank allBlank_nil hb (oneLine item)
    rw [Progress.readLine, Progress.readLine, hblank, hblank', hitem, readItemLine?_itemLine]
    simp only [hstrip, Bool.false_eq_true, if_false]
    cases p.addItem? (String.ofList (strip (oneLine item))) <;> simp

namespace Padded

/-- Padded firm lines are read as the lines without the padding. -/
theorem foldlM_readLine_iff {ls ls' : List (List Char)} (h : Padded ls ls')
    (hfirm : ∀ line ∈ ls, IsFirm line) (l : Layout) {p q : Progress} :
  ls'.foldlM (Progress.readLine l) p = .ok q ↔ ls.foldlM (Progress.readLine l) p = .ok q
  := by
  induction h generalizing p with
  | nil => rfl
  | blank hline _ ih =>
    have hskip : p.readLine l _ = .ok p := if_pos hline
    rw [List.foldlM_cons, hskip]
    apply ih hfirm
  | line line hb _ ih =>
    have hline := hfirm line List.mem_cons_self
    have ih := fun p => ih (fun line h => hfirm line (List.mem_cons_of_mem _ h)) (p := p)
    rw [List.foldlM_cons, List.foldlM_cons, bind_eq_ok_iff, bind_eq_ok_iff]
    simp only [hline.readLine_append_iff hb, ih]

theorem readFields_iff {ls ls' : List (List Char)} (h : Padded ls ls')
    (hfirm : ∀ line ∈ ls, IsFirm line) (l : Layout) {vs : List (String × Value)} :
  readFields l ls' = .ok vs ↔ readFields l ls = .ok vs
  := by
  rw [readFields, readFields, bind_eq_ok_iff, bind_eq_ok_iff]
  simp only [h.foldlM_readLine_iff hfirm]

end Padded

/-! ### Headings -/

theorem isHeading_iff {level : Nat} {line : List Char} :
  isHeading level line = true ↔ ∃ rest, line = List.replicate level '#' ++ ' ' :: rest
  := by
  rw [isHeading, startsWith, List.isPrefixOf_iff_prefix]
  constructor
  · rintro ⟨rest, rfl⟩
    exact ⟨rest, by simp⟩
  · rintro ⟨rest, rfl⟩
    exact ⟨rest, by simp⟩

theorem isHeading_headingLine (level : Nat) (title : String) :
  isHeading level (headingLine level title) = true
  := isHeading_iff.2 ⟨oneLine title, rfl⟩

/-- A heading starts with a number sign. -/
theorem isHeading_eq_false {level : Nat} {line : List Char} (h : line.head? ≠ some '#') :
  isHeading (level + 1) line = false
  := by
  by_contra hhead
  obtain ⟨rest, rfl⟩ := isHeading_iff.1 (by simpa using hhead : isHeading (level + 1) line = true)
  simp [List.replicate_succ] at h

/-- The heading of a subsection is no heading of a section. -/
theorem isHeading_headingLine_two (title : String) :
  isHeading 1 (headingLine 2 title) = false
  := rfl

/-- Whether a line is a heading shows in its first characters. -/
theorem isHeading_append {level : Nat} {line : List Char} (h : level < line.length)
    (b : List Char) :
  isHeading level (line ++ b) = isHeading level line
  := by
  rw [isHeading, isHeading, startsWith, startsWith, Bool.eq_iff_iff, List.isPrefixOf_iff_prefix,
    List.isPrefixOf_iff_prefix]
  constructor
  · intro hprefix
    apply List.prefix_of_prefix_length_le hprefix (List.prefix_append line b)
    simpa [Nat.succ_le_iff] using h
  · intro hprefix
    apply hprefix.trans (List.prefix_append line b)

theorem allBlank_head? {b : List Char} (hb : allBlank b = true) :
  b.head? ≠ some '#'
  := by
  intro h
  have hmark := allBlank_iff.1 hb '#' (List.mem_of_mem_head? h)
  contradiction

/-- A firm line does not start as a heading, whatever blanks stand behind it. -/
theorem IsFirm.head?_append {line b : List Char} (h : IsFirm line) (hb : allBlank b = true) :
  (line ++ b).head? ≠ some '#'
  := by
  cases h with
  | empty => exact allBlank_head? hb
  | key key value =>
    rw [keyLine_eq]
    simp
  | item item => simp [itemLine]

theorem IsFirm.isHeading_eq_false {line : List Char} (h : IsFirm line) (level : Nat) :
  isHeading (level + 1) line = false
  := by
  apply Document.isHeading_eq_false
  have hhead := h.head?_append allBlank_nil
  rwa [List.append_nil] at hhead

/-- A line that is firm, or a heading of the level or of one further down. -/
def Steady (level : Nat) (line : List Char) : Prop :=
  IsFirm line ∨ ∃ n title, level ≤ n ∧ line = headingLine n title

/-- Blanks behind a steady line do not make a heading of it. -/
theorem Steady.isHeading_append {level : Nat} {line b : List Char} (h : Steady (level + 1) line)
    (hb : allBlank b = true) :
  isHeading (level + 1) (line ++ b) = isHeading (level + 1) line
  := by
  obtain h | ⟨n, title, hn, rfl⟩ := h
  · rw [Document.isHeading_eq_false (h.head?_append hb), h.isHeading_eq_false]
  · apply Document.isHeading_append
    rw [headingLine, List.length_append, List.length_replicate, List.length_cons]
    omega

/-! ### Cutting at headings -/

theorem splitSections_cons_eq (level : Nat) (line : List Char) (lines : List (List Char)) :
  splitSections level (line :: lines) = consLine level line (splitSections level lines)
  := rfl

theorem splitSections_append {level : Nat} {front : List (List Char)}
    (h : ∀ line ∈ front, isHeading level line = false) (lines : List (List Char)) :
  splitSections level (front ++ lines)
    = (front ++ (splitSections level lines).1, (splitSections level lines).2)
  := by
  induction front with
  | nil => rfl
  | cons line front ih =>
    have ih := ih fun l hl => h l (List.mem_cons_of_mem line hl)
    rw [List.cons_append, splitSections_cons_eq, ih, consLine, h line List.mem_cons_self]
    rfl

theorem splitSections_cons {level : Nat} {heading : List Char}
    (h : isHeading level heading = true) (lines : List (List Char)) :
  splitSections level (heading :: lines)
    = ([], (heading :: (splitSections level lines).1) :: (splitSections level lines).2)
  := by
  rw [splitSections_cons_eq, consLine, h]
  rfl

/-- The lines are a heading of the level and lines that are none. -/
def IsSection (level : Nat) (lines : List (List Char)) : Prop :=
  ∃ heading body, lines = heading :: body ∧ isHeading level heading = true ∧
    ∀ line ∈ body, isHeading level line = false

/-- Cutting finds the sections of which the lines are made. -/
theorem splitSections_sections {level : Nat} {sections : List (List (List Char))}
    (h : ∀ lines ∈ sections, IsSection level lines) :
  splitSections level sections.flatten = ([], sections)
  := by
  induction sections with
  | nil => rfl
  | cons lines sections ih =>
    obtain ⟨heading, body, rfl, hhead, hbody⟩ := h lines List.mem_cons_self
    have ih := ih fun l hl => h l (List.mem_cons_of_mem (heading :: body) hl)
    rw [List.flatten_cons, List.cons_append, splitSections_cons hhead, splitSections_append hbody,
      ih, List.append_nil]

/-- The second lines are those of a section with padding behind the heading. -/
inductive PaddedSection : List (List Char) → List (List Char) → Prop where
  | mk (heading : List Char) {b : List Char} {body body' : List (List Char)}
      (hb : allBlank b = true) (h : Padded body body') :
      PaddedSection (heading :: body) ((heading ++ b) :: body')

/-- A padded document is cut into the padded sections. -/
theorem Padded.splitSections {level : Nat} {ls ls' : List (List Char)} (h : Padded ls ls')
    (hsteady : ∀ line ∈ ls, Steady (level + 1) line) :
  Padded (splitSections (level + 1) ls).1 (splitSections (level + 1) ls').1 ∧
    List.Forall₂ PaddedSection (splitSections (level + 1) ls).2 (splitSections (level + 1) ls').2
  := by
  induction h with
  | nil => exact ⟨.nil, .nil⟩
  | blank hline _ ih =>
    obtain ⟨hfront, hsections⟩ := ih hsteady
    rw [splitSections_cons_eq, consLine, isHeading_eq_false (allBlank_head? hline)]
    exact ⟨.blank hline hfront, hsections⟩
  | line line hb _ ih =>
    obtain ⟨hfront, hsections⟩ := ih fun line h => hsteady line (List.mem_cons_of_mem _ h)
    have hline := (hsteady line List.mem_cons_self).isHeading_append hb
    rw [splitSections_cons_eq, splitSections_cons_eq, consLine, consLine, hline]
    by_cases hhead : isHeading (level + 1) line = true
    · rw [if_pos hhead, if_pos hhead]
      exact ⟨.nil, .cons (.mk line hb hfront) hsections⟩
    · rw [if_neg hhead, if_neg hhead]
      exact ⟨.line line hb hfront, hsections⟩

/-- Lines without headings and sections behind them stay apart when they are padded. -/
theorem Padded.exists_splitSections (level : Nat) {front : List (List Char)}
    {sections : List (List (List Char))} {ls' : List (List Char)}
    (h : Padded (front ++ sections.flatten) ls')
    (hsteady : ∀ line ∈ front ++ sections.flatten, Steady (level + 1) line)
    (hfront : ∀ line ∈ front, isHeading (level + 1) line = false)
    (hsections : ∀ lines ∈ sections, IsSection (level + 1) lines) :
  ∃ front' sections', Document.splitSections (level + 1) ls' = (front', sections') ∧
    Padded front front' ∧ List.Forall₂ PaddedSection sections sections'
  := by
  have hsplit := splitSections_append hfront sections.flatten
  rw [splitSections_sections hsections, List.append_nil] at hsplit
  have hpadded := h.splitSections hsteady
  rw [hsplit] at hpadded
  exact ⟨_, _, rfl, hpadded⟩

/-- Padded firm lines are not cut. -/
theorem Padded.exists_splitSections_of_firm (level : Nat) {ls ls' : List (List Char)}
    (h : Padded ls ls') (hfirm : ∀ line ∈ ls, IsFirm line) :
  ∃ front, Document.splitSections (level + 1) ls' = (front, []) ∧ Padded ls front
  := by
  have hls : ls ++ List.flatten [] = ls := by simp
  obtain ⟨front, sections, hsplit, hfront, hsections⟩ := exists_splitSections level
    (hls ▸ h) (fun line hline => .inl (hfirm line (hls ▸ hline)))
    (fun line hline => (hfirm line hline).isHeading_eq_false level)
    (fun lines hlines => absurd hlines List.not_mem_nil)
  rw [List.forall₂_nil_left_iff.1 hsections] at hsplit
  exact ⟨front, hsplit, hfront⟩

end AnchorIndex.Document

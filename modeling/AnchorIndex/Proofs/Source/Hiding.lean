import AnchorIndex.Source.Entrypoint
import AnchorIndex.Proofs.Source.Masking

/-!
# What comments and literals hide

The constructs that are found in a text depend on its masked text only (`findings_eq_of_mask_eq`).
The program module depends on more: the line with the program attribute is looked for in the text
as it stands, and from this line on the text is read as if no comment and no literal were open
(`programModule?_depends_on_comments`). If the attribute that is found stands in program text, and
none of the masked text stands on an earlier line (`ProgramShown`), then the program module and the
entrypoints, but for their contexts, depend on the masked text only (`found_of_mask_eq`).
-/

namespace AnchorIndex.Source

/-! ### Masked lines -/

theorem maskLinesFrom_cons (region : Region) (line : List Char) (rest : List (List Char)) :
  maskLinesFrom region (line :: rest)
    = (maskLine region line).1 :: maskLinesFrom (maskLine region line).2 rest
  := rfl

theorem notMem_maskFrom (region : Region) (pending : List Bool) (before : List Char)
    {line : List Char} (h : '\n' ∉ line) :
  '\n' ∉ (maskFrom region pending before line).1
  := by
  induction line generalizing region pending before with
  | nil => exact h
  | cons c rest ih =>
    rw [List.mem_cons, not_or] at h
    have hshown : ∀ kept : Bool, '\n' ≠ if kept = true then c else ' ' := by
      intro kept
      cases kept with
      | false => simp
      | true => exact h.1
    cases pending with
    | nil =>
      rw [maskFrom_cons, List.mem_cons, not_or]
      exact ⟨hshown _, ih _ _ _ h.2⟩
    | cons kept pending =>
      rw [maskFrom_cons_pending, List.mem_cons, not_or]
      exact ⟨hshown _, ih _ _ _ h.2⟩

theorem notMem_of_mem_maskLinesFrom {region : Region} {lines : List (List Char)}
    (h : ∀ line ∈ lines, '\n' ∉ line) {masked : List Char}
    (hmasked : masked ∈ maskLinesFrom region lines) :
  '\n' ∉ masked
  := by
  induction lines generalizing region with
  | nil => contradiction
  | cons line rest ih =>
    rw [maskLinesFrom_cons] at hmasked
    obtain rfl | hmasked := List.mem_cons.1 hmasked
    · apply notMem_maskFrom
      apply h line List.mem_cons_self
    · apply ih (fun line' hline => h line' (List.mem_cons_of_mem line hline)) hmasked

/-- The lines of the masked text are the masked lines. -/
theorem lines_mask (text : List Char) :
  Text.lines (mask text) = maskLines (Text.lines text)
  := by
  apply Text.lines_unlines
  · intro hnil
    have hlength := length_maskLines (Text.lines text)
    rw [hnil] at hlength
    apply Text.splitAt_ne_nil '\n' text
    apply List.length_eq_zero_iff.1 hlength.symm
  · intro masked hmasked
    apply notMem_of_mem_maskLinesFrom _ hmasked
    intro line hline
    apply Text.notMem_of_mem_splitAt hline

/-- Texts with the same masked text have the same masked lines. -/
theorem maskLines_eq_of_mask_eq {t₁ t₂ : List Char} (h : mask t₁ = mask t₂) :
  maskLines (Text.lines t₁) = maskLines (Text.lines t₂)
  := by
  rw [← lines_mask, ← lines_mask, h]

/-- The region in which the line after some lines starts. -/
def regionAfter (region : Region) : List (List Char) → Region
  | [] => region
  | line :: rest => regionAfter (maskLine region line).2 rest

/-- Masking goes on from a line in the region in which it starts. -/
theorem drop_maskLinesFrom (region : Region) (lines : List (List Char)) (k : Nat) :
  (maskLinesFrom region lines).drop k
    = maskLinesFrom (regionAfter region (lines.take k)) (lines.drop k)
  := by
  induction k generalizing region lines with
  | zero => rfl
  | succ k ih =>
    cases lines with
    | nil => rfl
    | cons line rest => exact ih (maskLine region line).2 rest

/-- Later lines do not matter for masking. -/
theorem take_maskLinesFrom (region : Region) (lines : List (List Char)) (k : Nat) :
  (maskLinesFrom region lines).take k = maskLinesFrom region (lines.take k)
  := by
  induction k generalizing region lines with
  | zero => rfl
  | succ k ih =>
    cases lines with
    | nil => rfl
    | cons line rest =>
      rw [maskLinesFrom_cons, List.take_succ_cons, List.take_succ_cons, maskLinesFrom_cons, ih]

/-- From a line on that starts in program text, lines are masked as those of a text of their
own. -/
theorem maskLines_drop {lines : List (List Char)} {k : Nat}
    (h : regionAfter .code (lines.take k) = .code) :
  maskLines (lines.drop k) = (maskLines lines).drop k
  := by
  rw [maskLines, maskLines, drop_maskLinesFrom, h]

/-! ### Constructs -/

/-- What is found in a text depends on its masked text only. -/
theorem findings_eq_of_mask_eq {t₁ t₂ : List Char} (h : mask t₁ = mask t₂) (target : Target) :
  findings target (Text.lines t₁) = findings target (Text.lines t₂)
  := by
  rw [findings, findings, maskLines_eq_of_mask_eq h]

/-- The name of a range with its first and its last line. -/
def Range.place (r : Range) : String × Nat × Nat :=
  (r.name, r.first, r.last)

/-- The places of the blocks among the findings. -/
def placesOf (fs : List Finding) : List (String × Nat × Nat) :=
  fs.filterMap fun f =>
    match f with
    | .block name start stop => some (name, start + 1, stop + 1)
    | .gap _ _ => none

theorem map_place_rangesOf (lines : List (List Char)) (fs : List Finding) :
  (rangesOf lines fs).map Range.place = placesOf fs
  := by
  rw [rangesOf, placesOf, List.map_filterMap]
  congr 1
  funext f
  cases f <;> rfl

/-- Constructs of texts with the same masked text have the same places. -/
theorem map_place_scan {t₁ t₂ : String} (h : mask t₁.toList = mask t₂.toList) (kind : Kind) :
  (scan kind t₁).map Range.place = (scan kind t₂).map Range.place
  := by
  rw [scan, scan, map_place_rangesOf, map_place_rangesOf, findings_eq_of_mask_eq h]

/-! ### The program module -/

/-- The line starts with the program attribute. -/
def isProgramLine (line : List Char) : Bool :=
  Text.startsWith programAttribute (Text.strip line)

/-- The first block among the findings from a line on, with its first and its last line. -/
def firstBlock? (offset : Nat) (fs : List Finding) : Option (Nat × Nat) :=
  fs.findSome? fun f =>
    match f with
    | .block _ start stop => some (offset + start + 1, offset + stop + 1)
    | .gap _ _ => none

theorem programModule?_eq (text : String) :
  programModule? text
    = ((Text.lines text.toList).findIdx? isProgramLine).bind fun offset =>
        firstBlock? offset (findings .module ((Text.lines text.toList).drop offset))
  := by
  cases hoffset : (Text.lines text.toList).findIdx? isProgramLine with
  | none =>
    unfold isProgramLine at hoffset
    simp only [programModule?, hoffset, Option.bind_none]
  | some offset =>
    unfold isProgramLine at hoffset
    simp only [programModule?, hoffset, Option.bind_some]
    rfl

/-- The program attribute that is found stands in program text: its line starts there, and it is
the first one of the masked lines that starts with the attribute. -/
structure ProgramShown (text : String) : Prop where
  findIdx?_eq : (maskLines (Text.lines text.toList)).findIdx? isProgramLine
    = (Text.lines text.toList).findIdx? isProgramLine
  region_eq : ∀ k ∈ (Text.lines text.toList).findIdx? isProgramLine,
    regionAfter .code ((Text.lines text.toList).take k) = .code

/-- Where the program attribute stands in program text, the program module is that of the masked
lines. -/
theorem ProgramShown.programModule?_eq {text : String} (h : ProgramShown text) :
  programModule? text
    = ((maskLines (Text.lines text.toList)).findIdx? isProgramLine).bind fun offset =>
        firstBlock? offset
          (findingsFrom .module 0 none 0 ((maskLines (Text.lines text.toList)).drop offset))
  := by
  rw [Source.programModule?_eq, h.findIdx?_eq]
  cases hoffset : (Text.lines text.toList).findIdx? isProgramLine with
  | none => rfl
  | some offset =>
    rw [Option.bind_some, Option.bind_some, findings, maskLines_drop (h.region_eq offset hoffset)]

/-! ### Entrypoints -/

/-- The name of an entrypoint with its first and its last line. -/
def Entrypoint.place (e : Entrypoint) : String × Nat × Nat :=
  (e.name, e.first, e.last)

/-- The places of entrypoints are those of functions inside the program module. -/
theorem map_place_entrypoints (text : String) :
  (entrypoints text).map Entrypoint.place
    = match programModule? text with
      | none => []
      | some (first, last) =>
        ((scan .function text).map Range.place).filter fun p => first < p.2.1 && p.2.2 < last
  := by
  rw [entrypoints]
  cases programModule? text with
  | none => rfl
  | some m =>
    obtain ⟨first, last⟩ := m
    simp only [List.map_map, List.filter_map]
    rfl

/-- In texts with the same masked text the same constructs of each kind are found, on the same
lines. If the program attribute that is found stands in program text in both of them, they have
the same program module, and the same entrypoints on the same lines. -/
theorem found_of_mask_eq {t₁ t₂ : String} (h : mask t₁.toList = mask t₂.toList) :
  (∀ kind, (scan kind t₁).map Range.place = (scan kind t₂).map Range.place)
  ∧ (ProgramShown t₁ → ProgramShown t₂ →
      programModule? t₁ = programModule? t₂
      ∧ (entrypoints t₁).map Entrypoint.place = (entrypoints t₂).map Entrypoint.place)
  := by
  use map_place_scan h
  intro h₁ h₂
  have hmodule : programModule? t₁ = programModule? t₂ := by
    rw [h₁.programModule?_eq, h₂.programModule?_eq, maskLines_eq_of_mask_eq h]
  use hmodule
  rw [map_place_entrypoints, map_place_entrypoints, hmodule, map_place_scan h]

theorem found_of_mask_eq_openComment :
  let t₁ := "/* \x7b */\n#[program]\nmod m \x7b\nfn f() \x7b\x7d\n\x7d\n"
  let t₂ := "/*   */\n#[program]\nmod m \x7b\nfn f() \x7b\x7d\n\x7d\n"
  mask t₁.toList = mask t₂.toList ∧ ProgramShown t₁ ∧ ProgramShown t₂
  ∧ (∀ kind, (scan kind t₁).map Range.place = (scan kind t₂).map Range.place)
  ∧ programModule? t₁ = programModule? t₂
  ∧ (entrypoints t₁).map Entrypoint.place = (entrypoints t₂).map Entrypoint.place
  := by
  intro t₁ t₂
  have hmask : mask t₁.toList = mask t₂.toList := by decide +kernel
  have h₁ : ProgramShown t₁ := ⟨by decide +kernel, by decide +kernel⟩
  have h₂ : ProgramShown t₂ := ⟨by decide +kernel, by decide +kernel⟩
  obtain ⟨hscan, hprogram⟩ := found_of_mask_eq hmask
  exact ⟨hmask, h₁, h₂, hscan, hprogram h₁ h₂⟩

/-- The text of a comment makes a program module, and an entrypoint in it, of what is none if the
comment is blank. -/
theorem programModule?_depends_on_comments :
  let t₁ := "/*\n#[program]\n*/\nmod m \x7b\nfn f() \x7b\x7d\n\x7d\n"
  let t₂ := "/*\n          \n*/\nmod m \x7b\nfn f() \x7b\x7d\n\x7d\n"
  mask t₁.toList = mask t₂.toList
  ∧ programModule? t₁ = some (4, 6) ∧ programModule? t₂ = none
  ∧ (entrypoints t₁).map Entrypoint.place = [("f", 5, 5)]
  ∧ (entrypoints t₂).map Entrypoint.place = []
  := by
  decide +kernel

end AnchorIndex.Source

import AnchorIndex.Proofs.Account.Endings
import AnchorIndex.Proofs.Source.Hiding

/-!
# Cutting a struct into fields

A struct is cut line by line. What a line does to the state of the cutter depends on its mask:
before the opening brace it is skipped (`cutFrom_outside`), a brace on its own ends the struct
(`cutFrom_closing`), blank lines in front of a chunk are skipped (`cutFrom_blank`), and every other
line belongs to the present chunk (`cutFrom_inside`), which it may end (`Cutter.take_of_ends`).
-/

namespace AnchorIndex.Account

open Source (Region maskLine maskLines maskLinesFrom regionAfter)
open Text (allBlank lines strip)

/-! ### Rows -/

section

variable {region : Region} {line : List Char} {ls more : List (List Char)}

/-- The lines with their masks, the first of which starts in a region. -/
def rows (region : Region) (ls : List (List Char)) : List (List Char × List Char) :=
  ls.zip (maskLinesFrom region ls)

theorem rows_cons (region : Region) (line : List Char) (ls : List (List Char)) :
  rows region (line :: ls) = (line, (maskLine region line).1) :: rows (maskLine region line).2 ls
  := rfl

theorem regionAfter_append (region : Region) (ls more : List (List Char)) :
  regionAfter region (ls ++ more) = regionAfter (regionAfter region ls) more
  := by
  induction ls generalizing region with
  | nil => rfl
  | cons line ls ih => exact ih _

theorem maskLinesFrom_append (region : Region) (ls more : List (List Char)) :
  maskLinesFrom region (ls ++ more)
    = maskLinesFrom region ls ++ maskLinesFrom (regionAfter region ls) more
  := by
  induction ls generalizing region with
  | nil => rfl
  | cons line ls ih =>
    rw [List.cons_append, Source.maskLinesFrom_cons, Source.maskLinesFrom_cons, ih]
    rfl

theorem rows_append (region : Region) (ls more : List (List Char)) :
  rows region (ls ++ more) = rows region ls ++ rows (regionAfter region ls) more
  := by
  induction ls generalizing region with
  | nil => rfl
  | cons line ls ih =>
    rw [List.cons_append, rows_cons, rows_cons, ih]
    rfl

theorem chunks_eq (content : List Char) :
  chunks content = cutFrom ⟨0, 0, false, [], []⟩ (rows .code (lines content))
  := rfl

/-- A struct is decoded if each chunk is. -/
theorem fields_eq_ok_iff {content : List Char} {fs : List Field} :
  fields content = .ok fs
    ↔ List.Forall₂ (fun chunk f => Field.ofText? chunk = some f) (chunks content) fs
  := by
  rw [fields]
  apply mapM_eq_ok_iff_of_forall₂
  rw [List.forall₂_same]
  intro chunk _ f
  cases Field.ofText? chunk <;> simp

end

/-! ### One line -/

section

variable {s : Cutter} {raw masked : List Char} {more : List (List Char × List Char)}

/-- The change of the depth of braces over a line. -/
def depthStep (line : List Char) : Int :=
  occurrences '{' line - occurrences '}' line

/-- The mask of a line that ends a struct holds braces only. -/
def IsBraces (masked : List Char) : Prop :=
  allBlank (Text.stripLast '}' (strip masked)) = true

instance (masked : List Char) : Decidable (IsBraces masked) :=
  inferInstanceAs (Decidable (_ = true))

theorem isEmpty_strip (cs : List Char) :
  (strip cs).isEmpty = allBlank cs
  := by
  rw [Bool.eq_iff_iff, List.isEmpty_iff, Text.strip_eq_nil_iff]

/-- Before the opening brace a line belongs to no field. -/
theorem cutFrom_outside (h : s.depth = 0) :
  cutFrom s ((raw, masked) :: more) = cutFrom { s with depth := s.depth + depthStep masked } more
  := by
  rw [cutFrom, if_pos h]
  rfl

/-- The cutting ends at the brace that closes the struct. -/
theorem cutFrom_closing (h : s.depth = 1) (hdepth : s.depth + depthStep masked < 1)
    (hbraces : IsBraces masked) :
  cutFrom s ((raw, masked) :: more) = s.finish
  := by
  rw [IsBraces, ← isEmpty_strip] at hbraces
  rw [cutFrom, if_neg (by rw [h]; decide), if_pos ⟨h, hdepth, hbraces⟩]

theorem depthStep_of_forall {cs : List Char} (h : ∀ c ∈ cs, c ∉ ['{', '}']) :
  depthStep cs = 0
  := by
  have hcount : ∀ {d : Char}, d ∈ ['{', '}'] → cs.count d = 0 := by
    intro d hd
    rw [List.count_eq_zero]
    exact fun hmem => h d hmem hd
  simp [depthStep, occurrences, hcount]

theorem depthStep_append (cs ds : List Char) :
  depthStep (cs ++ ds) = depthStep cs + depthStep ds
  := by
  simp only [depthStep, occurrences, List.count_append, Int.natCast_add]
  omega

theorem depthStep_of_allBlank {blanks : List Char} (h : allBlank blanks = true) :
  depthStep blanks = 0
  := by
  apply depthStep_of_forall
  intro c hc
  exact notMem_of_all (by decide) (Text.allBlank_iff.1 h c hc)

/-- In front of a chunk blank lines are skipped. -/
theorem cutFrom_blank (hdepth : s.depth ≠ 0) (hblank : allBlank masked = true)
    (hpending : s.pending = []) :
  cutFrom s ((raw, masked) :: more) = cutFrom s more
  := by
  have hempty : (strip masked).isEmpty = true := by rw [isEmpty_strip, hblank]
  have hstep : s.depth + (occurrences '{' masked - occurrences '}' masked) = s.depth := by
    have hzero := depthStep_of_allBlank hblank
    rw [depthStep] at hzero
    omega
  have hbefore : ¬ (s.depth = 1 ∧ s.depth < 1 ∧
      (strip (Text.stripLast '}' (strip masked))).isEmpty = true) := by
    rintro ⟨heq, hlt, -⟩
    omega
  rw [cutFrom]
  dsimp only
  rw [hstep, if_neg hdepth, if_neg hbefore, if_pos ⟨hempty, by rw [hpending]; rfl⟩]

/-- Every other line belongs to the present chunk. -/
theorem cutFrom_inside (hdepth : s.depth ≠ 0)
    (hbraces : ¬ (s.depth = 1 ∧ s.depth + depthStep masked < 1 ∧ IsBraces masked))
    (hshown : allBlank masked = true → s.pending ≠ []) :
  cutFrom s ((raw, masked) :: more)
    = let next := s.take (s.depth + depthStep masked) raw masked
      if !continues next.nesting (strip masked) && s.depth + depthStep masked < 1 then next.finish
      else cutFrom next more
  := by
  have hskip : ¬ ((strip masked).isEmpty = true ∧ s.pending.isEmpty = true) := by
    rw [isEmpty_strip, List.isEmpty_iff]
    exact fun h => hshown h.1 h.2
  rw [IsBraces, ← isEmpty_strip] at hbraces
  rw [cutFrom]
  exact (if_neg hdepth).trans ((if_neg hbraces).trans (if_neg hskip))

end

/-! ### Lines of a chunk -/

section

variable {s : Cutter} {depth : Int} {raw masked : List Char}

/-- The state with one more line in the present chunk. -/
def Cutter.gather (s : Cutter) (depth : Int) (raw masked : List Char) : Cutter :=
  { s with
    depth := depth
    nesting := s.nesting + nestingStep masked
    pending := raw :: s.pending }

/-- A declaration has begun up to the end of a line. -/
def Cutter.declares (s : Cutter) (masked : List Char) : Bool :=
  s.declaring || (fieldName? (strip masked)).isSome

/-- The line ends the present chunk. -/
def Cutter.ends (s : Cutter) (depth : Int) (masked : List Char) : Bool :=
  s.declares masked && (Text.lastIs ',' (strip masked) || depth < 1)

theorem Cutter.take_depth (s : Cutter) (depth : Int) (raw masked : List Char) :
  (s.take depth raw masked).depth = depth
    ∧ (s.take depth raw masked).nesting = s.nesting + nestingStep masked
  := by
  rw [take]
  dsimp only
  split
  · exact ⟨rfl, rfl⟩
  · split <;> exact ⟨rfl, rfl⟩

theorem Cutter.take_of_continues
    (h : continues (s.nesting + nestingStep masked) (strip masked) = true) :
  s.take depth raw masked = s.gather depth raw masked
  := by
  rw [take]
  dsimp only
  rw [if_pos h]
  rfl

variable (h : continues (s.nesting + nestingStep masked) (strip masked) = false)

include h

theorem Cutter.take_of_ends (hends : s.ends depth masked = true) :
  s.take depth raw masked
    = { s.gather depth raw masked with
        declaring := false
        pending := []
        chunks := (if depth < 1 then withoutBrace (s.gather depth raw masked).pendingText
          else (s.gather depth raw masked).pendingText) :: s.chunks }
  := by
  rw [take]
  dsimp only
  rw [if_neg (by rw [h]; exact Bool.false_ne_true)]
  exact if_pos hends

theorem Cutter.take_of_not_ends (hends : s.ends depth masked = false) :
  s.take depth raw masked
    = { s.gather depth raw masked with declaring := s.declares masked }
  := by
  rw [take]
  dsimp only
  rw [if_neg (by rw [h]; exact Bool.false_ne_true)]
  have hnot : ¬ s.ends depth masked = true := by
    rw [hends]
    exact Bool.false_ne_true
  exact if_neg hnot

end

/-! ### Lines inside a struct -/

section

variable {s : Cutter} {raw masked : List Char} {more : List (List Char × List Char)}
  (hdepth : s.depth ≠ 0) (hinside : 1 ≤ s.depth + depthStep masked)
  (hshown : allBlank masked = true → s.pending ≠ [])

include hdepth hinside hshown

/-- Inside a struct the cutting goes on behind every line. -/
theorem cutFrom_take :
  cutFrom s ((raw, masked) :: more) = cutFrom (s.take (s.depth + depthStep masked) raw masked) more
  := by
  have hlt : decide (s.depth + depthStep masked < 1) = false := decide_eq_false (by omega)
  rw [cutFrom_inside hdepth (fun h => by omega) hshown]
  dsimp only
  rw [hlt, Bool.and_false, if_neg Bool.false_ne_true]

/-- A line that goes on with an attribute or a comment is added to the present chunk. -/
theorem cutFrom_continues
    (h : continues (s.nesting + nestingStep masked) (strip masked) = true) :
  cutFrom s ((raw, masked) :: more)
    = cutFrom (s.gather (s.depth + depthStep masked) raw masked) more
  := by
  rw [cutFrom_take hdepth hinside hshown, Cutter.take_of_continues h]

variable (h : continues (s.nesting + nestingStep masked) (strip masked) = false)

include h

/-- So is a line of a declaration that does not end with a comma. -/
theorem cutFrom_open (hends : (s.declares masked && Text.lastIs ',' (strip masked)) = false) :
  cutFrom s ((raw, masked) :: more)
    = cutFrom { s.gather (s.depth + depthStep masked) raw masked with
        declaring := s.declares masked } more
  := by
  have hlt : decide (s.depth + depthStep masked < 1) = false := decide_eq_false (by omega)
  rw [cutFrom_take hdepth hinside hshown, Cutter.take_of_not_ends h]
  rw [Cutter.ends, hlt, Bool.or_false, hends]

/-- A comma at the end of a line of a declaration ends the chunk. -/
theorem cutFrom_ends (hends : (s.declares masked && Text.lastIs ',' (strip masked)) = true) :
  cutFrom s ((raw, masked) :: more)
    = cutFrom
        { s.gather (s.depth + depthStep masked) raw masked with
          declaring := false
          pending := []
          chunks := Text.stripRight (Text.unlines (raw :: s.pending).reverse) :: s.chunks } more
  := by
  have hnot : ¬ s.depth + depthStep masked < 1 := by omega
  rw [cutFrom_take hdepth hinside hshown, Cutter.take_of_ends h, if_neg hnot]
  · rfl
  · rw [Cutter.ends, decide_eq_false hnot, Bool.or_false, hends]

end

end AnchorIndex.Account

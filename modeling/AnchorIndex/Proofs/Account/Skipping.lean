import AnchorIndex.Proofs.Account.Items
import AnchorIndex.Proofs.Account.Masking
import AnchorIndex.Proofs.Source.Hiding

/-!
# Skipping attributes

The declaration of an account field is looked for line by line in the masked text. No line of an
attribute is taken for it: the first begins with a hash, and on the others brackets are open
(`declarationFrom?_skip`). So attributes in front of a declaration do not matter
(`IsAttribute.declaration?_append`).
-/

namespace AnchorIndex.Account

open Source (mask)
open Text (allBlank isBlank lines strip)

/-! ### Blanks and open brackets -/

section

variable {depth : Int} {line blanks cs rest : List Char} {more : List (List Char)}

theorem strip_cons_solid {c : Char} (hc : isBlank c = false) (cs : List Char) :
  strip (c :: cs) = c :: Text.stripRight cs
  := by
  have hsolid : allBlank (c :: cs) = false := by
    rw [allBlank, List.all_cons, hc, Bool.false_and]
  rw [strip, Text.stripLeft_cons_solid hc, Text.stripRight_cons, hsolid, if_neg Bool.false_ne_true]

theorem fieldName?_strip_nil :
  fieldName? (strip []) = none
  := rfl

/-- A line is skipped in which brackets are open, a hash stands in front or no name is declared. -/
theorem declarationFrom?_cons_of_none
    (h : depth = 0 → Text.headIs '#' (strip line) = true ∨ fieldName? (strip line) = none) :
  declarationFrom? depth (line :: more) = declarationFrom? (depth + nestingStep line) more
  := by
  rw [declarationFrom?]
  dsimp only
  split
  next name hname =>
    split at hname
    next hlevel =>
      rw [Bool.and_eq_true, decide_eq_true_eq, Bool.not_eq_true'] at hlevel
      obtain hhash | hnone := h hlevel.1
      · rw [hhash] at hlevel
        exact absurd hlevel.2 (by decide)
      · rw [hnone] at hname
        contradiction
    next => contradiction
  next => rfl

/-- Otherwise the search ends with the line, and the type goes up to the end of the text. -/
theorem declarationFrom?_cons_of_some {name : List Char}
    (hhash : Text.headIs '#' (strip line) = false) (hname : fieldName? (strip line) = some name) :
  declarationFrom? 0 (line :: more)
    = some (name,
      strip (Text.stripLast ',' (strip (afterColon (Text.joinWith ' ' (line :: more))))))
  := by
  rw [declarationFrom?, hhash, hname]
  rfl

theorem nestingStep_of_allBlank (h : allBlank blanks = true) :
  nestingStep blanks = 0
  := by
  apply nestingStep_of_forall
  intro c hc
  exact notMem_of_all (by decide) (Text.allBlank_iff.1 h c hc)

/-- One blank in front of a line does not matter. -/
theorem declarationFrom?_cons_blank {c : Char} (hc : isBlank c = true) (depth : Int)
    (line : List Char) (more : List (List Char)) :
  declarationFrom? depth ((c :: line) :: more) = declarationFrom? depth (line :: more)
  := by
  have hstrip : strip (c :: line) = strip line := by
    rw [strip, Text.stripLeft_cons_blank hc, strip]
  have hstep : nestingStep (c :: line) = nestingStep line := by
    have hsingle : nestingStep [c] = 0 := nestingStep_of_allBlank (by simp [allBlank, hc])
    rw [← List.singleton_append, nestingStep_append, hsingle, Int.zero_add]
  have hcolon : afterColon (Text.joinWith ' ' ((c :: line) :: more))
      = afterColon (Text.joinWith ' ' (line :: more)) := by
    have hne : c ≠ ':' := Source.ne_of_isBlank hc (by decide)
    cases more with
    | nil => simp [Text.joinWith, afterColon, hne]
    | cons next more =>
      rw [Text.joinWith_cons_cons, Text.joinWith_cons_cons, afterColon, List.cons_append,
        List.dropWhile_cons_of_pos (by simpa using hne)]
      rfl
  rw [declarationFrom?, declarationFrom?, hstrip, hstep, hcolon]

theorem lines_newline (cs : List Char) :
  lines ('\n' :: cs) = [] :: lines cs
  := by
  exact Text.splitAt_append '\n' [] cs

theorem exists_lines_cons {c : Char} (hc : c ≠ '\n') (cs : List Char) :
  ∃ line more, lines cs = line :: more ∧ lines (c :: cs) = (c :: line) :: more
  := by
  cases h : lines cs with
  | nil => exact absurd h (Text.splitAt_ne_nil _ _)
  | cons line more =>
    refine ⟨line, more, rfl, ?_⟩
    rw [lines] at h
    rw [lines, Text.splitAt_cons, h, Text.consPiece, if_neg hc]

/-- Blanks in front of a text do not matter, wherever its lines end. -/
theorem declarationFrom?_blank_append (h : allBlank blanks = true) (depth : Int)
    (rest : List Char) :
  declarationFrom? depth (lines (blanks ++ rest)) = declarationFrom? depth (lines rest)
  := by
  induction blanks with
  | nil => rfl
  | cons c blanks ih =>
    rw [allBlank, List.all_cons, Bool.and_eq_true] at h
    rw [← ih h.2, List.cons_append]
    by_cases hc : c = '\n'
    · have hstep : nestingStep [] = 0 := rfl
      rw [hc, lines_newline, declarationFrom?_cons_of_none fun _ => .inr fieldName?_strip_nil,
        hstep, Int.add_zero]
    · obtain ⟨line, more, hlines, hcons⟩ := exists_lines_cons hc (blanks ++ rest)
      rw [hcons, hlines, declarationFrom?_cons_blank h.1]

theorem headIs_strip {c : Char} (hc : isBlank c = false) (h : cs.head? = some c) :
  Text.headIs c (strip cs) = true
  := by
  obtain ⟨cs, rfl⟩ := List.head?_eq_some_iff.1 h
  rw [strip_cons_solid hc, Text.headIs]
  simp

theorem lines_append_newline (h : '\n' ∉ cs) (rest : List Char) :
  lines (cs ++ '\n' :: rest) = cs :: lines rest
  := by
  rw [lines, Text.splitAt_append, Text.splitAt_of_notMem h]
  rfl

theorem nestingStep_newline_cons (cs : List Char) :
  nestingStep ('\n' :: cs) = nestingStep cs
  := by
  have hsingle : nestingStep ['\n'] = 0 := rfl
  rw [← List.singleton_append, nestingStep_append, hsingle, Int.zero_add]

/-- Lines are skipped up to the end of a text in which brackets are open wherever a line begins, but
for the first if it begins with a hash. -/
theorem declarationFrom?_skip (hfirst : depth = 0 → cs.head? = some '#')
    (hopen : ∀ p, p ++ ['\n'] <+: cs → depth + nestingStep p ≠ 0) :
  declarationFrom? depth (lines (cs ++ '\n' :: rest))
    = declarationFrom? (depth + nestingStep cs) (lines rest)
  := by
  induction hlength : cs.length using Nat.strong_induction_on generalizing cs depth with
  | h length ih =>
    have hmute : ∀ {line : List Char}, (depth = 0 → line.head? = some '#') → depth = 0 →
        Text.headIs '#' (strip line) = true ∨ fieldName? (strip line) = none :=
      fun hline heq => .inl (headIs_strip (by decide) (hline heq))
    by_cases hnewline : '\n' ∈ cs
    · obtain ⟨first, cs, rfl, hline⟩ := List.eq_append_cons_of_mem hnewline
      have hhash : depth = 0 → first.head? = some '#' := by
        intro heq
        cases first with
        | nil => cases hfirst heq
        | cons c first => exact hfirst heq
      have hdepth := hopen first ⟨cs, by simp⟩
      have hinside : ∀ p, p ++ ['\n'] <+: cs → depth + nestingStep first + nestingStep p ≠ 0 := by
        rintro p ⟨back, rfl⟩
        have hdeep := hopen (first ++ '\n' :: p) ⟨back, by simp⟩
        rw [nestingStep_append, nestingStep_newline_cons] at hdeep
        omega
      -- on the next line brackets are open, so it is skipped whatever it begins with
      have hrest := ih cs.length (by rw [← hlength]; simp; omega) (fun heq => absurd heq hdepth)
        hinside rfl
      rw [List.append_assoc, List.cons_append, lines_append_newline hline,
        declarationFrom?_cons_of_none (hmute hhash), hrest, nestingStep_append,
        nestingStep_newline_cons, Int.add_assoc]
    · rw [lines_append_newline hnewline, declarationFrom?_cons_of_none (hmute hfirst)]

/-- Where a line of an attribute ends, but for the last, its brackets are open. -/
theorem Even.nestingStep_pos (hcs : Even cs) {gap p : List Char} (hgap : '\n' ∉ gap)
    (hp : p ++ ['\n'] <+: "#[account(".toList ++ (cs ++ ')' :: ']' :: gap)) :
  0 < nestingStep p
  := by
  have hstart : nestingStep "#[account(".toList = 2 := rfl
  obtain ⟨back, hback⟩ := hp
  rw [List.append_assoc, List.singleton_append] at hback
  obtain ⟨inner, rfl, hinner⟩ | ⟨_, hno, -⟩ := Text.before_or_after_of_append_eq hback.symm
  · obtain ⟨_, -, hno⟩ | ⟨more, hcs', -⟩ := Text.before_or_after_of_append_eq hinner
    · -- behind the text there are no more lines
      exfalso
      have hmem : '\n' ∈ ')' :: ']' :: gap := by
        rw [hno]
        simp
      simp [hgap] at hmem
    · have hnonneg := hcs.nonneg inner ⟨_, hcs'.symm⟩
      rw [nestingStep_append, hstart]
      omega
  · have hmem : '\n' ∈ "#[account(".toList := by
      rw [hno]
      simp
    exact absurd hmem (by decide)

theorem Even.nestingStep_attribute (hcs : Even cs) {gap : List Char} (hgap : allBlank gap = true) :
  nestingStep ("#[account(".toList ++ (cs ++ ')' :: ']' :: gap)) = 0
  := by
  have hstart : nestingStep "#[account(".toList = 2 := rfl
  have hend : nestingStep [')', ']'] = -2 := rfl
  have hback : ')' :: ']' :: gap = [')', ']'] ++ gap := rfl
  rw [hback, nestingStep_append, nestingStep_append, nestingStep_append, hcs.eq_zero, hstart, hend,
    nestingStep_of_allBlank hgap]
  rfl

/-- An attribute is skipped, whatever is in it. -/
theorem declarationFrom?_attribute (hcs : Even cs) {gap : List Char} (hgap : allBlank gap = true)
    (rest : List Char) :
  declarationFrom? 0 (lines ("#[account(".toList ++ (cs ++ (')' :: ']' :: (gap ++ '\n' :: rest)))))
    = declarationFrom? 0 (lines rest)
  := by
  -- the last line of the attribute ends with the first newline behind its bracket
  have hnewline : '\n' ∈ gap ++ ['\n'] := by simp
  obtain ⟨gap₁, gap₂, hsplit, hline⟩ := List.eq_append_cons_of_mem hnewline
  have hblank : allBlank (gap₁ ++ '\n' :: gap₂) = true := by
    rw [← hsplit, Text.allBlank_append, hgap]
    rfl
  rw [Text.allBlank_append, Bool.and_eq_true, allBlank, allBlank, List.all_cons,
    Bool.and_eq_true] at hblank
  obtain ⟨hgap₁, -, hgap₂⟩ := hblank
  have htext : "#[account(".toList ++ (cs ++ (')' :: ']' :: (gap ++ '\n' :: rest)))
      = ("#[account(".toList ++ (cs ++ ')' :: ']' :: gap₁)) ++ '\n' :: (gap₂ ++ rest) := by
    have hgaps : gap ++ '\n' :: rest = gap₁ ++ '\n' :: (gap₂ ++ rest) := by
      have happend := congrArg (· ++ rest) hsplit
      simpa using happend
    rw [hgaps]
    simp
  have hopen : ∀ p, p ++ ['\n'] <+: "#[account(".toList ++ (cs ++ ')' :: ']' :: gap₁) →
      0 + nestingStep p ≠ 0 := by
    intro p hp
    have hpos := hcs.nestingStep_pos hline hp
    omega
  rw [htext, declarationFrom?_skip (fun _ => rfl) hopen, hcs.nestingStep_attribute hgap₁,
    Int.add_zero, declarationFrom?_blank_append hgap₂]

/-! ### Attributes -/

/-- What a text declares, given its masked text. -/
theorem declaration?_eq (text : List Char) :
  declaration? text = declarationFrom? 0 (lines (mask text))
  := by
  rw [declaration?, Source.lines_mask]

/-- In front of a declaration attributes do not matter. -/
theorem IsAttribute.declaration?_append {text : List Char} {items : List Item}
    (h : IsAttribute text items) (more : List Char) :
  declaration? (text ++ more) = declaration? more
  := by
  cases h with
  | @intro indent body gap texts items hindent hitems hseparated hgap =>
    have htext :
        indent ++ ("#[account(".toList ++ (body ++ (')' :: ']' :: (gap ++ ['\n'])))) ++ more
        = indent ++ ("#[account(".toList ++ (body ++ (')' :: ']' :: (gap ++ '\n' :: more)))) := by
      simp
    obtain ⟨m, ⟨-, hm⟩, hmask⟩ := (hseparated.isNested_items hitems).exists_maskPass
      (@ends_cons ')' (by decide) (']' :: (gap ++ '\n' :: more)))
      ("#[account(".toList.reverse ++ (indent.reverse ++ []))
    rw [declaration?_eq, declaration?_eq, Source.mask_eq_maskPass, Source.mask_eq_maskPass, htext,
      Source.maskPass_blank_append hindent, maskPass_keep_append (keep_of_all (by decide)), hmask,
      maskPass_keep_of_ne (by decide), maskPass_keep_of_ne (by decide),
      Source.maskPass_blank_append hgap, Source.maskPass_newline,
      declarationFrom?_blank_append hindent, declarationFrom?_attribute hm hgap]
    -- masking begins anew on the next line
    exact congrArg (fun cs => declarationFrom? 0 (lines cs))
      (Source.maskPass_append_cons Source.isWordChar_newline .code [] [] _ more)

end

theorem declaration?_attributes_append {texts : List (List Char)} {items : List (List Item)}
    (h : List.Forall₂ IsAttribute texts items) (more : List Char) :
  declaration? (texts.flatten ++ more) = declaration? more
  := by
  induction h with
  | nil => rfl
  | cons hattribute _ ih =>
    rw [List.flatten_cons, List.append_assoc, hattribute.declaration?_append, ih]

end AnchorIndex.Account

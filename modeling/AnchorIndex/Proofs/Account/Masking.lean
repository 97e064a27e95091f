import AnchorIndex.Proofs.Account.Nested
import AnchorIndex.Proofs.Source.Comments

/-!
# Masked nested texts

The text of a type is masked by itself (`Kept`, `IsNested.kept`). Of the text of an expression, the
contents of literals are blank, so the brackets that are left are those of the expression: up to no
point are more closed than opened, and at the end none is open (`Even`,
`IsNested.exists_maskPass`).
-/

namespace AnchorIndex.Account

open Source (maskPass restOfLine blank)
open Text (allBlank)

/-! ### Depth -/

section

variable {cs ds : List Char}

theorem nestingStep_append (cs ds : List Char) :
  nestingStep (cs ++ ds) = nestingStep cs + nestingStep ds
  := by
  simp only [nestingStep, occurrences, List.count_append, Int.natCast_add]
  omega

theorem nestingStep_of_forall (h : ∀ c ∈ cs, c ∉ ['(', ')', '[', ']']) :
  nestingStep cs = 0
  := by
  have hcount : ∀ {d : Char}, d ∈ ['(', ')', '[', ']'] → cs.count d = 0 := by
    intro d hd
    rw [List.count_eq_zero]
    intro hmem
    exact h d hmem hd
  simp [nestingStep, occurrences, hcount]

/-- Each start of the text closes no more parentheses and brackets than it opens, and all of it
closes as many. -/
structure Even (cs : List Char) : Prop where
  nonneg : ∀ p, p <+: cs → 0 ≤ nestingStep p
  eq_zero : nestingStep cs = 0

theorem even_of_forall (h : ∀ c ∈ cs, c ∉ ['(', ')', '[', ']']) :
  Even cs
  where
  nonneg := by
    intro p hp
    exact Int.le_of_eq (nestingStep_of_forall fun c hc => h c (hp.subset hc)).symm
  eq_zero := nestingStep_of_forall h

theorem Even.append (hcs : Even cs) (hds : Even ds) :
  Even (cs ++ ds)
  where
  nonneg := by
    rintro p ⟨s, hs⟩
    obtain ⟨between, hbetween, -⟩ | ⟨between, rfl, hmore⟩ := List.append_eq_append_iff.1 hs
    · exact hcs.nonneg p ⟨between, hbetween.symm⟩
    · rw [nestingStep_append, hcs.eq_zero, Int.zero_add]
      exact hds.nonneg between ⟨s, hmore.symm⟩
  eq_zero := by rw [nestingStep_append, hcs.eq_zero, hds.eq_zero]; rfl

theorem Even.cons {c : Char} (hc : c ∉ ['(', ')', '[', ']']) (hcs : Even cs) :
  Even (c :: cs)
  := by
  have hsingle : Even [c] := even_of_forall (by simpa using hc)
  exact hsingle.append hcs

/-- Brackets around an even text are even. -/
theorem Bracket.even (b : Bracket) (hcs : Even cs) :
  Even (b.opening :: (cs ++ [b.closing]))
  where
  nonneg := by
    have hopen : 0 ≤ nestingStep [b.opening] := by cases b <;> decide
    have hclosed : nestingStep [b.opening] + nestingStep [b.closing] = 0 := by cases b <;> decide
    intro p hp
    cases p with
    | nil => decide
    | cons c p =>
      rw [List.cons_prefix_cons] at hp
      obtain ⟨rfl, s, hs⟩ := hp
      rw [← List.singleton_append, nestingStep_append]
      obtain ⟨between, hbetween, -⟩ | ⟨between, rfl, hmore⟩ := List.append_eq_append_iff.1 hs
      · have := hcs.nonneg p ⟨between, hbetween.symm⟩
        omega
      · rw [nestingStep_append, hcs.eq_zero]
        cases between with
        | nil =>
          have hnil : nestingStep [] = 0 := rfl
          omega
        | cons d between =>
          injection hmore with hd hmore
          have hnil : between = [] := by
            cases between with
            | nil => rfl
            | cons _ _ => contradiction
          rw [hnil, ← hd]
          omega
  eq_zero := by
    have hclosed : nestingStep [b.opening] + nestingStep [b.closing] = 0 := by cases b <;> decide
    rw [← List.singleton_append, nestingStep_append, nestingStep_append, hcs.eq_zero]
    omega

end

/-! ### Kept characters -/

/-- A lifetime is no character literal. -/
theorem charLiteralLength?_lifetime {cs rest : List Char}
    (hstart : ∃ c ∈ cs.head?, Text.isNameStart c = true) (hliteral : cs[1]? ≠ some '\'')
    (hrest : Ends rest) :
  Source.charLiteralLength? (restOfLine (cs ++ rest)) = none
  := by
  obtain ⟨c, hc, hname⟩ := hstart
  obtain ⟨cs, rfl⟩ := List.head?_eq_some_iff.1 hc
  have hbackslash : c ≠ '\\' := by
    rintro rfl
    contradiction
  have hnewline : c ≠ '\n' := by
    rintro rfl
    contradiction
  have hnext : ∀ d ∈ (cs ++ rest).head?, d ≠ '\'' := by
    cases cs with
    | nil =>
      intro d hd
      have hnot := hrest d hd
      rintro rfl
      simp at hnot
    | cons e cs =>
      rintro d hd rfl
      cases hd
      exact hliteral rfl
  have hline : restOfLine (c :: cs ++ rest) = c :: restOfLine (cs ++ rest) := by
    rw [List.cons_append, restOfLine, List.takeWhile_cons_of_pos (by simpa using hnewline)]
    rfl
  rw [hline, Option.eq_none_iff_forall_ne_some]
  intro n hn
  cases hmore : restOfLine (cs ++ rest) with
  | nil =>
    rw [hmore] at hn
    rw [Source.charLiteralLength?.eq_def] at hn
    split at hn
    next heq => simp at heq
    next heq => simp at heq
    next => contradiction
  | cons d more =>
    rw [hmore] at hn
    exact hnext d (Source.head?_eq_of_restOfLine hmore)
      (Source.eq_of_charLiteralLength?_plain hbackslash hn)

/-- A character in which no comment and no literal begins is kept. -/
theorem maskPass_keep {c : Char} {after : List Char} (hquote : c ≠ '"') (happ : c ≠ '\'')
    (hslash : c = '/' → ∀ d ∈ after.head?, d ≠ '/' ∧ d ≠ '*')
    (hraw : c = 'r' → ∀ hashes rest, after ≠ List.replicate hashes '#' ++ '"' :: rest)
    (before : List Char) :
  maskPass .code [] before (c :: after) = c :: maskPass .code [] (c :: before) after
  := by
  by_cases hc : c = '\n'
  · subst hc
    rfl
  · have hread : Source.readCode before c (restOfLine after) = ⟨true, [], .code⟩ := by
      apply Source.readCode_eq_code hquote happ
      · intro heq d hd
        obtain ⟨more, hmore⟩ := List.head?_eq_some_iff.1 hd
        exact hslash heq d (Source.head?_eq_of_restOfLine hmore)
      · intro heq _ hopening
        obtain ⟨hashes, rest, hafter⟩ := Source.eq_of_drop_hashes hopening
        exact hraw heq hashes rest hafter
    rw [Source.maskPass_cons _ _ hc]
    simp only [Source.Region.read, hread]
    rfl

/-- Plain characters other than a slash and an `r` are kept whatever follows them. -/
theorem maskPass_keep_of_ne {c : Char} (h : c ∉ ['"', '\'', '/', 'r']) (before after : List Char) :
  maskPass .code [] before (c :: after) = c :: maskPass .code [] (c :: before) after
  := by
  simp only [List.mem_cons, List.not_mem_nil, or_false, not_or] at h
  exact maskPass_keep h.1 h.2.1 (fun heq => absurd heq h.2.2.1) (fun heq => absurd heq h.2.2.2)
    before

theorem keep_of_all {cs marks : List Char} (h : cs.all (fun c => !(marks.contains c)) = true) :
  ∀ c ∈ cs, c ∉ marks
  := by
  intro c hc hmem
  have hother := List.all_eq_true.1 h c hc
  rw [List.contains_iff_mem.2 hmem] at hother
  contradiction

theorem maskPass_keep_append {cs : List Char} (h : ∀ c ∈ cs, c ∉ ['"', '\'', '/', 'r'])
    (before after : List Char) :
  maskPass .code [] before (cs ++ after) = cs ++ maskPass .code [] (cs.reverse ++ before) after
  := by
  induction cs generalizing before with
  | nil => rfl
  | cons c cs ih =>
    obtain ⟨hc, hcs⟩ := List.forall_mem_cons.1 h
    rw [List.cons_append, maskPass_keep_of_ne hc, ih hcs]
    simp

theorem maskPass_hashes (hashes : Nat) (before after : List Char) :
  maskPass .code [] before (List.replicate hashes '#' ++ after)
    = List.replicate hashes '#'
      ++ maskPass .code [] ((List.replicate hashes '#').reverse ++ before) after
  := by
  apply maskPass_keep_append
  intro c hc
  rw [List.eq_of_mem_replicate hc]
  decide

/-! ### Literals -/

/-- The content of a literal is blank. -/
theorem IsContent.maskPass_literal {content : List Char} (h : IsContent content)
    (before after : List Char) :
  maskPass .literal [] before (content ++ '"' :: after)
    = content.map blank ++ '"' :: maskPass .code [] ('"' :: (content.reverse ++ before)) after
  := by
  induction content generalizing before with
  | nil => rfl
  | cons c content ih =>
    obtain ⟨hc, hcontent⟩ := List.forall_mem_cons.1 h
    simp only [List.mem_cons, List.not_mem_nil, or_false, not_or] at hc
    have hpiece := Source.maskPass_piece (.plain c hc.1 hc.2.1) before (content ++ '"' :: after)
    have hrest := ih hcontent (c :: before)
    rw [List.cons_append]
    refine hpiece.trans ?_
    simpa [Source.Piece.text] using hrest

/-- A literal is masked by itself with blanks for its content. -/
theorem IsContent.maskPass_quoted {content : List Char} (h : IsContent content)
    (before after : List Char) :
  maskPass .code [] before ('"' :: (content ++ '"' :: after))
    = '"' :: (content.map blank ++ '"' ::
      maskPass .code [] (('"' :: (content ++ ['"'])).reverse ++ before) after)
  := by
  have hopen : maskPass .code [] before ('"' :: (content ++ '"' :: after))
      = '"' :: maskPass .literal [] ('"' :: before) (content ++ '"' :: after) := rfl
  rw [hopen, h.maskPass_literal]
  simp

/-- So is a raw literal, in a word as well. -/
theorem IsContent.maskPass_rawLiteral {content : List Char} (h : IsContent content) (hashes : Nat)
    (before after : List Char) :
  maskPass .code [] before ('r' :: (List.replicate hashes '#' ++ '"' :: (content
      ++ '"' :: (List.replicate hashes '#' ++ after))))
    = 'r' :: (List.replicate hashes '#' ++ '"' :: (content.map blank
      ++ '"' :: (List.replicate hashes '#' ++ maskPass .code []
        (('r' :: (List.replicate hashes '#' ++ '"' :: (content
          ++ '"' :: List.replicate hashes '#'))).reverse ++ before) after)))
  := by
  cases hopens : Source.opensRaw before with
  | true =>
    have hcontent : ¬ '"' :: List.replicate hashes '#' <:+: content := by
      intro hoccurs
      have hnot := h '"' (hoccurs.subset List.mem_cons_self)
      simp at hnot
    rw [Source.maskPass_rawOpening_r hopens, Source.maskPass_rawLiteral hcontent]
    simp
  | false =>
    have hkeep : ∀ rest, maskPass .code [] before ('r' :: rest)
        = 'r' :: maskPass .code [] ('r' :: before) rest := by
      intro rest
      rw [Source.maskPass_cons _ _ (by decide)]
      have hread : Source.readCode before 'r' (restOfLine rest) = ⟨true, [], .code⟩ := by
        simp [Source.readCode, hopens]
      simp only [Source.Region.read, hread]
      rfl
    rw [hkeep, maskPass_hashes, h.maskPass_quoted, maskPass_hashes]
    simp

/-! ### Nested texts -/

/-- A masked text, and what it says of the text: the text of a type is masked by itself, and the
masked text is even. -/
def IsMask (angles : Bool) (cs m : List Char) : Prop :=
  (angles = true → m = cs) ∧ Even m

theorem isMask_of_forall {angles : Bool} {cs : List Char}
    (h : ∀ c ∈ cs, c ∉ ['(', ')', '[', ']']) :
  IsMask angles cs cs
  := ⟨fun _ => rfl, even_of_forall h⟩

theorem IsMask.cons {angles : Bool} {c : Char} {cs m : List Char}
    (hc : c ∉ ['(', ')', '[', ']']) (hcs : IsMask angles cs m) :
  IsMask angles (c :: cs) (c :: m)
  := ⟨fun h => by rw [hcs.1 h], hcs.2.cons hc⟩

theorem IsContent.even_map_blank {content : List Char} :
  Even (content.map blank)
  := by
  apply even_of_forall
  intro c hc
  obtain ⟨d, -, rfl⟩ := List.mem_map.1 hc
  exact notMem_of_all (by decide) (Source.isBlank_blank d)

/-- A nested text is masked as it is in front of all that ends it, whatever stands before it. -/
theorem IsNested.exists_maskPass {angles inside : Bool} {cs : List Char}
    (h : IsNested angles inside cs) {rest : List Char} (hrest : Ends rest) (before : List Char) :
  ∃ m, IsMask angles cs m
    ∧ maskPass .code [] before (cs ++ rest) = m ++ maskPass .code [] (cs.reverse ++ before) rest
  := by
  induction h generalizing rest before with
  | nil => exact ⟨[], isMask_of_forall (by simp), rfl⟩
  | @plain _ c cs hplain hslash hraw _ ih =>
    obtain ⟨m, hm, hmask⟩ := ih hrest (c :: before)
    have hnot := hplain.1
    simp only [List.mem_cons, List.not_mem_nil, or_false, not_or] at hnot
    refine ⟨c :: m, hm.cons (by simp [hnot]), ?_⟩
    rw [List.cons_append, maskPass_keep hnot.1 hnot.2.1 _ (fun heq => hrest.no_opening (hraw heq)),
      hmask]
    · simp
    · intro heq
      cases cs with
      | nil =>
        intro d hd
        have hd := hrest d hd
        simp only [List.mem_cons, List.not_mem_nil, or_false, not_or] at hd
        exact ⟨hd.1, hd.2.1⟩
      | cons d cs => exact hslash heq
  | @comma cs _ ih =>
    obtain ⟨m, hm, hmask⟩ := ih hrest (',' :: before)
    refine ⟨',' :: m, hm.cons (by decide), ?_⟩
    rw [List.cons_append, maskPass_keep_of_ne (by decide), hmask]
    simp
  | @group _ inner cs b _ _ _ _ ihinner ih =>
    have hopening : b.opening ∉ ['"', '\'', '/', 'r'] := by cases b <;> decide
    have hclosing : b.closing ∉ ['"', '\'', '/', 'r'] := by cases b <;> decide
    have hends : Ends (b.closing :: (cs ++ rest)) := by
      apply ends_cons
      cases b <;> decide
    obtain ⟨m, hm, hmask⟩ := ihinner hends (b.opening :: before)
    obtain ⟨m', hm', hmask'⟩ :=
      ih hrest (b.closing :: (inner.reverse ++ b.opening :: before))
    refine ⟨b.opening :: (m ++ b.closing :: m'), ⟨?_, ?_⟩, ?_⟩
    · intro hangles
      rw [hm.1 hangles, hm'.1 hangles]
    · simpa using (b.even hm.2).append hm'.2
    · have htext : b.opening :: (inner ++ b.closing :: cs) ++ rest
          = b.opening :: (inner ++ b.closing :: (cs ++ rest)) := by simp
      rw [htext, maskPass_keep_of_ne hopening, hmask, maskPass_keep_of_ne hclosing, hmask']
      simp
  | @literal _ content cs hangles hcontent _ ih =>
    obtain ⟨m, hm, hmask⟩ := ih hrest (('"' :: (content ++ ['"'])).reverse ++ before)
    refine ⟨'"' :: (content.map blank ++ '"' :: m), ⟨?_, ?_⟩, ?_⟩
    · rw [hangles]
      nofun
    · exact .cons (by decide) (IsContent.even_map_blank.append (.cons (by decide) hm.2))
    · have htext : '"' :: (content ++ '"' :: cs) ++ rest
          = '"' :: (content ++ '"' :: (cs ++ rest)) := by simp
      rw [htext, hcontent.maskPass_quoted, hmask]
      simp
  | @rawLiteral _ content cs hangles hashes hcontent _ ih =>
    obtain ⟨m, hm, hmask⟩ := ih hrest (('r' :: (List.replicate hashes '#' ++ '"' :: (content
          ++ '"' :: List.replicate hashes '#'))).reverse ++ before)
    have hhashes : Even (List.replicate hashes '#') := by
      apply even_of_forall
      intro c hc
      rw [List.eq_of_mem_replicate hc]
      decide
    refine ⟨'r' :: (List.replicate hashes '#' ++ '"' :: (content.map blank
      ++ '"' :: (List.replicate hashes '#' ++ m))), ⟨?_, ?_⟩, ?_⟩
    · rw [hangles]
      nofun
    · exact .cons (by decide) (hhashes.append (.cons (by decide)
        (IsContent.even_map_blank.append (.cons (by decide) (hhashes.append hm.2)))))
    · have htext : 'r' :: (List.replicate hashes '#' ++ '"' :: (content
            ++ '"' :: (List.replicate hashes '#' ++ cs))) ++ rest
          = 'r' :: (List.replicate hashes '#' ++ '"' :: (content
            ++ '"' :: (List.replicate hashes '#' ++ (cs ++ rest)))) := by simp
      rw [htext, hcontent.maskPass_rawLiteral, hmask]
      simp
  | @lifetime _ cs _ hstart hliteral _ ih =>
    obtain ⟨m, hm, hmask⟩ := ih hrest ('\'' :: before)
    refine ⟨'\'' :: m, hm.cons (by decide), ?_⟩
    have hread : Source.readCode before '\'' (restOfLine (cs ++ rest)) = ⟨true, [], .code⟩ := by
      rw [Source.readCode_apostrophe, charLiteralLength?_lifetime hstart hliteral hrest]
    rw [List.cons_append, Source.maskPass_cons _ _ (by decide)]
    simp only [Source.Region.read, hread, hmask]
    simp
  | @arrow _ c cs _ hshaft _ ih =>
    obtain ⟨m, hm, hmask⟩ := ih hrest ('>' :: c :: before)
    have hc : c ∉ ['"', '\'', '/', 'r'] ∧ c ∉ ['(', ')', '[', ']'] := by
      obtain rfl | rfl := hshaft <;> decide
    refine ⟨c :: '>' :: m, (hm.cons (by decide)).cons hc.2, ?_⟩
    rw [List.cons_append, List.cons_append, maskPass_keep_of_ne hc.1,
      maskPass_keep_of_ne (by decide), hmask]
    simp

/-! ### Kept texts -/

section

variable {cs ds : List Char}

/-- The text is masked by itself in front of all that ends it. -/
def Kept (cs : List Char) : Prop :=
  ∀ before rest, Ends rest →
    maskPass .code [] before (cs ++ rest) = cs ++ maskPass .code [] (cs.reverse ++ before) rest

theorem IsNested.kept {inside : Bool} (h : IsNested true inside cs) :
  Kept cs
  := by
  intro before rest hrest
  obtain ⟨m, ⟨hm, -⟩, hmask⟩ := h.exists_maskPass hrest before
  rw [hmask, hm rfl]

theorem Kept.append (hcs : Kept cs) (hds : Kept ds) (hends : Ends ds) :
  Kept (cs ++ ds)
  := by
  intro before rest hrest
  have hmore : Ends (ds ++ rest) := by
    cases ds with
    | nil => exact hrest
    | cons d ds => exact hends
  rw [List.append_assoc, hcs _ _ hmore, hds _ _ hrest]
  simp

theorem Kept.keep_append (hcs : ∀ c ∈ cs, c ∉ ['"', '\'', '/', 'r']) (hds : Kept ds) :
  Kept (cs ++ ds)
  := by
  intro before rest hrest
  rw [List.append_assoc, maskPass_keep_append hcs, hds _ _ hrest]
  simp

theorem keep_of_allBlank (h : allBlank cs = true) :
  ∀ c ∈ cs, c ∉ ['"', '\'', '/', 'r']
  := by
  intro c hc
  exact notMem_of_all (by decide) (Text.allBlank_iff.1 h c hc)

theorem kept_of_forall (h : ∀ c ∈ cs, c ∉ ['"', '\'', '/', 'r']) :
  Kept cs
  := fun before rest _ => maskPass_keep_append h before rest

end

end AnchorIndex.Account

import AnchorIndex.Proofs.Datum.Traversal
import AnchorIndex.Proofs.Source.Masking
import AnchorIndex.Proofs.Text.Words

/-!
# Masking a part of a text

A part of a text is masked alone as it is in the whole text if it stands between a brace of the
program and another one (`mask_eq_of_between`): in front of it program text is read, and what is
read of it does not look across the brace behind it. What is trimmed off a text makes no
difference either (`strip_mask_strip`).
-/

namespace AnchorIndex.Source

open Text (isBlank allBlank)

/-! ### How far a reading looks -/

theorem charLiteralLength?_plain {d : Char} (hd : d ≠ '\\') (s : List Char) :
  charLiteralLength? (d :: '\'' :: s) = some 1
  := by
  rw [charLiteralLength?.eq_def]
  split
  next heq =>
    cases heq
    contradiction
  next heq => rfl
  next hnot => exact absurd rfl (hnot d s)

theorem eq_of_charLiteralLength?_plain {d e : Char} (hd : d ≠ '\\') {s : List Char} {n : Nat}
    (h : charLiteralLength? (d :: e :: s) = some n) :
  e = '\''
  := by
  rw [charLiteralLength?.eq_def] at h
  split at h
  next heq =>
    cases heq
    contradiction
  next heq =>
    cases heq
    rfl
  next => contradiction

/-- An escape ends at the next quote, if that is near. -/
theorem charLiteralLength?_escaped {x : List Char} (hx : '\'' ∉ x) (d : Char) (s : List Char) :
  charLiteralLength? ('\\' :: d :: (x ++ '\'' :: s))
    = if x.length ≤ 7 then some (x.length + 2) else none
  := by
  have htake : (x ++ '\'' :: s).takeWhile (· != '\'') = x := by
    rw [List.takeWhile_append_of_pos]
    · simp
    · intro c hc
      rw [bne_iff_ne]
      rintro rfl
      contradiction
  rw [charLiteralLength?]
  simp [htake]

theorem charLiteralLength?_unended {r : List Char} (hr : '\'' ∉ r) (d : Char) :
  charLiteralLength? ('\\' :: d :: r) = none
  := by
  have htake : r.takeWhile (· != '\'') = r := by
    rw [List.takeWhile_eq_self_iff]
    intro c hc
    rw [bne_iff_ne]
    rintro rfl
    contradiction
  rw [charLiteralLength?]
  simp [htake]

/-- A character literal ends at a quote, and what is behind this quote does not matter. -/
theorem exists_of_charLiteralLength? {cs : List Char} {n : Nat}
    (h : charLiteralLength? cs = some n) :
  ∃ p s, cs = p ++ '\'' :: s ∧ p.length = n ∧ ∀ s', charLiteralLength? (p ++ '\'' :: s') = some n
  := by
  cases cs with
  | nil => contradiction
  | cons d cs =>
    by_cases hd : d = '\\'
    · subst hd
      cases cs with
      | nil => contradiction
      | cons e r =>
        by_cases hr : '\'' ∈ r
        · obtain ⟨x, s, rfl, hx⟩ := List.eq_append_cons_of_mem hr
          rw [charLiteralLength?_escaped hx] at h
          split at h
          next hle =>
            cases h
            refine ⟨'\\' :: e :: x, s, rfl, rfl, ?_⟩
            intro s'
            rw [List.cons_append, List.cons_append, charLiteralLength?_escaped hx, if_pos hle]
          next => contradiction
        · rw [charLiteralLength?_unended hr] at h
          contradiction
    · rw [charLiteralLength?.eq_def] at h
      split at h
      next heq =>
        cases heq
        contradiction
      next heq =>
        cases heq
        cases h
        exact ⟨[d], _, rfl, rfl, fun s' => charLiteralLength?_plain hd s'⟩
      next => contradiction

/-- A character literal stays one whatever is put behind it. -/
theorem charLiteralLength?_append {cs : List Char} {n : Nat}
    (h : charLiteralLength? cs = some n) (after : List Char) :
  charLiteralLength? (cs ++ after) = some n
  := by
  obtain ⟨p, s, rfl, -, hall⟩ := exists_of_charLiteralLength? h
  rw [List.append_assoc, List.cons_append]
  apply hall

/-- A literal that ends in a text is one of the text. -/
theorem charLiteralLength?_of_append {cs after : List Char} {n : Nat}
    (h : charLiteralLength? (cs ++ after) = some n) (hn : n < cs.length) :
  charLiteralLength? cs = some n
  := by
  obtain ⟨p, s, heq, rfl, hall⟩ := exists_of_charLiteralLength? h
  obtain ⟨between, hp, -⟩ | ⟨between, hcs, hs⟩ := List.append_eq_append_iff.1 heq
  · rw [hp, List.length_append] at hn
    omega
  · cases between with
    | nil =>
      rw [hcs, List.append_nil] at hn
      omega
    | cons c between =>
      injection hs with hc _
      rw [hcs, ← hc]
      apply hall

/-- The quote at which a character literal ends. -/
theorem getElem?_of_charLiteralLength? {cs : List Char} {n : Nat}
    (h : charLiteralLength? cs = some n) :
  cs[n]? = some '\''
  := by
  obtain ⟨p, s, rfl, rfl, -⟩ := exists_of_charLiteralLength? h
  simp

/-- A slash of program text looks at the next character only. -/
theorem readCode_slash (before : List Char) (d : Char) (rest rest' : List Char) :
  readCode before '/' (d :: rest) = readCode before '/' (d :: rest')
  := by
  by_cases hline : d = '/'
  · subst hline
    rfl
  by_cases hblock : d = '*'
  · subst hblock
    rfl
  have hplain : ∀ rest, readCode before '/' (d :: rest) = ⟨true, [], .code⟩ := by
    intro rest
    apply readCode_eq_code (by decide) (by decide)
    · intro _ e he
      cases he
      exact ⟨hline, hblock⟩
    · intro heq
      contradiction
  rw [hplain, hplain]

/-- A character of a block comment looks at the next one only. -/
theorem readComment_cons (depth : Nat) (c d : Char) (rest rest' : List Char) :
  readComment depth c (d :: rest) = readComment depth c (d :: rest')
  := by
  by_cases hclose : c = '*' ∧ d = '/'
  · obtain ⟨rfl, rfl⟩ := hclose
    rfl
  by_cases hopen : c = '/' ∧ d = '*'
  · obtain ⟨rfl, rfl⟩ := hopen
    rfl
  have hplain : ∀ rest, readComment depth c (d :: rest) = ⟨false, [], .blockComment depth⟩ := by
    intro rest
    apply readComment_eq
    · rintro rfl heq
      cases heq
      exact hclose ⟨rfl, rfl⟩
    · rintro rfl heq
      cases heq
      exact hopen ⟨rfl, rfl⟩
  rw [hplain, hplain]

section

variable {before cs after : List Char} {c : Char}

/-- No construct goes on behind a text that begins with such a character. -/
def Neutral (after : List Char) : Prop :=
  ∀ d ∈ after.head?, d ≠ '/' ∧ d ≠ '*' ∧ d ≠ '#' ∧ d ≠ '"'

theorem isPrefixOf_hashes_append (h : ∀ d ∈ after.head?, d ≠ '#') (hashes : Nat) :
  (List.replicate hashes '#').isPrefixOf (cs ++ after)
    = (List.replicate hashes '#').isPrefixOf cs
  := by
  induction hashes generalizing cs with
  | zero => rfl
  | succ hashes ih =>
    rw [List.replicate_succ]
    cases cs with
    | nil =>
      cases after with
      | nil => rfl
      | cons d after =>
        have hd : ('#' == d) = false := by simpa using Ne.symm (h d rfl)
        rw [List.nil_append, List.isPrefixOf_cons_cons, hd]
        rfl
    | cons d cs => rw [List.cons_append, List.isPrefixOf_cons_cons, List.isPrefixOf_cons_cons, ih]

/-- The number of hashes at the start of a text does not change, and neither does whether a quote
is behind them. -/
theorem hashes_append (h : ∀ d ∈ after.head?, d ≠ '#' ∧ d ≠ '"') :
  ((cs ++ after).takeWhile (· == '#')).length = (cs.takeWhile (· == '#')).length
  ∧ (((cs ++ after).drop (cs.takeWhile (· == '#')).length).head? == some '"')
    = ((cs.drop (cs.takeWhile (· == '#')).length).head? == some '"')
  := by
  induction cs with
  | nil =>
    cases after with
    | nil => exact ⟨rfl, rfl⟩
    | cons d after =>
      obtain ⟨hhash, hquote⟩ := h d rfl
      simp [hhash, hquote]
  | cons d cs ih =>
    by_cases hd : d = '#'
    · subst hd
      simpa using ih
    · simp [hd]

theorem readCode_append (h : Neutral after) (happ : c ≠ '\'') :
  readCode before c (cs ++ after) = readCode before c cs
  := by
  by_cases hquote : c = '"'
  · subst hquote
    rfl
  by_cases hraw : c = 'r'
  · subst hraw
    obtain ⟨hlength, hhead⟩ := @hashes_append cs after fun d hd => (h d hd).2.2
    simp only [readCode, hlength, hhead]
  by_cases hslash : c = '/'
  · subst hslash
    cases cs with
    | nil =>
      have hnone : ∀ rest : List Char, Neutral rest → readCode before '/' rest = ⟨true, [], .code⟩ := by
        intro rest hrest
        apply readCode_eq_code (by decide) (by decide)
        · intro _ d hd
          exact ⟨(hrest d hd).1, (hrest d hd).2.1⟩
        · intro heq
          contradiction
      rw [List.nil_append, hnone after h, hnone [] (fun d hd => by contradiction)]
    | cons d cs =>
      rw [List.cons_append]
      apply readCode_slash
  · have hplain : ∀ rest, readCode before c rest = ⟨true, [], .code⟩ := by
      intro rest
      apply readCode_eq_code hquote happ
      · intro heq
        contradiction
      · intro heq
        contradiction
    rw [hplain, hplain]

theorem readComment_append (h : Neutral after) (depth : Nat) :
  readComment depth c (cs ++ after) = readComment depth c cs
  := by
  cases cs with
  | nil =>
    rw [List.nil_append, readComment_eq, readComment_eq]
    · rintro - heq
      contradiction
    · rintro - heq
      contradiction
    · rintro - heq
      exact (h _ heq).1 rfl
    · rintro - heq
      exact (h _ heq).2.1 rfl
  | cons d cs =>
    rw [List.cons_append]
    apply readComment_cons

theorem readLiteral_append (hcs : c = '\\' → cs ≠ []) :
  readLiteral c (cs ++ after) = readLiteral c cs
  := by
  by_cases hquote : c = '"'
  · subst hquote
    rfl
  by_cases hbackslash : c = '\\'
  · subst hbackslash
    cases cs with
    | nil => exact absurd rfl (hcs rfl)
    | cons d cs => rfl
  · rw [readLiteral_eq hquote hbackslash, readLiteral_eq hquote hbackslash]

/-- A reading does not look behind a text if no construct goes on there. But a backslash in a
literal takes the next character with it, and an apostrophe looks for another one. -/
theorem Region.read_append {region : Region} (h : Neutral after)
    (hliteral : region = .literal → c = '\\' → cs ≠ []) (happ : region = .code → c ≠ '\'') :
  region.read before c (cs ++ after) = region.read before c cs
  := by
  cases region with
  | code => exact readCode_append h (happ rfl)
  | lineComment => rfl
  | blockComment depth => exact readComment_append h depth
  | literal => exact readLiteral_append (hliteral rfl)
  | rawLiteral hashes =>
    have hhash : ∀ d ∈ after.head?, d ≠ '#' := fun d hd => (h d hd).2.2.1
    simp only [Region.read, readRaw, isPrefixOf_hashes_append hhash]

end

theorem readCode_apostrophe (before rest : List Char) :
  readCode before '\'' rest
    = match charLiteralLength? rest with
      | some n => ⟨true, List.replicate n false ++ [true], .code⟩
      | none => ⟨true, [], .code⟩
  := rfl

/-! ### Masked characters -/

/-- A character is masked by itself or by a space, and the others after it. -/
theorem exists_maskPass_cons (region : Region) (pending : List Bool) (before : List Char)
    (c : Char) (rest : List Char) :
  ∃ region' pending' x, (x = c ∨ x = ' ') ∧
    maskPass region pending before (c :: rest) = x :: maskPass region' pending' (c :: before) rest
  := by
  have hshown : ∀ kept : Bool, (if kept = true then c else ' ') = c
      ∨ (if kept = true then c else ' ') = ' ' := by
    intro kept
    cases kept with
    | false => exact .inr rfl
    | true => exact .inl rfl
  by_cases hc : c = '\n'
  · subst hc
    exact ⟨_, _, '\n', .inl rfl, maskPass_newline region pending before rest⟩
  · cases pending with
    | nil => exact ⟨_, _, _, hshown _, maskPass_cons region before hc rest⟩
    | cons kept pending => exact ⟨_, _, _, hshown _, maskPass_pending region kept pending before hc rest⟩

/-- A masked character is the character or a space. -/
theorem exists_of_maskPass_eq {region : Region} {pending : List Bool} {before cs m m' : List Char}
    {d : Char} (h : maskPass region pending before cs = m ++ d :: m') (hd : d ≠ ' ') :
  ∃ a b, cs = a ++ d :: b ∧ a.length = m.length
  := by
  induction cs generalizing region pending before m with
  | nil => simp [maskPass] at h
  | cons c rest ih =>
    obtain ⟨region', pending', x, hx, heq⟩ := exists_maskPass_cons region pending before c rest
    rw [heq] at h
    cases m with
    | nil =>
      injection h with hxd _
      obtain rfl | rfl := hx
      · exact ⟨[], rest, by rw [hxd]; rfl, rfl⟩
      · exact absurd hxd.symm hd
    | cons y m =>
      injection h with _ h
      obtain ⟨a, b, rfl, ha⟩ := ih h
      exact ⟨c :: a, b, rfl, by rw [List.length_cons, List.length_cons, ha]⟩

/-- Each character of a text is masked by itself or by a space. -/
theorem forall₂_maskPass (region : Region) (pending : List Bool) (before cs : List Char) :
  List.Forall₂ (fun c x => x = c ∨ x = ' ') cs (maskPass region pending before cs)
  := by
  induction cs generalizing region pending before with
  | nil => exact .nil
  | cons c rest ih =>
    obtain ⟨region', pending', x, hx, heq⟩ := exists_maskPass_cons region pending before c rest
    rw [heq]
    exact .cons hx (ih region' pending' (c :: before))

/-- What is in front of a character that is not one of a word does not matter for what follows. -/
theorem maskPass_append_cons {d : Char} (hd : Text.isWordChar d = false) (region : Region)
    (pending : List Bool) (before earlier cs : List Char) :
  maskPass region pending (before ++ d :: earlier) cs = maskPass region pending before cs
  := by
  induction cs generalizing region pending before with
  | nil => rfl
  | cons c rest ih =>
    by_cases hc : c = '\n'
    · subst hc
      rw [maskPass_newline, maskPass_newline, ← List.cons_append, ih]
    · cases pending with
      | nil =>
        rw [maskPass_cons _ _ hc, maskPass_cons _ _ hc, Region.read_append_cons hd]
        simp only [← List.cons_append, ih]
      | cons kept pending =>
        rw [maskPass_pending _ _ _ _ hc, maskPass_pending _ _ _ _ hc, ← List.cons_append, ih]

/-! ### Blanks around a text -/

theorem restOfLine_append_of_mem {cs : List Char} (h : '\n' ∈ cs) (after : List Char) :
  restOfLine (cs ++ after) = restOfLine cs
  := by
  obtain ⟨a, b, rfl, ha⟩ := List.eq_append_cons_of_mem h
  rw [List.append_assoc, restOfLine_append ha, restOfLine_append ha]
  rfl

theorem restOfLine_eq_self {cs : List Char} (h : '\n' ∉ cs) :
  restOfLine cs = cs
  := by
  rw [← List.append_nil cs, restOfLine_append h]
  rfl

theorem ne_of_isBlank {c d : Char} (hc : isBlank c = true) (hd : isBlank d = false) :
  c ≠ d
  := by
  rintro rfl
  rw [hc] at hd
  contradiction

/-- No character of the text begins a construct or ends one. -/
def Inert (after : List Char) : Prop :=
  ∀ c ∈ after, c ∉ ['/', '*', '#', '"', '\'']

theorem inert_of_allBlank {after : List Char} (h : allBlank after = true) :
  Inert after
  := by
  intro c hc
  have hne : ∀ {d : Char}, isBlank d = false → c ≠ d := ne_of_isBlank (Text.allBlank_iff.1 h c hc)
  simp only [List.mem_cons, List.not_mem_nil, or_false, not_or]
  exact ⟨hne (by decide), hne (by decide), hne (by decide), hne (by decide), hne (by decide)⟩

theorem Inert.neutral {after : List Char} (h : Inert after) :
  Neutral after
  := by
  intro d hd
  have hnot := h d (List.mem_of_head? hd)
  simp only [List.mem_cons, List.not_mem_nil, or_false, not_or] at hnot
  exact ⟨hnot.1, hnot.2.1, hnot.2.2.1, hnot.2.2.2.1⟩

theorem Inert.charLiteralLength?_append {cs after : List Char} (h : Inert after) :
  charLiteralLength? (cs ++ after) = charLiteralLength? cs
  := by
  cases hfull : charLiteralLength? (cs ++ after) with
  | some n =>
    have hquote := getElem?_of_charLiteralLength? hfull
    by_cases hn : n < cs.length
    · rw [charLiteralLength?_of_append hfull hn]
    · rw [List.getElem?_append_right (Nat.le_of_not_lt hn)] at hquote
      have hnot := h _ (List.mem_of_getElem? hquote)
      exact absurd hnot (by decide)
  | none =>
    cases hcs : charLiteralLength? cs with
    | none => rfl
    | some n =>
      rw [Source.charLiteralLength?_append hcs] at hfull
      contradiction

/-- A reading does not look at an inert text behind the text, but that a backslash in a literal
takes one character of it with it. -/
theorem Inert.read_append {region : Region} {before cs after : List Char} {c : Char}
    (h : Inert after) (hliteral : region = .literal → c = '\\' → cs ≠ []) :
  region.read before c (cs ++ after) = region.read before c cs
  := by
  by_cases happ : region = .code ∧ c = '\''
  · obtain ⟨rfl, rfl⟩ := happ
    simp only [Region.read, readCode_apostrophe, h.charLiteralLength?_append]
  · apply Region.read_append h.neutral hliteral
    intro hregion hc
    exact happ ⟨hregion, hc⟩

/-- A text is masked as if an inert text behind it were not there. -/
theorem Inert.exists_maskPass_append {after : List Char} (h : Inert after)
    (region : Region) (pending : List Bool) (before cs : List Char) :
  ∃ m, List.Forall₂ (fun c x => x = c ∨ x = ' ') after m
    ∧ maskPass region pending before (cs ++ after) = maskPass region pending before cs ++ m
  := by
  induction cs generalizing region pending before with
  | nil => exact ⟨_, forall₂_maskPass region pending before after, rfl⟩
  | cons c rest ih =>
    rw [List.cons_append]
    by_cases hc : c = '\n'
    · subst hc
      obtain ⟨m, hm, heq⟩ := ih region.afterLine [] ('\n' :: before)
      exact ⟨m, hm, by rw [maskPass_newline, maskPass_newline, heq]; rfl⟩
    cases pending with
    | cons kept pending =>
      obtain ⟨m, hm, heq⟩ := ih region pending (c :: before)
      refine ⟨m, hm, ?_⟩
      rw [maskPass_pending _ _ _ _ hc, maskPass_pending _ _ _ _ hc, heq]
      rfl
    | nil =>
      by_cases hliteral : region = .literal ∧ c = '\\' ∧ rest = []
      · obtain ⟨rfl, rfl, rfl⟩ := hliteral
        have hbackslash : ∀ line, ∃ pending', readLiteral '\\' line = ⟨false, pending', .literal⟩ := by
          intro line
          cases line with
          | nil => exact ⟨[], rfl⟩
          | cons d line => exact ⟨[false], rfl⟩
        obtain ⟨pending', hread⟩ := hbackslash (restOfLine after)
        refine ⟨_, forall₂_maskPass .literal pending' ('\\' :: before) after, ?_⟩
        rw [List.nil_append, maskPass_cons _ _ hc]
        simp only [Region.read, hread]
        rfl
      · have hread : region.read before c (restOfLine (rest ++ after))
            = region.read before c (restOfLine rest) := by
          by_cases hrest : '\n' ∈ rest
          · rw [restOfLine_append_of_mem hrest]
          · rw [restOfLine_append hrest, restOfLine_eq_self hrest]
            apply Inert.read_append
            · intro d hd
              exact h d ((List.takeWhile_prefix _).subset hd)
            · intro hregion hbackslash hnil
              exact hliteral ⟨hregion, hbackslash, hnil⟩
        obtain ⟨m, hm, heq⟩ := ih (region.read before c (restOfLine rest)).region
          (region.read before c (restOfLine rest)).pending (c :: before)
        refine ⟨m, hm, ?_⟩
        rw [maskPass_cons _ _ hc, maskPass_cons _ _ hc, hread]
        simp only [heq]
        rfl

/-- Blanks behind a text are masked by blanks, and the text is masked as if they were not there. -/
theorem exists_maskPass_append_blank {after : List Char} (h : allBlank after = true)
    (region : Region) (pending : List Bool) (before cs : List Char) :
  ∃ blanks, allBlank blanks = true
    ∧ maskPass region pending before (cs ++ after) = maskPass region pending before cs ++ blanks
  := by
  obtain ⟨m, hm, hmask⟩ := (inert_of_allBlank h).exists_maskPass_append region pending before cs
  refine ⟨m, Text.allBlank_iff.2 ?_, hmask⟩
  intro x hx
  obtain ⟨c, hc, hxc⟩ := exists_of_forall₂_right hm hx
  obtain rfl | rfl := hxc
  · exact Text.allBlank_iff.1 h x hc
  · decide

/-- Blanks in front of a text are kept, and the text is masked as if they were not there. -/
theorem maskPass_blank_append {blanks : List Char} (h : allBlank blanks = true)
    (before after : List Char) :
  maskPass .code [] before (blanks ++ after)
    = blanks ++ maskPass .code [] (blanks.reverse ++ before) after
  := by
  induction blanks generalizing before with
  | nil => rfl
  | cons c rest ih =>
    have hall := Text.allBlank_iff.1 h
    have hrest := ih (Text.allBlank_iff.2 fun d hd => hall d (List.mem_cons_of_mem c hd)) (c :: before)
    have hreverse : (c :: rest).reverse ++ before = rest.reverse ++ c :: before := by simp
    rw [hreverse, List.cons_append, List.cons_append]
    by_cases hc : c = '\n'
    · subst hc
      rw [maskPass_newline]
      congr 1
    · have hblank := hall c List.mem_cons_self
      have hread : ∀ line, readCode before c line = ⟨true, [], .code⟩ := by
        intro line
        apply readCode_eq_code (ne_of_isBlank hblank (by decide)) (ne_of_isBlank hblank (by decide))
        · intro hslash
          exact absurd hslash (ne_of_isBlank hblank (by decide))
        · intro hraw
          exact absurd hraw (ne_of_isBlank hblank (by decide))
      rw [maskPass_cons _ _ hc]
      simp only [Region.read, hread, hrest]
      rfl

theorem mask_blank_append {blanks : List Char} (h : allBlank blanks = true) (cs : List Char) :
  mask (blanks ++ cs) = blanks ++ mask cs
  := by
  rw [mask_eq_maskPass, mask_eq_maskPass, maskPass_blank_append h]
  cases hblanks : blanks.reverse with
  | nil => rfl
  | cons d rest =>
    have hd : d ∈ blanks := by
      rw [← List.mem_reverse, hblanks]
      apply List.mem_cons_self
    have hword := Text.isWordChar_of_isBlank (Text.allBlank_iff.1 h d hd)
    rw [List.append_nil, ← List.nil_append (d :: rest), maskPass_append_cons hword]

/-- Masking a trimmed text is trimming the masked text, but for its ends. -/
theorem strip_mask_strip (cs : List Char) :
  Text.strip (mask (Text.strip cs)) = Text.strip (mask cs)
  := by
  obtain ⟨a, b, ha, hb, heq⟩ := Text.exists_eq_append_strip cs
  obtain ⟨blanks, hblanks, hmask⟩ :=
    exists_maskPass_append_blank hb .code [] [] (Text.strip cs)
  rw [← mask_eq_maskPass, ← mask_eq_maskPass] at hmask
  conv_rhs => rw [heq, mask_blank_append ha, hmask, Text.strip_append_blank ha hblanks]

/-! ### Between braces -/

theorem restOfLine_mono {cs ds : List Char} (h : cs <+: ds) :
  restOfLine cs <+: restOfLine ds
  := by
  obtain ⟨more, rfl⟩ := h
  by_cases hcs : '\n' ∈ cs
  · rw [restOfLine_append_of_mem hcs]
  · rw [restOfLine_append hcs, restOfLine_eq_self hcs]
    apply List.prefix_append

theorem neutral_brace (after : List Char) :
  Neutral ('}' :: after)
  := by
  intro d hd
  cases hd
  decide

/-- How long a character literal is does not depend on what is behind a brace, unless the literal
goes over the brace. -/
theorem charLiteralLength?_append_brace (cs : List Char) {after more : List Char}
    (hmore : after <+: more) :
  (charLiteralLength? (cs ++ '}' :: more) = charLiteralLength? cs
    ∧ charLiteralLength? (cs ++ '}' :: after) = charLiteralLength? cs)
  ∨ ∃ n, charLiteralLength? (cs ++ '}' :: more) = some n ∧ cs.length < n
  := by
  obtain ⟨further, rfl⟩ := hmore
  have hfurther : cs ++ '}' :: (after ++ further) = (cs ++ '}' :: after) ++ further := by simp
  cases hfull : charLiteralLength? (cs ++ '}' :: (after ++ further)) with
  | none =>
    left
    have hafter : charLiteralLength? (cs ++ '}' :: after) = none := by
      rw [Option.eq_none_iff_forall_ne_some]
      intro n hn
      rw [hfurther, charLiteralLength?_append hn] at hfull
      contradiction
    have hcs : charLiteralLength? cs = none := by
      rw [Option.eq_none_iff_forall_ne_some]
      intro n hn
      rw [charLiteralLength?_append hn] at hafter
      contradiction
    exact ⟨hcs.symm, hafter.trans hcs.symm⟩
  | some n =>
    have hquote := getElem?_of_charLiteralLength? hfull
    obtain hlt | rfl | hgt := Nat.lt_trichotomy n cs.length
    · left
      have hcs := charLiteralLength?_of_append hfull hlt
      exact ⟨hcs.symm, (charLiteralLength?_append hcs _).trans hcs.symm⟩
    · simp at hquote
    · exact .inr ⟨n, rfl, hgt⟩

/-- A reading does not look across a brace, or the construct that it begins goes over the brace. -/
theorem Region.read_append_brace (region : Region) (before cs : List Char) (c : Char)
    {after more : List Char} (hmore : after <+: more) :
  (region.read before c (cs ++ '}' :: more) = region.read before c cs
    ∧ region.read before c (cs ++ '}' :: after) = region.read before c cs)
  ∨ (region.read before c (cs ++ '}' :: more)).pending[cs.length]? = some false
  := by
  by_cases hliteral : region = .literal ∧ c = '\\' ∧ cs = []
  · right
    obtain ⟨rfl, rfl, rfl⟩ := hliteral
    rfl
  by_cases happ : region = .code ∧ c = '\''
  · obtain ⟨rfl, rfl⟩ := happ
    simp only [Region.read, readCode_apostrophe]
    obtain ⟨hmore, hafter⟩ | ⟨n, hn, hlt⟩ := charLiteralLength?_append_brace cs hmore
    · left
      rw [hmore, hafter]
      exact ⟨rfl, rfl⟩
    · right
      simp [hn, List.getElem?_append, hlt]
  · left
    have hread : ∀ rest, region.read before c (cs ++ '}' :: rest) = region.read before c cs := by
      intro rest
      apply Region.read_append (neutral_brace rest)
      · intro hregion hbackslash hnil
        exact hliteral ⟨hregion, hbackslash, hnil⟩
      · intro hregion hc
        exact happ ⟨hregion, hc⟩
    exact ⟨hread more, hread after⟩

/-- A character that a construct before it takes with it is masked. -/
theorem getElem?_maskPass_of_pending {pending : List Bool} {cs : List Char}
    (h : pending[cs.length]? = some false) (hcs : '\n' ∉ cs) (region : Region)
    (before after : List Char) {d : Char} (hd : d ≠ '\n') :
  (maskPass region pending before (cs ++ d :: after))[cs.length]? = some ' '
  := by
  induction cs generalizing pending before with
  | nil =>
    cases pending with
    | nil => contradiction
    | cons kept pending =>
      cases h
      rw [List.nil_append, maskPass_pending _ _ _ _ hd]
      rfl
  | cons c cs ih =>
    rw [List.mem_cons, not_or] at hcs
    cases pending with
    | nil => contradiction
    | cons kept pending =>
      rw [List.cons_append, maskPass_pending _ _ _ _ (Ne.symm hcs.1), List.length_cons,
        List.getElem?_cons_succ]
      apply ih h hcs.2

/-- What is read in front of a brace that is kept does not depend on what is behind the brace. -/
theorem Region.read_eq_of_kept_brace {region : Region} {before cs after more m m' : List Char}
    {c : Char} (hmore : after <+: more)
    (h : maskPass (region.read before c (restOfLine (cs ++ '}' :: more))).region
      (region.read before c (restOfLine (cs ++ '}' :: more))).pending (c :: before)
      (cs ++ '}' :: more) = m ++ '}' :: m')
    (hlength : m.length = cs.length) :
  region.read before c (restOfLine (cs ++ '}' :: more)) = region.read before c (restOfLine cs)
    ∧ region.read before c (restOfLine (cs ++ '}' :: after)) = region.read before c (restOfLine cs)
  := by
  by_cases hnewline : '\n' ∈ cs
  · rw [restOfLine_append_of_mem hnewline, restOfLine_append_of_mem hnewline]
    exact ⟨rfl, rfl⟩
  have hline : ∀ rest, restOfLine (cs ++ '}' :: rest) = cs ++ '}' :: restOfLine rest :=
    fun rest => restOfLine_append hnewline ('}' :: rest)
  rw [hline] at h
  rw [hline, hline, restOfLine_eq_self hnewline]
  obtain hread | hpending := region.read_append_brace before cs c (restOfLine_mono hmore)
  · exact hread
  · -- the brace would be masked
    have hmasked := getElem?_maskPass_of_pending hpending hnewline
      (region.read before c (cs ++ '}' :: restOfLine more)).region (c :: before) more
      (show '}' ≠ '\n' by decide)
    rw [h, ← hlength] at hmasked
    simp at hmasked

/-- In front of a brace that is kept a text is masked as it is alone, and as it is with less
behind the brace. -/
theorem maskPass_append_brace {region : Region} {pending : List Bool}
    {before cs after more m m' : List Char} (hmore : after <+: more)
    (h : maskPass region pending before (cs ++ '}' :: more) = m ++ '}' :: m')
    (hlength : m.length = cs.length) :
  maskPass region pending before cs = m
  ∧ ∃ m'', maskPass region pending before (cs ++ '}' :: after) = m ++ '}' :: m''
  := by
  induction cs generalizing region pending before m with
  | nil =>
    obtain rfl := List.length_eq_zero_iff.1 hlength
    refine ⟨rfl, ?_⟩
    have hkept : ∀ line line', region.read before '}' line = region.read before '}' line' := by
      intro line line'
      cases region <;> rfl
    rw [List.nil_append] at h ⊢
    cases pending with
    | nil =>
      rw [maskPass_cons _ _ (by decide)] at h ⊢
      injection h with hbrace _
      rw [hkept _ (restOfLine more)]
      exact ⟨_, congrArg (· :: _) hbrace⟩
    | cons kept pending =>
      rw [maskPass_pending _ _ _ _ (by decide)] at h ⊢
      injection h with hbrace _
      exact ⟨_, congrArg (· :: _) hbrace⟩
  | cons c cs ih =>
    cases m with
    | nil => contradiction
    | cons x m =>
      rw [List.length_cons, List.length_cons, Nat.add_right_cancel_iff] at hlength
      rw [List.cons_append] at h ⊢
      by_cases hc : c = '\n'
      · subst hc
        rw [maskPass_newline] at h ⊢
        injection h with hx h
        obtain ⟨hcs, m'', hafter⟩ := ih h hlength
        rw [maskPass_newline, hcs, hafter, hx]
        exact ⟨rfl, m'', rfl⟩
      cases pending with
      | cons kept pending =>
        rw [maskPass_pending _ _ _ _ hc] at h ⊢
        injection h with hx h
        obtain ⟨hcs, m'', hafter⟩ := ih h hlength
        rw [maskPass_pending _ _ _ _ hc, hcs, hafter, hx]
        exact ⟨rfl, m'', rfl⟩
      | nil =>
        rw [maskPass_cons _ _ hc] at h ⊢
        injection h with hx h
        have hread := region.read_eq_of_kept_brace hmore h hlength
        rw [hread.1] at hx h
        obtain ⟨hcs, m'', hafter⟩ := ih h hlength
        rw [maskPass_cons _ _ hc]
        simp only [hread.2, hcs, hafter, hx]
        exact ⟨trivial, m'', rfl⟩

/-! ### Characters to come -/

/-- The characters to come that are to be kept are quotes, hashes or apostrophes. -/
def Awaited (pending : List Bool) (cs : List Char) : Prop :=
  ∀ k : Nat, pending[k]? = some true → ∃ c, cs[k]? = some c ∧ (c = '"' ∨ c = '#' ∨ c = '\'')

theorem awaited_nil (cs : List Char) :
  Awaited [] cs
  := by
  intro k hk
  simp at hk

theorem awaited_false (cs : List Char) :
  Awaited [false] cs
  := by
  intro k hk
  cases k <;> simp at hk

theorem Awaited.tail {kept : Bool} {pending : List Bool} {c : Char} {cs : List Char}
    (h : Awaited (kept :: pending) (c :: cs)) :
  Awaited pending cs
  := fun k hk => h (k + 1) hk

theorem Awaited.mono {pending : List Bool} {line cs : List Char} (h : Awaited pending line)
    (hline : line <+: cs) :
  Awaited pending cs
  := by
  intro k hk
  obtain ⟨c, hc, hkind⟩ := h k hk
  obtain ⟨more, rfl⟩ := hline
  refine ⟨c, ?_, hkind⟩
  rw [List.getElem?_append_left (List.getElem?_eq_some_iff.1 hc).1, hc]

/-- Hashes, and the quote behind them. -/
theorem awaited_hashes {hashes : Nat} {cs : List Char}
    (h : List.replicate hashes '#' <+: cs) :
  Awaited (List.replicate hashes true) cs
    ∧ ((cs.drop hashes).head? = some '"' → Awaited (List.replicate (hashes + 1) true) cs)
  := by
  have hhash : ∀ k < hashes, cs[k]? = some '#' := by
    obtain ⟨more, rfl⟩ := h
    intro k hk
    rw [List.getElem?_append_left (by simpa using hk), List.getElem?_replicate, if_pos hk]
  constructor
  · intro k hk
    have hlt : k < hashes := by
      simpa using (List.getElem?_eq_some_iff.1 hk).1
    exact ⟨'#', hhash k hlt, .inr (.inl rfl)⟩
  · intro hquote k hk
    have hlt : k < hashes + 1 := by
      simpa using (List.getElem?_eq_some_iff.1 hk).1
    obtain hlt | rfl := Nat.lt_succ_iff_lt_or_eq.1 hlt
    · exact ⟨'#', hhash k hlt, .inr (.inl rfl)⟩
    · rw [List.head?_drop] at hquote
      exact ⟨'"', hquote, .inl rfl⟩

/-- What a reading may decide about the characters to come: nothing; that the second character of a
delimiter or an escape is hidden; that hashes are kept, and maybe the quote behind them; or that a
character literal is hidden up to its quote. -/
inductive Decides (rest : List Char) : List Bool → Prop
  | nothing : Decides rest []
  | second (ne_nil : rest ≠ []) : Decides rest [false]
  | hashes (n : Nat) (hashes : List.replicate n '#' <+: rest) : Decides rest (List.replicate n true)
  | opening (n : Nat) (hashes : List.replicate n '#' <+: rest)
    (quote : (rest.drop n).head? = some '"') : Decides rest (List.replicate (n + 1) true)
  | character (n : Nat) (length : charLiteralLength? rest = some n) :
    Decides rest (List.replicate n false ++ [true])

theorem Region.decides_read (region : Region) (before : List Char) (c : Char) (line : List Char) :
  Decides line (region.read before c line).pending
  := by
  cases region with
  | code =>
    rw [Region.read, readCode.eq_def]
    split
    · exact .nothing
    · exact .second (List.cons_ne_nil _ _)
    next rest =>
      dsimp only
      split
      next hraw =>
        rw [Bool.and_eq_true, beq_iff_eq] at hraw
        apply Decides.opening _ _ hraw.2
        rw [replicate_takeWhile_hash]
        apply List.takeWhile_prefix
      · exact .nothing
    · exact .nothing
    · cases hlength : charLiteralLength? line with
      | none => exact .nothing
      | some n => exact .character n hlength
    · exact .nothing
  | lineComment => exact .nothing
  | blockComment depth =>
    rw [Region.read, readComment.eq_def]
    split
    · exact .second (List.cons_ne_nil _ _)
    · exact .second (List.cons_ne_nil _ _)
    · exact .nothing
  | literal =>
    rw [Region.read, readLiteral.eq_def]
    split
    · exact .second (List.cons_ne_nil _ _)
    · exact .nothing
    · exact .nothing
  | rawLiteral hashes =>
    rw [Region.read, readRaw]
    split
    next hclose => exact .hashes hashes (List.isPrefixOf_iff_prefix.1 hclose.2)
    · exact .nothing

/-- What is decided about characters to come is decided about characters of the line. -/
theorem Decides.length_le {rest : List Char} {pending : List Bool} (h : Decides rest pending) :
  pending.length ≤ rest.length
  := by
  cases h with
  | nothing => exact Nat.zero_le _
  | second hne => exact List.length_pos_of_ne_nil hne
  | hashes n hhashes =>
    have hle := hhashes.length_le
    rw [List.length_replicate] at hle ⊢
    exact hle
  | opening n _ hquote =>
    rw [List.head?_drop] at hquote
    rw [List.length_replicate]
    exact (List.getElem?_eq_some_iff.1 hquote).1
  | character n hlength =>
    rw [List.length_append, List.length_replicate, List.length_singleton]
    exact (List.getElem?_eq_some_iff.1 (getElem?_of_charLiteralLength? hlength)).1

/-- What is kept of the characters to come are quotes, hashes and apostrophes. -/
theorem Decides.awaited {rest : List Char} {pending : List Bool} (h : Decides rest pending) :
  Awaited pending rest
  := by
  cases h with
  | nothing => apply awaited_nil
  | second _ => apply awaited_false
  | hashes n hhashes => exact (awaited_hashes hhashes).1
  | opening n hhashes hquote => exact (awaited_hashes hhashes).2 hquote
  | character n hlength =>
    intro k hk
    have hn : k = n := by
      have hlt := (List.getElem?_eq_some_iff.1 hk).1
      rw [List.length_append, List.length_replicate, List.length_singleton] at hlt
      by_contra hne
      rw [List.getElem?_append_left (by rw [List.length_replicate]; omega),
        List.getElem?_replicate, if_pos (by omega)] at hk
      contradiction
    rw [hn]
    exact ⟨'\'', getElem?_of_charLiteralLength? hlength, .inr (.inr rfl)⟩

/-! ### Behind a brace -/

/-- Behind a brace that is kept program text is read. -/
theorem maskPass_behind_brace {region : Region} {pending : List Bool}
    {before cs after m m' : List Char} (hawaited : Awaited pending (cs ++ '{' :: after))
    (h : maskPass region pending before (cs ++ '{' :: after) = m ++ '{' :: m')
    (hlength : m.length = cs.length) :
  m' = maskPass .code [] ('{' :: (cs.reverse ++ before)) after
  := by
  induction cs generalizing region pending before m with
  | nil =>
    obtain rfl := List.length_eq_zero_iff.1 hlength
    rw [List.nil_append] at h hawaited
    cases pending with
    | nil =>
      rw [maskPass_cons _ _ (by decide)] at h
      injection h with hkept hrest
      cases region with
      | code => exact hrest.symm
      | lineComment => exact absurd (show ' ' = '{' from hkept) (by decide)
      | blockComment depth => exact absurd (show ' ' = '{' from hkept) (by decide)
      | literal => exact absurd (show ' ' = '{' from hkept) (by decide)
      | rawLiteral hashes =>
        rw [Region.read, readRaw, if_neg (by simp)] at hkept
        contradiction
    | cons kept pending =>
      rw [maskPass_pending _ _ _ _ (by decide)] at h
      injection h with hkept _
      cases kept with
      | false => contradiction
      | true =>
        obtain ⟨c, hc, hkind⟩ := hawaited 0 rfl
        cases hc
        simp at hkind
  | cons c cs ih =>
    cases m with
    | nil => contradiction
    | cons x m =>
      rw [List.length_cons, List.length_cons, Nat.add_right_cancel_iff] at hlength
      rw [List.cons_append] at h hawaited
      have hreverse : (c :: cs).reverse ++ before = cs.reverse ++ c :: before := by simp
      rw [hreverse]
      by_cases hc : c = '\n'
      · subst hc
        rw [maskPass_newline] at h
        injection h with _ h
        apply ih (awaited_nil _) h hlength
      cases pending with
      | cons kept pending =>
        rw [maskPass_pending _ _ _ _ hc] at h
        injection h with _ h
        apply ih hawaited.tail h hlength
      | nil =>
        rw [maskPass_cons _ _ hc] at h
        injection h with _ h
        apply ih _ h hlength
        apply (region.decides_read before c _).awaited.mono (List.takeWhile_prefix _)

/-- Between a brace that is kept and another one a text is masked as it is alone, and so it is with
less behind the second brace. -/
theorem mask_eq_of_between {region : Region} {head inner tail head' inner' tail' : List Char}
    (h : maskPass region [] [] (head ++ '{' :: (inner ++ '}' :: tail))
      = head' ++ '{' :: (inner' ++ '}' :: tail'))
    (hhead : head'.length = head.length) (hinner : inner'.length = inner.length) :
  mask inner = inner'
    ∧ ∀ rest, rest <+: tail → ∃ rest', mask (inner ++ '}' :: rest) = inner' ++ '}' :: rest'
  := by
  have hbrace : Text.isWordChar '{' = false := by decide +kernel
  have hbehind := maskPass_behind_brace (awaited_nil _) h hhead
  rw [← List.nil_append ('{' :: _), maskPass_append_cons hbrace] at hbehind
  rw [mask_eq_maskPass]
  constructor
  · exact (maskPass_append_brace (List.prefix_refl tail) hbehind.symm hinner).1
  · intro rest hrest
    rw [mask_eq_maskPass]
    exact (maskPass_append_brace hrest hbehind.symm hinner).2

end AnchorIndex.Source

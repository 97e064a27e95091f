import AnchorIndex.Proofs.Source.Comments
import AnchorIndex.Proofs.Source.Splitting

/-!
# The contents of text literals

A list is split without a look into its literals, as long as each quote in a literal has a backslash
in front of it and no backslash is at its end (`Sealed`). So two lists that differ in the content of
one literal (`Twins`) have items that differ in one place (`Twins.splitCommas`), also if they are
squeezed or trimmed before. Masking makes the content blank, whatever it is (`mask_inQuotes`).
-/

namespace AnchorIndex.Source

open Text (allBlank squeeze strip)

/-- A text literal with what is behind it. -/
def inQuotes (content back : List Char) : List Char :=
  '"' :: (content ++ '"' :: back)

theorem inQuotes_eq_append (content back : List Char) :
  inQuotes content back = inQuotes content [] ++ back
  := by
  simp [inQuotes]

/-! ### Sealed contents -/

/-- Behind a character each quote has a backslash in front of it, and there is none at the end. -/
def SealedBehind (previous : Char) : List Char → Prop
  | [] => previous ≠ '\\'
  | c :: cs => (c = '"' → previous = '\\') ∧ SealedBehind c cs

/-- Whoever looks one character back takes no quote of the content for the end of the literal, and
none behind it for one of the content. -/
def Sealed (content : List Char) : Prop :=
  SealedBehind '"' content

/-- What is written with escapes is sealed if no backslash is at its end. -/
theorem sealed_of_pieces {pieces : List Piece}
    (hlast : (pieces.flatMap Piece.text).getLast? ≠ some '\\') :
  Sealed (pieces.flatMap Piece.text)
  := by
  have hbehind : ∀ previous, (pieces.flatMap Piece.text = [] → previous ≠ '\\') →
      SealedBehind previous (pieces.flatMap Piece.text) := by
    induction pieces with
    | nil => exact fun previous h => h rfl
    | cons piece pieces ih =>
      intro previous _
      rw [List.flatMap_cons, List.getLast?_append] at hlast
      have hrest : (pieces.flatMap Piece.text).getLast? ≠ some '\\' := by
        intro heq
        rw [heq] at hlast
        exact hlast rfl
      cases piece with
      | plain c hquote hbackslash =>
        exact ⟨fun hc => absurd hc hquote, ih hrest c fun _ => hbackslash⟩
      | escaped c =>
        refine ⟨fun hc => absurd hc (by decide), fun _ => rfl, ih hrest c fun hnil => ?_⟩
        rw [hnil] at hlast
        rintro rfl
        exact hlast rfl
  exact hbehind '"' fun _ => by decide

/-- A sealed content lies in its literal, and the literal ends behind it. -/
theorem foldl_feed_sealed {previous : Char} {content : List Char}
    (h : SealedBehind previous content) (depth : Int) :
  (content ++ ['"']).foldl (Nesting.feed false) ⟨depth, true, some previous⟩
      = ⟨depth, false, some '"'⟩
    ∧ Nesting.Quiet (· == ',') false ⟨depth, true, some previous⟩ (content ++ ['"'])
  := by
  induction content generalizing previous with
  | nil =>
    have hprevious : previous ≠ '\\' := h
    simp [Nesting.feed, Nesting.Quiet, Nesting.splitsAt, hprevious]
  | cons c content ih =>
    obtain ⟨hquote, hrest⟩ := h
    have hfeed : Nesting.feed false ⟨depth, true, some previous⟩ c = ⟨depth, true, some c⟩ := by
      by_cases hc : c = '"'
      · rw [hc, hquote hc]
        rfl
      · simp [Nesting.feed, hc]
    rw [List.cons_append, List.foldl_cons, Nesting.Quiet, hfeed]
    exact ⟨(ih hrest).1, rfl, (ih hrest).2⟩

theorem foldl_feed_inQuotes {n : Nesting} (hquoted : n.quoted = false) {content : List Char}
    (h : Sealed content) :
  (inQuotes content []).foldl (Nesting.feed false) n = ⟨n.depth, false, some '"'⟩
    ∧ n.Quiet (· == ',') false (inQuotes content [])
  := by
  have hfeed : n.feed false '"' = ⟨n.depth, true, some '"'⟩ := by simp [Nesting.feed, hquoted]
  obtain ⟨hstate, hquiet⟩ := foldl_feed_sealed h n.depth
  rw [inQuotes, List.foldl_cons, Nesting.Quiet, hfeed]
  exact ⟨hstate, by simp [Nesting.splitsAt], hquiet⟩

/-- Squeezing leaves a content sealed and the rest behind it as it is without the content. -/
theorem exists_squeeze_sealed (content back : List Char) :
  (∀ {previous : Char}, Text.isBlank previous = false → SealedBehind previous content →
      ∃ content', SealedBehind previous content'
        ∧ squeeze (previous :: (content ++ '"' :: back))
          = previous :: (content' ++ squeeze ('"' :: back)))
    ∧ ∀ {previous : Char}, Text.isBlank previous = true → SealedBehind previous content →
      ∃ content', SealedBehind ' ' content'
        ∧ squeeze (content ++ '"' :: back) = content' ++ squeeze ('"' :: back)
  := by
  induction content with
  | nil =>
    refine ⟨fun hprevious h => ⟨[], h, Text.squeeze_cons_solid hprevious (by decide) back⟩, ?_⟩
    exact fun _ _ => ⟨[], (by decide : ' ' ≠ '\\'), rfl⟩
  | cons c content ih =>
    obtain ⟨hsolid, hblank⟩ := ih
    by_cases hc : Text.isBlank c = true
    · constructor
      · rintro previous hprevious ⟨-, hrest⟩
        obtain ⟨content', hsealed, hsqueeze⟩ := hblank hc hrest
        have hshown : allBlank (content ++ '"' :: back) = false := by
          rw [Text.allBlank_append, Bool.and_eq_false_iff]
          exact .inr rfl
        refine ⟨' ' :: content', ⟨fun h => absurd h (by decide), hsealed⟩, ?_⟩
        rw [List.cons_append, Text.squeeze_cons_gap hprevious hc, hshown, hsqueeze]
        rfl
      · rintro previous - ⟨-, hrest⟩
        obtain ⟨content', hsealed, hsqueeze⟩ := hblank hc hrest
        exact ⟨content', hsealed, by rw [List.cons_append, Text.squeeze_cons_blank hc, hsqueeze]⟩
    · have hc : Text.isBlank c = false := by simpa using hc
      constructor
      · rintro previous hprevious ⟨hquote, hrest⟩
        obtain ⟨content', hsealed, hsqueeze⟩ := hsolid hc hrest
        refine ⟨c :: content', ⟨hquote, hsealed⟩, ?_⟩
        rw [List.cons_append, Text.squeeze_cons_solid hprevious hc, hsqueeze]
        rfl
      · rintro previous hprevious ⟨hquote, hrest⟩
        obtain ⟨content', hsealed, hsqueeze⟩ := hsolid hc hrest
        refine ⟨c :: content', ⟨fun h => ?_, hsealed⟩, hsqueeze⟩
        -- in front of a quote there is a backslash, and this is no blank
        rw [hquote h] at hprevious
        exact absurd hprevious (by decide)

/-! ### In front of a literal -/

/-- Behind the text no literal is open. -/
def LiteralsClosed (cs : List Char) : Prop :=
  (cs.foldl (Nesting.feed false) .start).quoted = false

instance (cs : List Char) : Decidable (LiteralsClosed cs) :=
  inferInstanceAs (Decidable (_ = _))

/-- Whether a literal is open does not depend on brackets, nor on the character before a text that
begins outside literals. -/
theorem quoted_foldl_feed {n n' : Nesting} (h : n.quoted = n'.quoted)
    (hprevious : n.quoted = true → n.previous = n'.previous) (cs : List Char) :
  (cs.foldl (Nesting.feed false) n).quoted = (cs.foldl (Nesting.feed false) n').quoted
  := by
  induction cs generalizing n n' with
  | nil => exact h
  | cons c cs ih =>
    rw [List.foldl_cons, List.foldl_cons]
    have hfeed : (n.feed false c).quoted = (n'.feed false c).quoted
        ∧ (n.feed false c).previous = (n'.feed false c).previous := by
      rw [Nesting.feed, Nesting.feed, ← h]
      cases hquoted : n.quoted with
      | true => rw [hprevious hquoted]; exact ⟨rfl, rfl⟩
      | false => by_cases hc : c = '"' <;> simp [hc]
    exact ih hfeed.1 fun _ => hfeed.2

theorem quoted_foldl_feed_of_notMem {cs : List Char} (h : '"' ∉ cs) {n : Nesting}
    (hquoted : n.quoted = false) :
  (cs.foldl (Nesting.feed false) n).quoted = false
  := by
  induction cs generalizing n with
  | nil => exact hquoted
  | cons c cs ih =>
    rw [List.mem_cons, not_or] at h
    apply ih h.2
    rw [Nesting.feed, if_neg (by rw [hquoted]; decide), if_neg (Ne.symm h.1)]

/-- What is in front of the first quote does not matter. -/
theorem literalsClosed_append_iff {front : List Char} (h : '"' ∉ front) (cs : List Char) :
  LiteralsClosed (front ++ cs) ↔ LiteralsClosed cs
  := by
  have hfront := @quoted_foldl_feed_of_notMem front h .start rfl
  rw [LiteralsClosed, LiteralsClosed, List.foldl_append,
    @quoted_foldl_feed _ .start hfront fun hquoted => by rw [hfront] at hquoted; contradiction]

theorem LiteralsClosed.squeeze {cs blanks : List Char} (h : LiteralsClosed cs)
    (hblanks : allBlank blanks = true) :
  LiteralsClosed (squeeze cs ++ blanks)
  := by
  have hstart : Nesting.start.Alike .start := ⟨rfl, rfl, .inl rfl⟩
  obtain ⟨-, -, hquoted⟩ := @foldl_feed_squeeze false .start .start cs rfl rfl
    (fun _ => by simp [Idle, Nesting.start]) (fun _ => hstart)
  rw [LiteralsClosed, List.foldl_append]
  apply quoted_foldl_feed_of_notMem
  · exact fun hmem => absurd (Text.allBlank_iff.1 hblanks _ hmem) (by decide)
  · rw [hquoted]
    exact h

/-- A literal in a list belongs to one item, whatever is in it. -/
theorem exists_piecesFrom_inQuotes {front : List Char} {n : Nesting}
    (hfront : (front.foldl (Nesting.feed false) n).quoted = false) (back : List Char) :
  ∃ ps p q qs, (ps = [] → (p.foldl (Nesting.feed false) n).quoted = false)
    ∧ (ps ≠ [] → LiteralsClosed p)
    ∧ ∀ content, Sealed content →
      piecesFrom (· == ',') false n (front ++ inQuotes content back)
        = ps ++ (p ++ inQuotes content q) :: qs
  := by
  induction front generalizing n with
  | nil =>
    rw [List.foldl_nil] at hfront
    obtain ⟨q, qs, hback⟩ :=
      exists_piecesFrom_eq_cons (· == ',') false ⟨n.depth, false, some '"'⟩ back
    refine ⟨[], [], q, qs, fun _ => hfront, fun h => absurd rfl h, fun content hcontent => ?_⟩
    obtain ⟨hstate, hquiet⟩ := foldl_feed_inQuotes hfront hcontent
    obtain ⟨q', qs', hrest, hpieces⟩ :=
      @piecesFrom_append (· == ',') false n (inQuotes content []) back hquiet
    rw [hstate, hback] at hrest
    obtain ⟨rfl, rfl⟩ := List.cons.inj hrest
    rw [List.nil_append, inQuotes_eq_append content back, hpieces, ← inQuotes_eq_append]
    rfl
  | cons c front ih =>
    obtain ⟨ps, p, q, qs, hfirst, hlater, hpieces⟩ := @ih (n.feed false c) hfront
    by_cases hsplit : n.splitsAt (· == ',') false c = true
    · have hcomma : n.quoted = false ∧ c = ',' := by
        simp only [Nesting.splitsAt, Bool.and_eq_true, Bool.not_eq_true', beq_iff_eq] at hsplit
        exact hsplit.1
      have hfeed : (n.feed false c).quoted = Nesting.start.quoted := by
        rw [Nesting.feed, hcomma.1, hcomma.2]
        rfl
      refine ⟨[] :: ps, p, q, qs, fun h => absurd h (List.cons_ne_nil _ _), fun _ => ?_, ?_⟩
      · by_cases hps : ps = []
        · have hsame := quoted_foldl_feed hfeed.symm
            (fun (h : false = true) => absurd h (by decide)) p
          exact hsame.trans (hfirst hps)
        · exact hlater hps
      · intro content hcontent
        rw [List.cons_append, piecesFrom, hpieces content hcontent, if_pos hsplit]
        rfl
    · cases ps with
      | nil =>
        refine ⟨[], c :: p, q, qs, fun _ => hfirst rfl, fun h => absurd rfl h, ?_⟩
        intro content hcontent
        rw [List.cons_append, piecesFrom, hpieces content hcontent, if_neg hsplit]
        rfl
      | cons p₀ ps =>
        refine ⟨(c :: p₀) :: ps, p, q, qs, fun h => absurd h (List.cons_ne_nil _ _),
          fun _ => hlater (List.cons_ne_nil _ _), ?_⟩
        intro content hcontent
        rw [List.cons_append, piecesFrom, hpieces content hcontent, if_neg hsplit]
        rfl

/-! ### Lists that differ in one place -/

/-- The lists are the same but for one element, and the two are related there. -/
def OneApart {α : Type} (R : α → α → Prop) (xs ys : List α) : Prop :=
  ∃ front x y back, xs = front ++ x :: back ∧ ys = front ++ y :: back ∧ R x y

section

variable {α β : Type} {R : α → α → Prop} {S : β → β → Prop} {xs ys : List α}

theorem OneApart.length_eq (h : OneApart R xs ys) :
  xs.length = ys.length
  := by
  obtain ⟨front, x, y, back, rfl, rfl, -⟩ := h
  simp

theorem OneApart.append (h : OneApart R xs ys) (before behind : List α) :
  OneApart R (before ++ (xs ++ behind)) (before ++ (ys ++ behind))
  := by
  obtain ⟨front, x, y, back, rfl, rfl, hxy⟩ := h
  exact ⟨before ++ front, x, y, back ++ behind, by simp, by simp, hxy⟩

theorem OneApart.map {f : α → β} (hf : ∀ {x y}, R x y → S (f x) (f y)) (h : OneApart R xs ys) :
  OneApart S (xs.map f) (ys.map f)
  := by
  obtain ⟨front, x, y, back, rfl, rfl, hxy⟩ := h
  exact ⟨front.map f, f x, f y, back.map f, by simp, by simp, hf hxy⟩

end

/-! ### Texts that differ in one literal -/

/-- The texts are the same but for the content of one literal. -/
def Twins (u v : List Char) : Prop :=
  ∃ front content content' back, LiteralsClosed front ∧ Sealed content ∧ Sealed content'
    ∧ u = front ++ inQuotes content back ∧ v = front ++ inQuotes content' back

section

variable {u v : List Char}

theorem strip_inQuotes (front content back : List Char) :
  strip (front ++ inQuotes content back)
    = Text.stripLeft front ++ inQuotes content (Text.stripRight back)
  := by
  have hback : Text.stripRight ('"' :: back) = '"' :: Text.stripRight back := by
    rw [Text.stripRight_cons, Text.allBlank, List.all_cons]
    rfl
  have hquote : allBlank ('"' :: back) = false := rfl
  have hsplit : Text.stripLeft front ++ inQuotes content back
      = (Text.stripLeft front ++ '"' :: content) ++ '"' :: back := by
    simp [inQuotes]
  rw [strip, inQuotes, Text.stripLeft_append_cons (by decide), ← inQuotes, hsplit,
    Text.stripRight_append, hquote, if_neg Bool.false_ne_true, hback]
  simp [inQuotes]

theorem Twins.strip (h : Twins u v) :
  Twins (strip u) (strip v)
  := by
  obtain ⟨front, content, content', back, hfront, hcontent, hcontent', rfl, rfl⟩ := h
  refine ⟨_, content, content', _, ?_, hcontent, hcontent', strip_inQuotes front content back,
    strip_inQuotes front content' back⟩
  rw [← List.takeWhile_append_dropWhile (p := Text.isBlank) (l := front)] at hfront
  apply (literalsClosed_append_iff _ _).1 hfront
  exact fun hmem => absurd (List.mem_takeWhile_imp hmem) (by decide)

theorem Twins.squeeze (h : Twins u v) :
  Twins (squeeze u) (squeeze v)
  := by
  obtain ⟨front, content, content', back, hfront, hcontent, hcontent', rfl, rfl⟩ := h
  have hquote : Text.isBlank '"' = false := rfl
  obtain ⟨a, ha, hsqueeze⟩ := Text.exists_squeeze_append hquote front
  obtain ⟨b, -, -, hback⟩ := Text.exists_squeeze_cons hquote back
  obtain ⟨inner, hinner, heq⟩ := (exists_squeeze_sealed content back).1 hquote hcontent
  obtain ⟨inner', hinner', heq'⟩ := (exists_squeeze_sealed content' back).1 hquote hcontent'
  refine ⟨Text.squeeze front ++ a, inner, inner', b ++ Text.squeeze back, hfront.squeeze ha,
    hinner, hinner', ?_, ?_⟩
  · rw [inQuotes, hsqueeze, heq, hback, List.append_assoc]
    rfl
  · rw [inQuotes, hsqueeze, heq', hback, List.append_assoc]
    rfl

/-- Lists of twins have the same items, but for the one with the literal. -/
theorem Twins.splitCommas (h : Twins u v) :
  OneApart Twins (splitCommas false u) (splitCommas false v)
  := by
  obtain ⟨front, content, content', back, hfront, hcontent, hcontent', rfl, rfl⟩ := h
  obtain ⟨ps, p, q, qs, hfirst, hlater, hpieces⟩ := exists_piecesFrom_inQuotes hfront back
  have hp : LiteralsClosed p := by
    by_cases hps : ps = []
    · exact hfirst hps
    · exact hlater hps
  have htwins : Twins (Text.strip (p ++ inQuotes content q))
      (Text.strip (p ++ inQuotes content' q)) :=
    Twins.strip ⟨p, content, content', q, hp, hcontent, hcontent', rfl, rfl⟩
  have hitems : ∀ content, Sealed content →
      Source.splitCommas false (front ++ inQuotes content back)
        = (ps.map Text.strip).filter (!·.isEmpty) ++ Text.strip (p ++ inQuotes content q)
          :: (qs.map Text.strip).filter (!·.isEmpty) := by
    intro content hcontent
    have hshown : (Text.strip (p ++ inQuotes content q)).isEmpty = false := by
      rw [strip_inQuotes, inQuotes]
      simp
    rw [Source.splitCommas, splitTopLevel, hpieces content hcontent]
    simp [hshown]
  exact ⟨_, _, _, _, hitems content hcontent, hitems content' hcontent', htwins⟩

end

/-! ### Masked contents -/

section

variable {before cs line : List Char} {c : Char}

theorem exists_cons_of_append_quote (cs line : List Char) :
  ∃ d r r', cs ++ '"' :: line = d :: r ∧ cs ++ ['"'] = d :: r'
  := by
  cases cs with
  | nil => exact ⟨'"', line, [], rfl, rfl⟩
  | cons d cs => exact ⟨d, _, _, rfl, rfl⟩

/-- The hashes at the start of a text are in front of its first quote. -/
theorem hashes_append_quote (cs line : List Char) :
  ((cs ++ '"' :: line).takeWhile (· == '#')).length
      = ((cs ++ ['"']).takeWhile (· == '#')).length
    ∧ ((cs ++ '"' :: line).drop ((cs ++ ['"']).takeWhile (· == '#')).length).head?
      = ((cs ++ ['"']).drop ((cs ++ ['"']).takeWhile (· == '#')).length).head?
  := by
  induction cs with
  | nil => exact ⟨rfl, rfl⟩
  | cons d cs ih =>
    by_cases hd : d = '#'
    · subst hd
      simpa using ih
    · simp [hd]

/-- A character literal that ends in front of a quote does not depend on what is behind it. -/
theorem charLiteralLength?_append_quote
    (h : ∀ n, charLiteralLength? (cs ++ '"' :: line) = some n → n < cs.length) :
  charLiteralLength? (cs ++ ['"']) = charLiteralLength? (cs ++ '"' :: line)
  := by
  cases hline : charLiteralLength? (cs ++ '"' :: line) with
  | some n =>
    apply charLiteralLength?_append
    apply charLiteralLength?_of_append hline (h n hline)
  | none =>
    rw [Option.eq_none_iff_forall_ne_some]
    intro n hn
    have hmore := charLiteralLength?_append hn line
    rw [List.append_assoc, List.singleton_append, hline] at hmore
    contradiction

theorem readCode_quote
    (hpending : (readCode before c (cs ++ '"' :: line)).pending.length ≤ cs.length) :
  readCode before c (cs ++ ['"']) = readCode before c (cs ++ '"' :: line)
  := by
  by_cases happ : c = '\''
  · subst happ
    rw [readCode_apostrophe] at hpending ⊢
    rw [readCode_apostrophe, charLiteralLength?_append_quote]
    intro n hn
    rw [hn] at hpending
    simpa [Nat.succ_le_iff] using hpending
  by_cases hquote : c = '"'
  · subst hquote
    rfl
  by_cases hraw : c = 'r'
  · subst hraw
    obtain ⟨hlength, hhead⟩ := hashes_append_quote cs line
    simp only [readCode, hlength, hhead]
  by_cases hslash : c = '/'
  · subst hslash
    obtain ⟨d, r, r', heq, heq'⟩ := exists_cons_of_append_quote cs line
    rw [heq, heq', readCode_slash]
  have hplain : ∀ rest, readCode before c rest = ⟨true, [], .code⟩ := by
    intro rest
    apply readCode_eq_code hquote happ
    · intro heq
      contradiction
    · intro heq
      contradiction
  rw [hplain, hplain]

/-- A reading in front of a quote does not look behind it, if it leaves the quote to be read. -/
theorem Region.read_quote {region : Region}
    (hpending : (region.read before c (cs ++ '"' :: line)).pending.length ≤ cs.length) :
  region.read before c (cs ++ ['"']) = region.read before c (cs ++ '"' :: line)
  := by
  obtain ⟨d, r, r', heq, heq'⟩ := exists_cons_of_append_quote cs line
  cases region with
  | code => exact readCode_quote hpending
  | lineComment => rfl
  | blockComment depth =>
    rw [heq, heq']
    exact readComment_cons depth c d _ _
  | literal =>
    rw [heq, heq']
    have hliteral : ∀ rest, readLiteral c (d :: rest) = readLiteral c [d] := by
      intro rest
      exact @readLiteral_append [d] rest c fun _ => List.cons_ne_nil _ _
    exact (hliteral r').trans (hliteral r).symm
  | rawLiteral hashes =>
    have hhash : ∀ {rest : List Char}, ∀ e ∈ ('"' :: rest).head?, e ≠ '#' := by
      intro rest e he
      cases he
      decide
    simp only [Region.read, readRaw, isPrefixOf_hashes_append hhash]

end

/-- The content of a literal is masked by blanks. What is masked in front of it and behind it does
not depend on it. -/
theorem mask_inQuotes {front back : List Char} {pieces : List Piece}
    (h : ReadsCode front (inQuotes (pieces.flatMap Piece.text) back)) :
  mask (front ++ inQuotes (pieces.flatMap Piece.text) back)
    = mask (front ++ ['"']) ++ ((pieces.flatMap Piece.text).map blank ++ '"' :: mask back)
  := by
  have hline : ∀ rest, restOfLine ('"' :: rest) = '"' :: restOfLine rest := by
    intro rest
    rw [restOfLine, List.takeWhile_cons_of_pos (by decide)]
    rfl
  obtain ⟨m, heq, heq'⟩ := @exists_maskPass_append_of_read
    (inQuotes (pieces.flatMap Piece.text) back) ['"']
    (fun hpending _ => by
      rw [inQuotes, hline] at hpending ⊢
      exact Region.read_quote hpending) _ _ _ _ h
  have hopens : ∀ before rest : List Char, maskPass .code [] before ('"' :: rest)
      = '"' :: maskPass .literal [] ('"' :: before) rest := by
    intro before rest
    rw [maskPass_cons _ _ (by decide)]
    rfl
  rw [mask_eq_maskPass, heq, mask_eq_maskPass, heq', inQuotes, hopens, hopens, maskPass_literal,
    maskPass_behind (by decide), mask_eq_maskPass back]
  simp [maskPass]

end AnchorIndex.Source

import AnchorIndex.Proofs.Source.Segments
import AnchorIndex.Proofs.Text.Splitting
import Mathlib.Data.List.TakeWhile

/-!
# Masking and the segments of a text

The masked text of segments is that of each segment (`mask_flatMap_text`). Masking goes line by
line, and segments go over the ends of lines. So the lines are put together first: `maskPass`
masks a text in one pass, and `mask_eq_maskPass` says that this is the same. For each segment there
is one lemma on what a pass makes of it, whatever follows it.
-/

namespace AnchorIndex.Source

/-! ### One pass over a text -/

/-- The characters up to the end of the line. -/
def restOfLine (cs : List Char) : List Char :=
  cs.takeWhile (· != '\n')

/-- Masks the rest of a text in one pass. `before` are the characters read so far, the nearest
first. -/
def maskPass (region : Region) (pending : List Bool) (before : List Char) :
    List Char → List Char
  | [] => []
  | c :: rest =>
    if c = '\n' then '\n' :: maskPass region.afterLine [] (c :: before) rest
    else
      let now : Reading :=
        match pending with
        | kept :: more => ⟨kept, more, region⟩
        | [] => region.read before c (restOfLine rest)
      (if now.kept then c else ' ') :: maskPass now.region now.pending (c :: before) rest

theorem isWordChar_newline :
  Text.isWordChar '\n' = false
  := by decide +kernel

/-- Whether a raw literal is opened does not depend on what is in front of a character that is not
one of a word. -/
theorem opensRaw_append_cons {d : Char} (hd : Text.isWordChar d = false)
    (before earlier : List Char) :
  opensRaw (before ++ d :: earlier) = opensRaw before
  := by
  cases before with
  | nil => simp [opensRaw, hd]
  | cons c before =>
    cases before with
    | nil => simp [opensRaw, hd]
    | cons e before => rfl

theorem readCode_append_cons {d : Char} (hd : Text.isWordChar d = false)
    (before earlier : List Char) (c : Char) (rest : List Char) :
  readCode (before ++ d :: earlier) c rest = readCode before c rest
  := by
  simp only [readCode, opensRaw_append_cons hd]

/-- What is in front of a character that is not one of a word does not matter for a reading. -/
theorem Region.read_append_cons {d : Char} (hd : Text.isWordChar d = false) (region : Region)
    (before earlier : List Char) (c : Char) (rest : List Char) :
  region.read (before ++ d :: earlier) c rest = region.read before c rest
  := by
  cases region with
  | code => apply readCode_append_cons hd
  | lineComment => rfl
  | blockComment depth => rfl
  | literal => rfl
  | rawLiteral hashes => rfl

theorem maskFrom_cons_pending (region : Region) (kept : Bool) (pending : List Bool)
    (before : List Char) (c : Char) (rest : List Char) :
  maskFrom region (kept :: pending) before (c :: rest)
    = ((if kept then c else ' ') :: (maskFrom region pending (c :: before) rest).1,
      (maskFrom region pending (c :: before) rest).2)
  :=
  rfl

theorem maskFrom_cons (region : Region) (before : List Char) (c : Char) (rest : List Char) :
  maskFrom region [] before (c :: rest)
    = let now := region.read before c rest
      ((if now.kept then c else ' ') :: (maskFrom now.region now.pending (c :: before) rest).1,
        (maskFrom now.region now.pending (c :: before) rest).2)
  :=
  rfl

/-- What stands before the line does not matter for it. -/
theorem maskFrom_append_newline (region : Region) (pending : List Bool)
    (before earlier line : List Char) :
  maskFrom region pending (before ++ '\n' :: earlier) line = maskFrom region pending before line
  := by
  induction line generalizing region pending before with
  | nil => rfl
  | cons c rest ih =>
    cases pending with
    | nil =>
      rw [maskFrom_cons, maskFrom_cons, Region.read_append_cons isWordChar_newline]
      simp only [← List.cons_append, ih]
    | cons kept pending =>
      rw [maskFrom_cons_pending, maskFrom_cons_pending, ← List.cons_append, ih]

theorem eq_restOfLine_of_lines {cs line : List Char} {more : List (List Char)}
    (h : Text.lines cs = line :: more) :
  line = restOfLine cs
  := by
  induction cs generalizing line more with
  | nil =>
    cases h
    rfl
  | cons c cs ih =>
    cases hcs : Text.lines cs with
    | nil => exact absurd hcs (Text.splitAt_ne_nil _ _)
    | cons line' more' =>
      rw [Text.lines] at h hcs
      rw [Text.splitAt_cons, hcs, Text.consPiece] at h
      by_cases hc : c = '\n'
      · subst hc
        cases h
        rfl
      · rw [if_neg hc] at h
        cases h
        rw [ih hcs, restOfLine, restOfLine, List.takeWhile_cons_of_pos (by simpa using hc)]

theorem unlines_cons_cons (c : Char) (line : List Char) (more : List (List Char)) :
  Text.unlines ((c :: line) :: more) = c :: Text.unlines (line :: more)
  := by
  cases more with
  | nil => simp [Text.unlines, Text.joinWith]
  | cons next more =>
    rw [Text.unlines, Text.unlines, Text.joinWith_cons_cons, Text.joinWith_cons_cons]
    rfl

theorem maskPass_newline (region : Region) (pending : List Bool) (before rest : List Char) :
  maskPass region pending before ('\n' :: rest)
    = '\n' :: maskPass region.afterLine [] ('\n' :: before) rest
  :=
  rfl

theorem maskPass_pending (region : Region) (kept : Bool) (pending : List Bool)
    (before : List Char) {c : Char} (hc : c ≠ '\n') (rest : List Char) :
  maskPass region (kept :: pending) before (c :: rest)
    = (if kept then c else ' ') :: maskPass region pending (c :: before) rest
  := by
  rw [maskPass, if_neg hc]

theorem maskPass_cons (region : Region) (before : List Char) {c : Char} (hc : c ≠ '\n')
    (rest : List Char) :
  maskPass region [] before (c :: rest)
    = let now := region.read before c (restOfLine rest)
      (if now.kept then c else ' ') :: maskPass now.region now.pending (c :: before) rest
  := by
  rw [maskPass, if_neg hc]

/-- The rest of a line and the lines after it are masked in one pass. -/
theorem unlines_maskFrom_maskLinesFrom (region : Region) (pending : List Bool)
    (before : List Char) {cs line : List Char} {more : List (List Char)}
    (h : Text.lines cs = line :: more) :
  Text.unlines ((maskFrom region pending before line).1
      :: maskLinesFrom (maskFrom region pending before line).2 more)
    = maskPass region pending before cs
  := by
  induction cs generalizing region pending before line more with
  | nil =>
    cases h
    rfl
  | cons c cs ih =>
    cases hcs : Text.lines cs with
    | nil => exact absurd hcs (Text.splitAt_ne_nil _ _)
    | cons line' more' =>
      have hline := eq_restOfLine_of_lines hcs
      rw [Text.lines, Text.splitAt_cons] at h
      rw [Text.lines] at hcs
      rw [hcs, Text.consPiece] at h
      by_cases hc : c = '\n'
      · subst hc
        cases h
        rw [maskPass_newline, ← ih region.afterLine [] ('\n' :: before) hcs,
          ← List.nil_append ('\n' :: before), maskFrom_append_newline]
        rfl
      · rw [if_neg hc] at h
        cases h
        cases pending with
        | nil =>
          rw [maskFrom_cons, unlines_cons_cons, maskPass_cons region before hc, ← hline]
          congr 1
          apply ih _ _ _ hcs
        | cons kept pending =>
          rw [maskFrom_cons_pending, maskPass_pending region kept pending before hc,
            ← ih _ _ _ hcs, unlines_cons_cons]

theorem mask_eq_maskPass (text : List Char) :
  mask text = maskPass .code [] [] text
  := by
  cases h : Text.lines text with
  | nil => exact absurd h (Text.splitAt_ne_nil _ _)
  | cons line more =>
    rw [← unlines_maskFrom_maskLinesFrom _ _ _ h, mask, h]
    rfl

theorem notMem_hashes (hashes : Nat) :
  '\n' ∉ List.replicate hashes '#'
  := by
  simp [List.mem_replicate]

/-! ### Program text -/

theorem head?_eq_of_restOfLine {cs rest : List Char} {c : Char} (h : restOfLine cs = c :: rest) :
  cs.head? = some c
  := by
  obtain ⟨more, hmore⟩ : restOfLine cs <+: cs := List.takeWhile_prefix _
  rw [← hmore, h]
  rfl

theorem restOfLine_append {cs : List Char} (h : '\n' ∉ cs) (after : List Char) :
  restOfLine (cs ++ after) = cs ++ restOfLine after
  := by
  apply List.takeWhile_append_of_pos
  intro c hc
  rw [bne_iff_ne]
  rintro rfl
  contradiction

/-- Characters that are to be kept are kept. -/
theorem maskPass_replicate_true (region : Region) (before : List Char) {cs : List Char}
    (h : '\n' ∉ cs) (after : List Char) :
  maskPass region (List.replicate cs.length true) before (cs ++ after)
    = cs ++ maskPass region [] (cs.reverse ++ before) after
  := by
  induction cs generalizing before with
  | nil => rfl
  | cons c cs ih =>
    rw [List.mem_cons, not_or] at h
    rw [List.length_cons, List.replicate_succ, List.cons_append,
      maskPass_pending _ _ _ _ (Ne.symm h.1), ih _ h.2]
    simp

theorem not_endsInWord_iff {cs : List Char} :
  ¬ EndsInWord cs ↔ ∀ c ∈ cs.reverse.head?, ¬ Text.isWordChar c
  := by
  simp [EndsInWord]

theorem opensRaw_cons_iff {c : Char} {before : List Char} :
  opensRaw (c :: before)
    ↔ ¬ Text.isWordChar c ∨ c = 'b' ∧ ∀ d ∈ before.head?, ¬ Text.isWordChar d
  := by
  cases before <;> simp [opensRaw]

theorem opensRaw_of_not_endsInWord {before : List Char} (h : ¬ EndsInWord before) :
  opensRaw before.reverse
  := by
  rw [not_endsInWord_iff] at h
  cases hbefore : before.reverse with
  | nil => rfl
  | cons c start =>
    rw [opensRaw_cons_iff]
    left
    apply h
    rw [hbefore]
    rfl

theorem opensRaw_byte_of_not_endsInWord {before : List Char} (h : ¬ EndsInWord before) :
  opensRaw ('b' :: before.reverse)
  := by
  rw [opensRaw_cons_iff]
  right
  exact ⟨rfl, not_endsInWord_iff.1 h⟩

/-- An `r` that may open a raw literal makes an opening with the hashes after it. -/
theorem endsInOpening_of_opensRaw {before : List Char} (h : opensRaw before.reverse)
    (hashes : Nat) :
  EndsInOpening (before ++ 'r' :: List.replicate hashes '#')
  := by
  by_cases hword : EndsInWord before
  · obtain ⟨c, hc, hcword⟩ := hword
    obtain ⟨start, rfl⟩ := List.getLast?_eq_some_iff.1 hc
    rw [List.reverse_concat, opensRaw_cons_iff] at h
    obtain hnot | ⟨rfl, hstart⟩ := h
    · contradiction
    · exact ⟨start, true, hashes, by simp [rawOpening], not_endsInWord_iff.2 hstart⟩
  · exact ⟨before, false, hashes, rfl, hword⟩

/-- A quote after the text, with any number of hashes in between, is no quote of a raw literal. -/
def NoOpening (before after : List Char) : Prop :=
  ∀ hashes rest, after = List.replicate hashes '#' ++ '"' :: rest →
    ¬ EndsInOpening (before ++ List.replicate hashes '#')

theorem NoOpening.append {before cs after : List Char} (h : NoOpening (before ++ cs) after)
    (hquote : '"' ∉ cs) :
  NoOpening before (cs ++ after)
  := by
  intro hashes rest heq
  obtain ⟨more, hhashes, hafter⟩ | ⟨more, hcs, hrest⟩ := List.append_eq_append_iff.1 heq
  · have hmore : more = List.replicate more.length '#' := by
      apply List.eq_replicate_of_mem
      intro c hc
      apply List.eq_of_mem_replicate
      rw [hhashes]
      apply List.mem_append_right _ hc
    rw [hmore] at hafter
    have hnone := h _ _ hafter
    rw [← hmore, List.append_assoc, ← hhashes] at hnone
    exact hnone
  · cases more with
    | nil =>
      rw [List.append_nil] at hcs
      have hnone := h 0 rest hrest.symm
      rw [hcs] at hnone
      simpa using hnone
    | cons c more =>
      obtain ⟨rfl, -⟩ := List.cons.inj hrest
      simp [hcs] at hquote

theorem noOpening_cons {before after : List Char} {c : Char} (hquote : c ≠ '"')
    (hhash : c ≠ '#') :
  NoOpening before (c :: after)
  := by
  intro hashes rest heq
  cases hashes with
  | zero => simp [hquote] at heq
  | succ hashes => simp [List.replicate_succ, hhash] at heq

theorem pair_prefix_of_head? {c d : Char} {cs : List Char} (h : cs.head? = some d) :
  [c, d] <+: c :: cs
  := by
  obtain ⟨rest, rfl⟩ := List.head?_eq_some_iff.1 h
  exact ⟨rest, rfl⟩

theorem pair_infix_of_head? {c d : Char} {cs after : List Char}
    (h : (cs ++ after).head? = some d) :
  [c, d] <:+: c :: cs ++ after.take 1
  := by
  apply List.IsPrefix.isInfix
  apply pair_prefix_of_head?
  simpa [List.head?_append, List.head?_take] using h

theorem readCode_eq_code {before rest : List Char} {c : Char} (hquote : c ≠ '"')
    (happ : c ≠ '\'') (hslash : c = '/' → ∀ d ∈ rest.head?, d ≠ '/' ∧ d ≠ '*')
    (hraw : c = 'r' → opensRaw before →
      (rest.drop (rest.takeWhile (· == '#')).length).head? ≠ some '"') :
  readCode before c rest = ⟨true, [], .code⟩
  := by
  rw [readCode.eq_def]
  split
  · have := hslash rfl _ rfl
    simp at this
  · have := hslash rfl _ rfl
    simp at this
  · have := hraw rfl
    simp_all
  · contradiction
  · contradiction
  · rfl

theorem replicate_takeWhile_hash (cs : List Char) :
  List.replicate (cs.takeWhile (· == '#')).length '#' = cs.takeWhile (· == '#')
  := by
  symm
  apply List.eq_replicate_of_mem
  intro c hc
  simpa using List.mem_takeWhile_imp hc

/-- If there is a quote behind the hashes at the start of a text, this is how the text goes on. -/
theorem eq_of_quote_behind_hashes {cs : List Char}
    (h : (cs.drop (cs.takeWhile (· == '#')).length).head? = some '"') :
  ∃ hashes rest, cs = List.replicate hashes '#' ++ '"' :: rest
  := by
  obtain ⟨rest, hrest⟩ := List.head?_eq_some_iff.1 h
  use (cs.takeWhile (· == '#')).length, rest
  rw [replicate_takeWhile_hash, ← hrest, List.prefix_iff_eq_append.1 (List.takeWhile_prefix _)]

/-- If there is a quote behind the next hashes of a line, this is how the text goes on. -/
theorem eq_of_drop_hashes {cs : List Char}
    (h : ((restOfLine cs).drop ((restOfLine cs).takeWhile (· == '#')).length).head?
      = some '"') :
  ∃ hashes rest, cs = List.replicate hashes '#' ++ '"' :: rest
  := by
  obtain ⟨hashes, rest, heq⟩ := eq_of_quote_behind_hashes h
  obtain ⟨more, hmore⟩ : restOfLine cs <+: cs := List.takeWhile_prefix _
  use hashes, rest ++ more
  rw [← hmore, heq, List.append_assoc, List.cons_append]

/-- Program text is kept. -/
theorem maskPass_code {cs before after : List Char} (hquote : '"' ∉ cs) (happ : '\'' ∉ cs)
    (hline : ¬ ['/', '/'] <:+: cs ++ after.take 1) (hblock : ¬ ['/', '*'] <:+: cs ++ after.take 1)
    (hopening : NoOpening (before ++ cs) after) :
  maskPass .code [] before.reverse (cs ++ after)
    = cs ++ maskPass .code [] (before ++ cs).reverse after
  := by
  induction cs generalizing before with
  | nil => simp
  | cons c cs ih =>
    rw [List.mem_cons, not_or] at hquote happ
    rw [List.append_cons before c cs] at hopening ⊢
    have hrest : maskPass .code [] (c :: before.reverse) (cs ++ after)
        = cs ++ maskPass .code [] (before ++ [c] ++ cs).reverse after := by
      rw [← List.reverse_concat]
      apply ih hquote.2 happ.2 _ _ hopening
      · intro h
        apply hline (h.trans (List.suffix_cons _ _).isInfix)
      · intro h
        apply hblock (h.trans (List.suffix_cons _ _).isInfix)
    by_cases hc : c = '\n'
    · subst hc
      rw [List.cons_append, maskPass_newline, List.cons_append]
      congr 1
    · have hread : readCode before.reverse c (restOfLine (cs ++ after)) = ⟨true, [], .code⟩ := by
        apply readCode_eq_code (Ne.symm hquote.1) (Ne.symm happ.1)
        · rintro rfl d hd
          obtain ⟨rest, hrest⟩ := List.head?_eq_some_iff.1 hd
          have hnext := head?_eq_of_restOfLine hrest
          constructor
          · rintro rfl
            apply hline (pair_infix_of_head? hnext)
          · rintro rfl
            apply hblock (pair_infix_of_head? hnext)
        · rintro rfl hopens hhead
          obtain ⟨hashes, rest, heq⟩ := eq_of_drop_hashes hhead
          have hnone := hopening.append hquote.2 hashes rest heq
          apply hnone
          rw [← List.append_cons]
          apply endsInOpening_of_opensRaw hopens
      rw [List.cons_append, maskPass_cons _ _ hc]
      simp only [Region.read, hread, hrest]
      rfl

/-! ### Comments -/

/-- A line comment is blank up to the end of its line, where program text begins again. -/
theorem maskPass_lineComment {cs after : List Char} (hcs : '\n' ∉ cs)
    (hafter : ∀ c ∈ after.head?, c = '\n') (before : List Char) :
  maskPass .lineComment [] before (cs ++ after)
    = cs.map blank ++ maskPass .code [] (cs.reverse ++ before) after
  := by
  induction cs generalizing before with
  | nil =>
    cases after with
    | nil => rfl
    | cons c after =>
      obtain rfl := hafter c rfl
      rfl
  | cons c cs ih =>
    rw [List.mem_cons, not_or] at hcs
    have hc := Ne.symm hcs.1
    rw [List.cons_append, maskPass_cons _ _ hc, List.map_cons, blank_eq_space hc,
      List.reverse_cons, List.append_assoc]
    change ' ' :: maskPass .lineComment [] (c :: before) (cs ++ after) = _
    rw [ih hcs.2]
    rfl

theorem maskPass_blockComment_open (depth : Nat) (before after : List Char) :
  maskPass (.blockComment depth) [] before ('/' :: '*' :: after)
    = ' ' :: ' ' :: maskPass (.blockComment (depth + 1)) [] ('*' :: '/' :: before) after
  :=
  rfl

/-- The region behind the end of a block comment in which `depth` others are open. -/
def Region.ofDepth : Nat → Region
  | 0 => .code
  | depth + 1 => .blockComment depth

theorem maskPass_blockComment_close (depth : Nat) (before after : List Char) :
  maskPass (.blockComment depth) [] before ('*' :: '/' :: after)
    = ' ' :: ' ' :: maskPass (.ofDepth depth) [] ('/' :: '*' :: before) after
  := by
  cases depth <;> rfl

theorem readComment_eq {depth : Nat} {c : Char} {rest : List Char}
    (hclose : c = '*' → rest.head? ≠ some '/') (hopen : c = '/' → rest.head? ≠ some '*') :
  readComment depth c rest = ⟨false, [], .blockComment depth⟩
  := by
  rw [readComment.eq_def]
  split
  · exact absurd rfl (hclose rfl)
  · exact absurd rfl (hopen rfl)
  · rfl

/-- A character of a block comment that begins no delimiter is blank. -/
theorem maskPass_blockComment_plain {c : Char} {cs : List Char} (hclose : ¬ ['*', '/'] <+: c :: cs)
    (hopen : ¬ ['/', '*'] <+: c :: cs) (depth : Nat) (before : List Char) :
  maskPass (.blockComment depth) [] before (c :: cs)
    = blank c :: maskPass (.blockComment depth) [] (c :: before) cs
  := by
  by_cases hc : c = '\n'
  · subst hc
    rfl
  · have hnext : ∀ {d}, (restOfLine cs).head? = some d → [c, d] <+: c :: cs := by
      intro d hd
      obtain ⟨more, hmore⟩ := List.head?_eq_some_iff.1 hd
      exact pair_prefix_of_head? (head?_eq_of_restOfLine hmore)
    have hread : readComment depth c (restOfLine cs) = ⟨false, [], .blockComment depth⟩ := by
      apply readComment_eq
      · rintro rfl hd
        apply hclose (hnext hd)
      · rintro rfl hd
        apply hopen (hnext hd)
    rw [maskPass_cons _ _ hc, blank_eq_space hc]
    simp only [Region.read, hread]
    rfl

/-- The body of a comment is blank. -/
theorem maskPass_commentBody {body : CommentBody} (h : body.Fits) (depth : Nat)
    (before after : List Char) :
  maskPass (.blockComment depth) [] before (body.text ++ '*' :: '/' :: after)
    = body.text.map blank
      ++ maskPass (.blockComment depth) [] (body.text.reverse ++ before) ('*' :: '/' :: after)
  := by
  induction body generalizing depth before after with
  | done => rfl
  | plain c rest ih =>
    obtain ⟨hclose, hopen, hrest⟩ := h
    rw [CommentBody.text, List.cons_append, List.map_cons, List.cons_append, List.reverse_cons,
      List.append_assoc, List.singleton_append, ← ih hrest]
    have hnone : ∀ {d e}, ¬ [d, e] <+: c :: rest.text ++ ['*', '/'] →
        ¬ [d, e] <+: c :: (rest.text ++ '*' :: '/' :: after) := by
      intro d e hnot hpair
      apply hnot
      apply List.prefix_of_prefix_length_le hpair
      · exact ⟨after, by simp⟩
      · simp
    rw [maskPass_blockComment_plain (hnone hclose) (hnone hopen)]
  | nested inner rest ihinner ihrest =>
    obtain ⟨hinner, hrest⟩ := h
    have htext : (CommentBody.nested inner rest).text ++ '*' :: '/' :: after
        = '/' :: '*' :: (inner.text ++ '*' :: '/' :: (rest.text ++ '*' :: '/' :: after)) := by
      simp [CommentBody.text]
    rw [htext, maskPass_blockComment_open, ihinner hinner, maskPass_blockComment_close,
      Region.ofDepth, ihrest hrest]
    simp [CommentBody.text, blank]

/-! ### Literals -/

theorem readLiteral_eq {c : Char} (hquote : c ≠ '"') (hbackslash : c ≠ '\\') (rest : List Char) :
  readLiteral c rest = ⟨false, [], .literal⟩
  := by
  rw [readLiteral.eq_def]
  split
  · contradiction
  · contradiction
  · rfl

/-- A piece of a literal is blank. -/
theorem maskPass_piece (piece : Piece) (before after : List Char) :
  maskPass .literal [] before (piece.text ++ after)
    = piece.text.map blank ++ maskPass .literal [] (piece.text.reverse ++ before) after
  := by
  cases piece with
  | plain c hquote hbackslash =>
    by_cases hc : c = '\n'
    · subst hc
      rfl
    · change maskPass .literal [] before (c :: after) = blank c :: _
      rw [maskPass_cons _ _ hc, blank_eq_space hc]
      simp only [Region.read, readLiteral_eq hquote hbackslash]
      rfl
  | escaped c =>
    by_cases hc : c = '\n'
    · -- the line ends behind the backslash, and the literal goes on
      subst hc
      rfl
    · change maskPass .literal [] before ('\\' :: c :: after) = ' ' :: blank c :: _
      have hread : restOfLine (c :: after) = c :: restOfLine after :=
        List.takeWhile_cons_of_pos (by simpa using hc)
      rw [maskPass_cons _ _ (by decide), blank_eq_space hc]
      simp only [Region.read, hread, readLiteral]
      rw [maskPass_pending _ _ _ _ hc]
      rfl

/-- The pieces of a literal are blank, and its quote is kept. -/
theorem maskPass_literal (pieces : List Piece) (before after : List Char) :
  maskPass .literal [] before (pieces.flatMap Piece.text ++ '"' :: after)
    = (pieces.flatMap Piece.text).map blank
      ++ '"' :: maskPass .code [] ('"' :: ((pieces.flatMap Piece.text).reverse ++ before)) after
  := by
  induction pieces generalizing before with
  | nil => rfl
  | cons piece pieces ih =>
    rw [List.flatMap_cons, List.append_assoc, maskPass_piece, ih]
    simp

/-- No quote in the content of a raw literal closes it. -/
theorem not_prefix_restOfLine {hashes : Nat} {content after : List Char}
    (h : ¬ List.replicate hashes '#' <+: content) :
  ¬ List.replicate hashes '#' <+: restOfLine (content ++ '"' :: after)
  := by
  intro hopens
  have hwhole := hopens.trans (List.takeWhile_prefix _)
  by_cases hlt : content.length < hashes
  · -- the closing quote would be one of the hashes
    have hquote : content ++ ['"'] <+: List.replicate hashes '#' := by
      apply List.prefix_of_prefix_length_le _ hwhole
      · simpa using Nat.succ_le_of_lt hlt
      · simp
    have := List.eq_of_mem_replicate (hquote.mem (List.mem_append_right _ List.mem_cons_self))
    contradiction
  · apply h
    apply List.prefix_of_prefix_length_le hwhole (List.prefix_append _ _)
    simpa using hlt

/-- The content of a raw literal is blank, and its closing is kept. -/
theorem maskPass_rawLiteral {hashes : Nat} {content : List Char}
    (h : ¬ '"' :: List.replicate hashes '#' <:+: content) (before after : List Char) :
  maskPass (.rawLiteral hashes) [] before
      (content ++ '"' :: (List.replicate hashes '#' ++ after))
    = content.map blank ++ '"' :: (List.replicate hashes '#'
      ++ maskPass .code [] (List.replicate hashes '#' ++ '"' :: (content.reverse ++ before)) after)
  := by
  induction content generalizing before with
  | nil =>
    have hread : readRaw hashes '"' (restOfLine (List.replicate hashes '#' ++ after))
        = ⟨true, List.replicate hashes true, .code⟩ := by
      rw [readRaw, if_pos]
      rw [restOfLine_append (notMem_hashes hashes)]
      simp
    rw [List.nil_append, maskPass_cons _ _ (by decide)]
    simp only [Region.read, hread]
    have hkeep := maskPass_replicate_true .code ('"' :: before) (notMem_hashes hashes) after
    rw [List.length_replicate, List.reverse_replicate] at hkeep
    rw [hkeep]
    rfl
  | cons c content ih =>
    have hcontent : ¬ '"' :: List.replicate hashes '#' <:+: content := by
      intro hinside
      apply h (hinside.trans (List.suffix_cons _ _).isInfix)
    rw [List.cons_append, List.map_cons, List.cons_append, List.reverse_cons, List.append_assoc,
      List.singleton_append, ← ih hcontent]
    by_cases hc : c = '\n'
    · subst hc
      rfl
    · have hread : readRaw hashes c
          (restOfLine (content ++ '"' :: (List.replicate hashes '#' ++ after)))
          = ⟨false, [], .rawLiteral hashes⟩ := by
        rw [readRaw, if_neg]
        rintro ⟨rfl, hopens⟩
        rw [List.isPrefixOf_iff_prefix] at hopens
        apply not_prefix_restOfLine _ hopens
        intro hhashes
        apply h
        apply List.IsPrefix.isInfix
        rw [List.cons_prefix_cons]
        exact ⟨rfl, hhashes⟩
      rw [maskPass_cons _ _ hc, blank_eq_space hc]
      simp only [Region.read, hread]
      rfl

theorem readCode_opening {before : List Char} (h : opensRaw before) (hashes : Nat)
    (rest : List Char) :
  readCode before 'r' (List.replicate hashes '#' ++ '"' :: rest)
    = ⟨true, List.replicate (hashes + 1) true, .rawLiteral hashes⟩
  := by
  have htake : (List.replicate hashes '#' ++ '"' :: rest).takeWhile (· == '#')
      = List.replicate hashes '#' := by
    rw [List.takeWhile_append_of_pos (by simp), List.takeWhile_cons_of_neg (by decide),
      List.append_nil]
  rw [readCode.eq_def]
  simp [htake, h]

/-- The opening of a raw literal is kept from its `r` on. -/
theorem maskPass_rawOpening_r {before : List Char} (h : opensRaw before) (hashes : Nat)
    (after : List Char) :
  maskPass .code [] before ('r' :: (List.replicate hashes '#' ++ '"' :: after))
    = 'r' :: (List.replicate hashes '#' ++ '"' ::
      maskPass (.rawLiteral hashes) []
        ('"' :: (List.replicate hashes '#' ++ 'r' :: before)) after)
  := by
  have hline : restOfLine (List.replicate hashes '#' ++ '"' :: after)
      = List.replicate hashes '#' ++ '"' :: restOfLine after := by
    rw [restOfLine_append (notMem_hashes hashes)]
    rfl
  rw [maskPass_cons _ _ (by decide)]
  simp only [Region.read, hline, readCode_opening h]
  have hnewline : '\n' ∉ List.replicate hashes '#' ++ ['"'] := by simp [List.mem_replicate]
  simpa using maskPass_replicate_true (.rawLiteral hashes) ('r' :: before) hnewline after

/-- The opening of a raw literal is kept. -/
theorem maskPass_rawOpening {before : List Char} (h : ¬ EndsInWord before) (byte : Bool)
    (hashes : Nat) (after : List Char) :
  maskPass .code [] before.reverse (rawOpening byte hashes ++ '"' :: after)
    = rawOpening byte hashes ++ '"' ::
      maskPass (.rawLiteral hashes) [] ('"' :: (before ++ rawOpening byte hashes).reverse) after
  := by
  cases byte with
  | false =>
    have hopening := maskPass_rawOpening_r (opensRaw_of_not_endsInWord h) hashes after
    simpa [rawOpening] using hopening
  | true =>
    have hopening := maskPass_rawOpening_r (opensRaw_byte_of_not_endsInWord h) hashes after
    have hread : readCode before.reverse 'b'
        (restOfLine ('r' :: (List.replicate hashes '#' ++ '"' :: after))) = ⟨true, [], .code⟩ :=
      rfl
    have hletters : rawOpening true hashes = 'b' :: 'r' :: List.replicate hashes '#' := rfl
    rw [hletters, List.cons_append, List.cons_append, maskPass_cons _ _ (by decide)]
    simp only [Region.read, hread, hopening]
    simp

/-! ### Segments -/

/-- Behind segments that fit there is no quote that belongs to an opening before them. -/
theorem Fitting.noOpening {before : List Char} {segments : List Segment}
    (h : Fitting before segments) :
  NoOpening before (segments.flatMap Segment.text)
  := by
  induction segments generalizing before with
  | nil =>
    intro hashes rest heq
    simp at heq
  | cons segment segments ih =>
    obtain ⟨hfits, hrest⟩ := h
    rw [List.flatMap_cons]
    cases segment with
    | code cs => exact (ih hrest).append hfits.1
    | lineComment cs => exact noOpening_cons (by decide) (by decide)
    | blockComment body => exact noOpening_cons (by decide) (by decide)
    | literal pieces =>
      intro hashes rest heq
      cases hashes with
      | zero =>
        have hnone : ¬ EndsInOpening before := hfits
        simpa using hnone
      | succ hashes => simp [Segment.text, List.replicate_succ] at heq
    | rawLiteral byte hashes content =>
      cases byte with
      | false => exact noOpening_cons (by decide) (by decide)
      | true => exact noOpening_cons (by decide) (by decide)

/-- A segment that fits is masked as it says, whatever follows it. -/
theorem maskPass_segment {segment : Segment} {before after : List Char}
    (h : segment.Fits before after) (hopening : NoOpening (before ++ segment.text) after) :
  maskPass .code [] before.reverse (segment.text ++ after)
    = segment.masked ++ maskPass .code [] (before ++ segment.text).reverse after
  := by
  cases segment with
  | code cs =>
    obtain ⟨hquote, happ, hline, hblock⟩ := h
    exact maskPass_code hquote happ hline hblock hopening
  | lineComment cs =>
    obtain ⟨hcs, hafter⟩ := h
    have hopen : maskPass .code [] before.reverse ('/' :: '/' :: (cs ++ after))
        = ' ' :: ' ' :: maskPass .lineComment [] ('/' :: '/' :: before.reverse) (cs ++ after) := rfl
    rw [Segment.text, List.cons_append, List.cons_append, hopen, maskPass_lineComment hcs hafter]
    simp [Segment.masked, blank]
  | blockComment body =>
    have hopen : ∀ rest, maskPass .code [] before.reverse ('/' :: '*' :: rest)
        = ' ' :: ' ' :: maskPass (.blockComment 0) [] ('*' :: '/' :: before.reverse) rest :=
      fun _ => rfl
    have htext : (Segment.blockComment body).text ++ after
        = '/' :: '*' :: (body.text ++ '*' :: '/' :: after) := by
      simp [Segment.text]
    rw [htext, hopen, maskPass_commentBody h, maskPass_blockComment_close]
    simp [Segment.text, Segment.masked, blank, Region.ofDepth]
  | literal pieces =>
    have hopen : ∀ rest, maskPass .code [] before.reverse ('"' :: rest)
        = '"' :: maskPass .literal [] ('"' :: before.reverse) rest :=
      fun _ => rfl
    have htext : (Segment.literal pieces).text ++ after
        = '"' :: (pieces.flatMap Piece.text ++ '"' :: after) := by
      simp [Segment.text]
    rw [htext, hopen, maskPass_literal]
    simp [Segment.text, Segment.masked]
  | rawLiteral byte hashes content =>
    obtain ⟨hword, hcontent⟩ := h
    have htext : (Segment.rawLiteral byte hashes content).text ++ after
        = rawOpening byte hashes
          ++ '"' :: (content ++ '"' :: (List.replicate hashes '#' ++ after)) := by
      simp [Segment.text]
    rw [htext, maskPass_rawOpening hword, maskPass_rawLiteral hcontent]
    simp [Segment.text, Segment.masked]

theorem Fitting.maskPass_eq {before : List Char} {segments : List Segment}
    (h : Fitting before segments) :
  maskPass .code [] before.reverse (segments.flatMap Segment.text)
    = segments.flatMap Segment.masked
  := by
  induction segments generalizing before with
  | nil => rfl
  | cons segment segments ih =>
    obtain ⟨hfits, hrest⟩ := h
    rw [List.flatMap_cons, List.flatMap_cons, maskPass_segment hfits hrest.noOpening, ih hrest]

/-- The masked text of segments is the masked text of each of them. -/
theorem mask_flatMap_text {segments : List Segment} (h : Fitting [] segments) :
  mask (segments.flatMap Segment.text) = segments.flatMap Segment.masked
  := by
  rw [mask_eq_maskPass]
  exact h.maskPass_eq

/-- Segments of all kinds: behind a word that ends like an opening there is a literal with a quote
behind a backslash and a line that ends behind one, comments hold quotes and other comments, and a
raw literal holds quotes, hashes and a line feed. -/
def mixedSegments : List Segment :=
  [.code "let x = abr".toList,
    .literal [.escaped '"', .plain '/' (by decide) (by decide), .plain '/' (by decide) (by decide),
      .escaped '\n', .plain '#' (by decide) (by decide)],
    .code "; ".toList,
    .lineComment " isn't \"/* \x7b".toList,
    .code "\n".toList,
    .blockComment
      (.plain '/' (.plain '"' (.nested (.plain '\n' (.plain '*' .done)) (.plain '*' .done)))),
    .code "r#f(".toList,
    .rawLiteral true 1 "\" // \n \"\"\\\x7d".toList,
    .literal [.plain '}' (by decide) (by decide)],
    .code ")\n".toList]

theorem mask_mixedSegments :
  Fitting [] mixedSegments
  ∧ mask (mixedSegments.flatMap Segment.text)
    = ("let x = abr\"     \n \";               \n      \n      r#f("
      ++ "br#\"     \n     \"#\" \")\n").toList
  := by
  have hfitting : Fitting [] mixedSegments := by decide +kernel
  refine ⟨hfitting, ?_⟩
  rw [mask_flatMap_text hfitting]
  decide +kernel

end AnchorIndex.Source

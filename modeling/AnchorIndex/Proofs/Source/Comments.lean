import AnchorIndex.Proofs.Source.Fragments
import Mathlib.Data.List.Forall2

/-!
# Comments

A comment stands where program text is read and a slash has another slash or a star behind it
(`IsComment`, `exists_isComment`). Whether program text is read behind a text depends on what
follows this text (`ReadsCode`): an apostrophe at its end, for one, looks for another apostrophe.
A comment can be made blank without a change of the masked text (`mask_blank_comment`), for no
reading in front of it sees more of the comment than blanks.
-/

namespace AnchorIndex.Source

/-! ### What a comment is -/

/-- The text is a comment if `back` follows it: two slashes and the rest of the line, a slash and a
star up to the star and the slash that close them, or all that is left if nothing closes them. -/
inductive IsComment : List Char → List Char → Prop
  | line {cs back : List Char} (inLine : '\n' ∉ cs) (ends : ∀ c ∈ back.head?, c = '\n') :
    IsComment ('/' :: '/' :: cs) back
  | block {body : CommentBody} (fits : body.Fits) (back : List Char) :
    IsComment ('/' :: '*' :: (body.text ++ ['*', '/'])) back
  | unclosed {cs : List Char}
    (h : ∀ (body : CommentBody) rest, body.Fits → cs ≠ body.text ++ '*' :: '/' :: rest) :
    IsComment ('/' :: '*' :: cs) []

/-- What stands behind the start of a block comment closes it, or all of it is blank. -/
theorem exists_body_or_maskPass_eq (cs : List Char) :
  (∃ (body : CommentBody) (rest : List Char), body.Fits ∧ cs = body.text ++ '*' :: '/' :: rest)
    ∨ ∀ depth before, maskPass (.blockComment depth) [] before cs = cs.map blank
  := by
  -- what is behind a comment inside is shorter, but by more than one character
  induction hlength : cs.length using Nat.strong_induction_on generalizing cs with
  | _ n ih =>
    subst hlength
    cases cs with
    | nil => exact .inr fun _ _ => rfl
    | cons c cs =>
      by_cases hclose : ['*', '/'] <+: c :: cs
      · obtain ⟨rest, hrest⟩ := hclose
        exact .inl ⟨.done, rest, trivial, hrest.symm⟩
      by_cases hopen : ['/', '*'] <+: c :: cs
      · obtain ⟨rest, rfl, rfl⟩ : ∃ rest, c = '/' ∧ cs = '*' :: rest := by
          obtain ⟨rest, hrest⟩ := hopen
          cases hrest
          exact ⟨rest, rfl, rfl⟩
        have hshorter : rest.length < ('/' :: '*' :: rest).length := by
          rw [List.length_cons, List.length_cons]
          omega
        obtain ⟨inner, rest, hinner, rfl⟩ | hblank := ih _ hshorter rest rfl
        · rw [List.length_append, List.length_cons, List.length_cons] at hshorter
          obtain ⟨body, rest, hbody, rfl⟩ | hblank := ih rest.length (by omega) rest rfl
          · exact .inl ⟨.nested inner body, rest, ⟨hinner, hbody⟩, by simp [CommentBody.text]⟩
          · right
            intro depth before
            rw [maskPass_blockComment_open, maskPass_commentBody hinner,
              maskPass_blockComment_close, Region.ofDepth, hblank]
            simp [blank]
        · right
          intro depth before
          rw [maskPass_blockComment_open, hblank]
          rfl
      · obtain ⟨body, rest, hbody, rfl⟩ | hblank := ih _ (by simp) cs rfl
        · have hstarts : c :: body.text ++ ['*', '/']
              <+: c :: (body.text ++ '*' :: '/' :: rest) := ⟨rest, by simp⟩
          exact .inl ⟨.plain c body, rest,
            ⟨fun h => hclose (h.trans hstarts), fun h => hopen (h.trans hstarts), hbody⟩, rfl⟩
        · right
          intro depth before
          rw [maskPass_blockComment_plain hclose hopen, hblank]
          rfl

/-- Where a slash has a slash or a star behind it, there is a comment. -/
theorem exists_isComment {x : Char} (hx : x = '/' ∨ x = '*') (rest : List Char) :
  ∃ comment back, '/' :: x :: rest = comment ++ back ∧ IsComment comment back
  := by
  obtain rfl | rfl := hx
  · refine ⟨'/' :: '/' :: restOfLine rest, rest.dropWhile (· != '\n'), ?_, .line ?_ ?_⟩
    · rw [List.cons_append, List.cons_append, restOfLine, List.takeWhile_append_dropWhile]
    · intro hmem
      exact absurd (List.mem_takeWhile_imp hmem) (by simp)
    · intro c hc
      have hnot := List.head?_dropWhile_not (· != '\n') rest
      rw [Option.mem_def.1 hc] at hnot
      simpa using hnot
  · by_cases hbody : ∃ (body : CommentBody) (back : List Char),
        body.Fits ∧ rest = body.text ++ '*' :: '/' :: back
    · obtain ⟨body, back, hfits, rfl⟩ := hbody
      exact ⟨_, back, by simp, .block hfits back⟩
    · refine ⟨_, [], (List.append_nil _).symm, .unclosed ?_⟩
      intro body back hfits heq
      exact hbody ⟨body, back, hfits, heq⟩

/-- What stands before the end of a line does not matter behind it. -/
theorem maskPass_of_lineEnd {back : List Char} (h : ∀ c ∈ back.head?, c = '\n')
    (before : List Char) :
  maskPass .code [] before back = maskPass .code [] [] back
  := by
  cases back with
  | nil => rfl
  | cons c back =>
    obtain rfl := h c rfl
    rw [maskPass_newline, maskPass_newline, ← List.nil_append ('\n' :: before),
      ← List.nil_append ['\n'], maskPass_append_cons isWordChar_newline,
      maskPass_append_cons isWordChar_newline]

/-- Behind a character that is not one of a word program text is read as at the start of a text. -/
theorem maskPass_behind {d : Char} (hd : Text.isWordChar d = false) (before cs : List Char) :
  maskPass .code [] (d :: before) cs = maskPass .code [] [] cs
  := maskPass_append_cons hd .code [] [] before cs

/-- A comment is blank, and program text begins anew behind it. -/
theorem IsComment.maskPass_eq {comment back : List Char} (h : IsComment comment back)
    (before : List Char) :
  maskPass .code [] before (comment ++ back) = comment.map blank ++ maskPass .code [] [] back
  := by
  cases h with
  | @line cs _ hcs hback =>
    have hopen : maskPass .code [] before ('/' :: '/' :: (cs ++ back))
        = ' ' :: ' ' :: maskPass .lineComment [] ('/' :: '/' :: before) (cs ++ back) := rfl
    rw [List.cons_append, List.cons_append, hopen, maskPass_lineComment hcs hback,
      maskPass_of_lineEnd hback]
    rfl
  | @block body hfits _ =>
    have hopen : ∀ rest, maskPass .code [] before ('/' :: '*' :: rest)
        = ' ' :: ' ' :: maskPass (.blockComment 0) [] ('*' :: '/' :: before) rest :=
      fun _ => rfl
    have hslash : Text.isWordChar '/' = false := by decide +kernel
    have htext : '/' :: '*' :: (body.text ++ ['*', '/']) ++ back
        = '/' :: '*' :: (body.text ++ '*' :: '/' :: back) := by simp
    rw [htext, hopen, maskPass_commentBody hfits, maskPass_blockComment_close, Region.ofDepth,
      maskPass_behind hslash]
    simp [blank]
  | @unclosed cs hcs =>
    have hopen : maskPass .code [] before ('/' :: '*' :: cs)
        = ' ' :: ' ' :: maskPass (.blockComment 0) [] ('*' :: '/' :: before) cs := rfl
    obtain ⟨body, rest, hbody, heq⟩ | hblank := exists_body_or_maskPass_eq cs
    · exact absurd heq (hcs body rest hbody)
    · rw [List.append_nil, hopen, hblank]
      simp [blank, maskPass]

theorem isBlank_blank (c : Char) :
  Text.isBlank (blank c) = true
  := by
  rw [blank]
  split
  · rfl
  · rfl

theorem allBlank_map_blank (cs : List Char) :
  Text.allBlank (cs.map blank) = true
  := by
  rw [Text.allBlank_iff]
  intro c hc
  obtain ⟨d, -, rfl⟩ := List.mem_map.1 hc
  apply isBlank_blank

/-- Behind blanks program text is read as at the start of a text. -/
theorem maskPass_map_blank {comment : List Char} (h : comment ≠ []) (before back : List Char) :
  maskPass .code [] before (comment.map blank ++ back)
    = comment.map blank ++ maskPass .code [] [] back
  := by
  obtain ⟨start, c, rfl⟩ := (List.eq_nil_or_concat' comment).resolve_left h
  have hword := Text.isWordChar_of_isBlank (isBlank_blank c)
  have hbehind := maskPass_behind hword ((start.map blank).reverse ++ before) back
  rw [maskPass_blank_append (allBlank_map_blank _), ← hbehind]
  simp

/-! ### Where program text is read -/

/-- The region behind the text `cs`, and what is decided there about the characters to come, if
`rest` follows it. -/
def stateAfter (region : Region) (pending : List Bool) (before : List Char) :
    List Char → List Char → Region × List Bool
  | [], _ => (region, pending)
  | c :: cs, rest =>
    if c = '\n' then stateAfter region.afterLine [] (c :: before) cs rest
    else
      let now : Reading :=
        match pending with
        | kept :: more => ⟨kept, more, region⟩
        | [] => region.read before c (restOfLine (cs ++ rest))
      stateAfter now.region now.pending (c :: before) cs rest

theorem stateAfter_newline (region : Region) (pending : List Bool) (before cs rest : List Char) :
  stateAfter region pending before ('\n' :: cs) rest
    = stateAfter region.afterLine [] ('\n' :: before) cs rest
  := rfl

theorem stateAfter_pending (region : Region) (kept : Bool) (pending : List Bool)
    (before : List Char) {c : Char} (hc : c ≠ '\n') (cs rest : List Char) :
  stateAfter region (kept :: pending) before (c :: cs) rest
    = stateAfter region pending (c :: before) cs rest
  := if_neg hc

theorem stateAfter_cons (region : Region) (before : List Char) {c : Char} (hc : c ≠ '\n')
    (cs rest : List Char) :
  stateAfter region [] before (c :: cs) rest
    = let now := region.read before c (restOfLine (cs ++ rest))
      stateAfter now.region now.pending (c :: before) cs rest
  := if_neg hc

/-- Behind the text, if `rest` follows it, program text is read. -/
def ReadsCode (cs rest : List Char) : Prop :=
  stateAfter .code [] [] cs rest = (.code, [])

instance (cs rest : List Char) : Decidable (ReadsCode cs rest) :=
  inferInstanceAs (Decidable (_ = _))

/-- A character that is decided about before the text is still decided about behind it, unless the
text is long enough. -/
theorem length_le_of_stateAfter {region : Region} {pending : List Bool}
    {before cs rest : List Char} (hcs : '\n' ∉ cs)
    (h : (stateAfter region pending before cs rest).2 = []) :
  pending.length ≤ cs.length
  := by
  induction cs generalizing region pending before with
  | nil =>
    have hnil : pending = [] := h
    rw [hnil]
    apply Nat.le_refl
  | cons c cs ih =>
    rw [List.mem_cons, not_or] at hcs
    cases pending with
    | nil => apply Nat.zero_le
    | cons kept pending =>
      rw [stateAfter_pending _ _ _ _ (Ne.symm hcs.1)] at h
      apply Nat.succ_le_succ (ih hcs.2 h)

/-! ### Blanks instead of a comment -/

/-- Some characters are blanked. -/
def Fades (cs cs' : List Char) : Prop :=
  List.Forall₂ (fun c d => d = c ∨ d = blank c) cs cs'

theorem fades_refl (cs : List Char) :
  Fades cs cs
  := List.forall₂_same.2 fun _ _ => .inl rfl

theorem fades_map_blank (cs back : List Char) :
  Fades (cs ++ back) (cs.map blank ++ back)
  := by
  apply List.rel_append (R := fun c d => d = c ∨ d = blank c) _ (fades_refl back)
  rw [List.forall₂_map_right_iff]
  exact List.forall₂_same.2 fun _ _ => .inr rfl

theorem blank_eq_newline_iff {c : Char} :
  blank c = '\n' ↔ c = '\n'
  := by
  rw [blank]
  split
  next h => simp [h]
  next h => simp [h]

theorem blank_ne_apostrophe (c : Char) :
  blank c ≠ '\''
  := ne_of_isBlank (isBlank_blank c) (by decide)

/-- Line feeds stay where they are. -/
theorem Fades.restOfLine {cs cs' : List Char} (h : Fades cs cs') :
  Fades (restOfLine cs) (restOfLine cs')
  := by
  induction h with
  | nil => exact .nil
  | @cons c d cs cs' hcd _ ih =>
    have hline : d = '\n' ↔ c = '\n' := by
      obtain rfl | rfl := hcd
      · exact Iff.rfl
      · exact blank_eq_newline_iff
    by_cases hc : c = '\n'
    · rw [Source.restOfLine, Source.restOfLine, List.takeWhile_cons_of_neg (by simpa using hc),
        List.takeWhile_cons_of_neg (by simpa using hline.2 hc)]
      exact .nil
    · rw [Source.restOfLine, Source.restOfLine, List.takeWhile_cons_of_pos (by simpa using hc),
        List.takeWhile_cons_of_pos (by simpa using fun hd => hc (hline.1 hd))]
      exact .cons hcd ih

/-- The first apostrophe stays where it is, or another one takes its place farther on. -/
theorem Fades.length_takeWhile_le {cs cs' : List Char} (h : Fades cs cs') :
  (cs.takeWhile (· != '\'')).length ≤ (cs'.takeWhile (· != '\'')).length
  := by
  induction h with
  | nil => apply Nat.le_refl
  | @cons c d cs cs' hcd _ ih =>
    by_cases hc : c = '\''
    · rw [List.takeWhile_cons_of_neg (by simpa using hc)]
      apply Nat.zero_le
    · have hd : d ≠ '\'' := by
        obtain rfl | rfl := hcd
        · exact hc
        · apply blank_ne_apostrophe
      rw [List.takeWhile_cons_of_pos (by simpa using hc),
        List.takeWhile_cons_of_pos (by simpa using hd)]
      apply Nat.succ_le_succ ih

/-- If an escape is closed where characters are blanked, it is closed where they are not. -/
theorem Fades.exists_escapedLength {cs cs' : List Char} (h : Fades cs cs') {d d' : Char} {n : Nat}
    (hn : charLiteralLength? ('\\' :: d' :: cs') = some n) :
  ∃ k, charLiteralLength? ('\\' :: d :: cs) = some k
  := by
  have hinner := h.length_takeWhile_le
  have hlength := List.Forall₂.length_eq h
  rw [charLiteralLength?] at hn ⊢
  split at hn
  next hclosed =>
    rw [Bool.and_eq_true, decide_eq_true_eq, decide_eq_true_eq] at hclosed
    rw [if_pos]
    · exact ⟨_, rfl⟩
    · rw [Bool.and_eq_true, decide_eq_true_eq, decide_eq_true_eq]
      omega
  next => contradiction

section

variable {x : Char} {more more' : List Char} (hx : x ≠ '\n') (hmore : Fades more more')

include hx hmore

theorem fades_slash (cs : List Char) :
  Fades (cs ++ '/' :: x :: more) (cs ++ ' ' :: ' ' :: more')
  := by
  apply List.rel_append (fades_refl cs)
  exact .cons (.inr rfl) (.cons (.inr (blank_eq_space hx).symm) hmore)

/-- A character literal that is closed where a comment is blanked is closed with the comment as
well. -/
theorem exists_charLiteralLength?_of_blank {cs : List Char} {n : Nat}
    (hn : charLiteralLength? (cs ++ ' ' :: ' ' :: more') = some n) :
  ∃ k, charLiteralLength? (cs ++ '/' :: x :: more) = some k
  := by
  cases cs with
  | nil => exact absurd (eq_of_charLiteralLength?_plain (by decide) hn) (by decide)
  | cons d cs =>
    by_cases hd : d = '\\'
    · subst hd
      cases cs with
      | nil =>
        have hfades : Fades (x :: more) (' ' :: more') :=
          .cons (.inr (blank_eq_space hx).symm) hmore
        exact hfades.exists_escapedLength hn
      | cons e cs => exact (fades_slash hx hmore cs).exists_escapedLength hn
    · cases cs with
      | nil => exact absurd (eq_of_charLiteralLength?_plain hd hn) (by decide)
      | cons e cs =>
        obtain rfl := eq_of_charLiteralLength?_plain hd hn
        exact ⟨1, charLiteralLength?_plain hd _⟩

/-- If no character literal goes into the comment, blanking the comment changes none. -/
theorem charLiteralLength?_blank {cs : List Char}
    (h : ∀ n, charLiteralLength? (cs ++ '/' :: x :: more) = some n → n < cs.length) :
  charLiteralLength? (cs ++ ' ' :: ' ' :: more') = charLiteralLength? (cs ++ '/' :: x :: more)
  := by
  cases hcomment : charLiteralLength? (cs ++ '/' :: x :: more) with
  | some n =>
    apply charLiteralLength?_append
    apply charLiteralLength?_of_append hcomment (h n hcomment)
  | none =>
    rw [Option.eq_none_iff_forall_ne_some]
    intro n hn
    obtain ⟨k, hk⟩ := exists_charLiteralLength?_of_blank hx hmore hn
    rw [hcomment] at hk
    contradiction

/-- A reading of program text in front of a comment, if it leaves the comment to be read as one,
does not change when the comment is blanked. -/
theorem readCode_blank {before cs : List Char} {c : Char}
    (hpending : (readCode before c (cs ++ '/' :: x :: more)).pending.length ≤ cs.length)
    (hregion : cs = [] → (readCode before c (cs ++ '/' :: x :: more)).region = .code) :
  readCode before c (cs ++ ' ' :: ' ' :: more') = readCode before c (cs ++ '/' :: x :: more)
  := by
  by_cases happ : c = '\''
  · subst happ
    rw [readCode_apostrophe] at hpending ⊢
    rw [readCode_apostrophe, charLiteralLength?_blank hx hmore]
    intro n hn
    rw [hn] at hpending
    simpa [Nat.succ_le_iff] using hpending
  by_cases hquote : c = '"'
  · subst hquote
    rfl
  by_cases hraw : c = 'r'
  · subst hraw
    have hhashes : ∀ {d : Char} {after : List Char}, d ≠ '#' ∧ d ≠ '"' →
        readCode before 'r' (cs ++ d :: after) = readCode before 'r' cs := by
      intro d after hd
      obtain ⟨hlength, hhead⟩ := @hashes_append cs (d :: after) fun e he => by
        cases he
        exact hd
      simp only [readCode, hlength, hhead]
    rw [hhashes (by decide), hhashes (by decide)]
  by_cases hslash : c = '/'
  · subst hslash
    cases cs with
    | nil => exact absurd (hregion rfl) (by simp [readCode])
    | cons d cs => apply readCode_slash
  have hplain : ∀ rest, readCode before c rest = ⟨true, [], .code⟩ := by
    intro rest
    apply readCode_eq_code hquote happ
    · intro heq
      contradiction
    · intro heq
      contradiction
  rw [hplain, hplain]

/-- A reading in front of a comment, if it leaves the comment to be read as one, does not change
when the comment is blanked. -/
theorem Region.read_blank {region : Region} {before cs : List Char} {c : Char}
    (hpending : (region.read before c (cs ++ '/' :: x :: more)).pending.length ≤ cs.length)
    (hregion : cs = [] → (region.read before c (cs ++ '/' :: x :: more)).region = .code) :
  region.read before c (cs ++ ' ' :: ' ' :: more')
    = region.read before c (cs ++ '/' :: x :: more)
  := by
  cases region with
  | code => exact readCode_blank hx hmore hpending hregion
  | lineComment => rfl
  | blockComment depth =>
    cases cs with
    | nil =>
      -- the last character in front of the comment is not in a comment
      have hcode := hregion rfl
      simp only [Region.read, readComment, List.nil_append] at hcode hpending
      split at hcode
      · simp at hpending
      · contradiction
      · contradiction
    | cons d cs => exact readComment_cons depth c d _ _
  | literal =>
    have hcs : c = '\\' → cs ≠ [] := by
      rintro rfl rfl
      simp [Region.read, readLiteral] at hpending
    simp only [Region.read, readLiteral_append hcs]
  | rawLiteral hashes =>
    have hhash : ∀ {d : Char} {after : List Char}, d ≠ '#' →
        (List.replicate hashes '#').isPrefixOf (cs ++ d :: after)
          = (List.replicate hashes '#').isPrefixOf cs := by
      intro d after hd
      apply isPrefixOf_hashes_append
      intro e he
      cases he
      exact hd
    simp only [Region.read, readRaw, hhash (show ' ' ≠ '#' by decide),
      hhash (show '/' ≠ '#' by decide)]

end

/-- In front of a place where program text is read again, a text is masked in front of one rest as
in front of another if no reading that ends there tells the two apart. -/
theorem exists_maskPass_append_of_read {rest rest' : List Char}
    (hread : ∀ {region : Region} {before cs : List Char} {c : Char},
      (region.read before c (cs ++ restOfLine rest)).pending.length ≤ cs.length →
      (cs = [] → (region.read before c (cs ++ restOfLine rest)).region = .code) →
      region.read before c (cs ++ restOfLine rest') = region.read before c (cs ++ restOfLine rest))
    {region : Region} {pending : List Bool} {before cs : List Char}
    (h : stateAfter region pending before cs rest = (.code, [])) :
  ∃ m, maskPass region pending before (cs ++ rest)
        = m ++ maskPass .code [] (cs.reverse ++ before) rest
    ∧ maskPass region pending before (cs ++ rest')
        = m ++ maskPass .code [] (cs.reverse ++ before) rest'
  := by
  induction cs generalizing region pending before with
  | nil =>
    cases h
    exact ⟨[], rfl, rfl⟩
  | cons c cs ih =>
    rw [List.cons_append, List.cons_append, List.reverse_cons, List.append_assoc,
      List.singleton_append]
    by_cases hc : c = '\n'
    · subst hc
      rw [stateAfter_newline] at h
      obtain ⟨m, hrest, hrest'⟩ := ih h
      exact ⟨'\n' :: m, by rw [maskPass_newline, hrest]; rfl, by rw [maskPass_newline, hrest']; rfl⟩
    cases pending with
    | cons kept pending =>
      rw [stateAfter_pending _ _ _ _ hc] at h
      obtain ⟨m, hrest, hrest'⟩ := ih h
      exact ⟨(if kept then c else ' ') :: m,
        by rw [maskPass_pending _ _ _ _ hc, hrest]; rfl,
        by rw [maskPass_pending _ _ _ _ hc, hrest']; rfl⟩
    | nil =>
      rw [stateAfter_cons _ _ hc] at h
      obtain ⟨m, hrest, hrest'⟩ := ih h
      have hline : region.read before c (restOfLine (cs ++ rest'))
          = region.read before c (restOfLine (cs ++ rest)) := by
        by_cases hcs : '\n' ∈ cs
        · rw [restOfLine_append_of_mem hcs, restOfLine_append_of_mem hcs]
        · rw [restOfLine_append hcs] at h ⊢
          rw [restOfLine_append hcs]
          apply hread
          · apply length_le_of_stateAfter hcs
            rw [h]
          · rintro rfl
            exact congrArg Prod.fst h
      rw [maskPass_cons _ _ hc, maskPass_cons _ _ hc, hline]
      exact ⟨_ :: m, congrArg _ hrest, congrArg _ hrest'⟩

/-- A comment begins with a slash and another character on its line. -/
theorem IsComment.exists_eq_cons {comment back : List Char} (h : IsComment comment back) :
  ∃ x rest, comment = '/' :: x :: rest ∧ x ≠ '\n'
  := by
  cases h with
  | line => exact ⟨'/', _, rfl, by decide⟩
  | block => exact ⟨'*', _, rfl, by decide⟩
  | unclosed => exact ⟨'*', _, rfl, by decide⟩

/-- Blanking a comment leaves the masked text as it is. -/
theorem mask_blank_comment {front comment back : List Char} (hcomment : IsComment comment back)
    (hfront : ReadsCode front (comment ++ back)) :
  mask (front ++ (comment.map blank ++ back)) = mask (front ++ (comment ++ back))
  := by
  have hmask := hcomment.maskPass_eq (front.reverse ++ [])
  obtain ⟨x, rest, rfl, hx⟩ := hcomment.exists_eq_cons
  have hblank := maskPass_map_blank (List.cons_ne_nil '/' (x :: rest)) (front.reverse ++ []) back
  have htext : ('/' :: x :: rest).map blank ++ back = ' ' :: ' ' :: (rest.map blank ++ back) := by
    rw [List.map_cons, List.map_cons, blank_eq_space hx]
    rfl
  have hfades : Fades (rest ++ back) (rest.map blank ++ back) := fades_map_blank rest back
  have hline : ∀ {a b : Char} {cs : List Char}, a ≠ '\n' → b ≠ '\n' →
      restOfLine (a :: b :: cs) = a :: b :: restOfLine cs := by
    intro a b cs ha hb
    rw [restOfLine, List.takeWhile_cons_of_pos (by simpa using ha),
      List.takeWhile_cons_of_pos (by simpa using hb)]
    rfl
  obtain ⟨m, heq, heq'⟩ := @exists_maskPass_append_of_read ('/' :: x :: (rest ++ back))
    (' ' :: ' ' :: (rest.map blank ++ back))
    (fun hpending hregion => by
      rw [hline (by decide) hx] at hpending hregion ⊢
      rw [hline (by decide) (by decide)]
      exact Region.read_blank hx hfades.restOfLine hpending hregion) _ _ _ _ hfront
  rw [mask_eq_maskPass, mask_eq_maskPass, htext, heq', ← htext, hblank, ← hmask]
  exact heq.symm

end AnchorIndex.Source

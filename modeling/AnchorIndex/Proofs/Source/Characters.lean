import AnchorIndex.Proofs.Source.Fragments
import AnchorIndex.Text.Numeral

/-!
# Character literals and lifetimes

A quote stands on both sides of a character literal, and in front of the name of a lifetime. A line
is made of program text, lifetimes and character literals (`Token`). It is masked token by token
exactly if no literal gives a code point by six digits (`maskLines_map_text_iff`): the end of such a
literal is farther off than what is looked at of an escape.
-/

namespace AnchorIndex.Source

/-! ### Tokens of a line -/

/-- What stands between the quotes of a character literal. -/
inductive Character where
  /-- A character for itself. -/
  | plain (c : Char) (ne_backslash : c ≠ '\\')
  /-- A character behind a backslash. -/
  | escaped (c : Char)
  /-- A byte by its two hexadecimal digits. -/
  | byte (high low : Char) (isSome_high : (Text.hexValue? high).isSome)
    (isSome_low : (Text.hexValue? low).isSome)
  /-- A code point by one hexadecimal digit to six. -/
  | codePoint (digits : List Char) (all_isSome : digits.all fun d => (Text.hexValue? d).isSome)
    (ne_nil : digits ≠ []) (length_le : digits.length ≤ 6)

namespace Character

/-- The text between the quotes. -/
def text : Character → List Char
  | plain c _ => [c]
  | escaped c => ['\\', c]
  | byte high low _ _ => ['\\', 'x', high, low]
  | codePoint digits _ _ _ => '\\' :: 'u' :: '{' :: (digits ++ ['}'])

/-- A code point is given by five digits at most. -/
def IsShort : Character → Prop
  | codePoint digits _ _ _ => digits.length ≤ 5
  | _ => True

end Character

/-- A part of a line in which quotes belong to characters and lifetimes. -/
inductive Token where
  /-- Program text without quotes. -/
  | code (cs : List Char)
  /-- A quote and a name. -/
  | lifetime (name : List Char)
  /-- A character between quotes. A `b` in front of them makes it a byte. -/
  | literal (byte : Bool) (character : Character)

namespace Token

/-- What stands in front of the quotes of a literal. -/
def mark (byte : Bool) : List Char :=
  if byte then ['b'] else []

/-- The text of a token. -/
def text : Token → List Char
  | code cs => cs
  | lifetime name => '\'' :: name
  | literal byte character => mark byte ++ '\'' :: (character.text ++ ['\''])

/-- The masked text of a token: what stands between the quotes of a literal is blank, and all else
stays. -/
def masked : Token → List Char
  | code cs => cs
  | lifetime name => '\'' :: name
  | literal byte character =>
    mark byte ++ '\'' :: (List.replicate character.text.length ' ' ++ ['\''])

/-- The token is read as this token in front of the text `after`. Program text has no quotes, and
no comment begins in it. No quote follows the name of a lifetime. -/
def Fits (after : List Char) : Token → Prop
  | code cs =>
    '"' ∉ cs ∧ '\'' ∉ cs ∧ (¬ ['/', '/'] <:+: cs ++ after.take 1)
      ∧ ¬ ['/', '*'] <:+: cs ++ after.take 1
  | lifetime name =>
    name ≠ [] ∧ name.all Text.isWordChar ∧ after.head? ≠ some '\''
  | literal _ _ => True

instance decidableFits (after : List Char) : (t : Token) → Decidable (t.Fits after)
  | code _ => inferInstanceAs (Decidable (_ ∧ _ ∧ _ ∧ _))
  | lifetime _ => inferInstanceAs (Decidable (_ ∧ _ ∧ _))
  | literal _ _ => .isTrue trivial

/-- No literal gives a code point by six digits. -/
def IsShort : Token → Prop
  | literal _ character => character.IsShort
  | _ => True

end Token

/-- Each of the tokens is read as it is in front of the others. -/
def TokensFit : List Token → Prop
  | [] => True
  | t :: rest => t.Fits (rest.flatMap Token.text) ∧ TokensFit rest

instance decidableTokensFit : (tokens : List Token) → Decidable (TokensFit tokens)
  | [] => .isTrue trivial
  | _ :: rest =>
    have := decidableTokensFit rest
    inferInstanceAs (Decidable (_ ∧ _))

/-! ### The length of a literal -/

theorem ne_of_isSome_hexValue? {c d : Char} (hc : (Text.hexValue? c).isSome)
    (hd : Text.hexValue? d = none) :
  d ≠ c
  := by
  rintro rfl
  rw [hd] at hc
  contradiction

/-- The end of a literal that gives a code point is found behind five digits at most. -/
theorem charLiteralLength?_codePoint {digits : List Char}
    (h : digits.all fun d => (Text.hexValue? d).isSome) (after : List Char) :
  charLiteralLength? ('\\' :: 'u' :: '{' :: (digits ++ '}' :: '\'' :: after))
    = if digits.length ≤ 5 then some (digits.length + 4) else none
  := by
  have hquote : '\'' ∉ '{' :: (digits ++ ['}']) := by
    intro hmem
    rw [List.mem_cons, List.mem_append, List.mem_singleton] at hmem
    obtain hopen | hdigit | hclose := hmem
    · contradiction
    · exact ne_of_isSome_hexValue? (List.all_eq_true.1 h _ hdigit) rfl rfl
    · contradiction
  have hlength := charLiteralLength?_escaped hquote 'u' after
  have hle : ('{' :: (digits ++ ['}'])).length = digits.length + 2 := by simp
  rw [hle] at hlength
  simpa using hlength

theorem Character.charLiteralLength?_of_isShort {character : Character}
    (h : character.IsShort) (after : List Char) :
  charLiteralLength? (character.text ++ '\'' :: after) = some character.text.length
  := by
  cases character with
  | plain c hc => exact charLiteralLength?_plain hc after
  | escaped c => exact charLiteralLength?_escaped List.not_mem_nil c after
  | byte high low hhigh hlow =>
    have hquote : '\'' ∉ [high, low] := by
      have hne : '\'' ≠ high ∧ '\'' ≠ low :=
        ⟨ne_of_isSome_hexValue? hhigh rfl, ne_of_isSome_hexValue? hlow rfl⟩
      simp [hne]
    exact charLiteralLength?_escaped hquote 'x' after
  | codePoint digits hdigits _ _ =>
    have hle : digits.length ≤ 5 := h
    have hlength := charLiteralLength?_codePoint hdigits after
    rw [if_pos hle] at hlength
    simpa [text] using hlength

/-- Behind six digits the end of a literal is not found. -/
theorem Character.charLiteralLength?_of_not_isShort {character : Character}
    (h : ¬ character.IsShort) (after : List Char) :
  (∃ rest, character.text = '\\' :: rest)
    ∧ charLiteralLength? (character.text ++ '\'' :: after) = none
  := by
  cases character with
  | plain _ _ => exact absurd trivial h
  | escaped _ => exact absurd trivial h
  | byte _ _ _ _ => exact absurd trivial h
  | codePoint digits hdigits _ _ =>
    have hlt : ¬ digits.length ≤ 5 := h
    have hlength := charLiteralLength?_codePoint hdigits after
    rw [if_neg hlt] at hlength
    exact ⟨⟨_, rfl⟩, by simpa [text] using hlength⟩

theorem ne_of_isWordChar {c d : Char} (hc : Text.isWordChar c = true)
    (hd : Text.isWordChar d = false) :
  c ≠ d
  := by
  rintro rfl
  rw [hc] at hd
  contradiction

/-- A quote in front of a name is no character literal if none follows the name. -/
theorem charLiteralLength?_name {name after : List Char} (hne : name ≠ [])
    (hname : ∀ c ∈ name, Text.isWordChar c = true) (hafter : after.head? ≠ some '\'') :
  charLiteralLength? (name ++ after) = none
  := by
  obtain ⟨c, cs, rfl⟩ := List.exists_cons_of_ne_nil hne
  obtain ⟨hc, hcs⟩ := List.forall_mem_cons.1 hname
  have hbackslash : c ≠ '\\' := ne_of_isWordChar hc (by decide +kernel)
  rw [Option.eq_none_iff_forall_ne_some]
  intro n hn
  cases cs with
  | nil =>
    cases after with
    | nil => simp [charLiteralLength?] at hn
    | cons d after =>
      apply hafter
      rw [List.head?_cons, eq_of_charLiteralLength?_plain hbackslash hn]
  | cons d cs =>
    apply ne_of_isWordChar (hcs d List.mem_cons_self) (d := '\'') (by decide +kernel)
    exact eq_of_charLiteralLength?_plain hbackslash hn

/-! ### Masked texts -/

/-- The text does not begin with a quote behind any number of hashes, so it opens no raw literal. -/
def Unquoted (cs : List Char) : Prop :=
  ∀ hashes rest, cs ≠ List.replicate hashes '#' ++ '"' :: rest

/-- Behind `before`, the nearest first, and in front of `after` the text is masked as `m`, and
program text goes on behind it. -/
def MaskedAs (before cs m after : List Char) : Prop :=
  maskFrom .code [] before (cs ++ after)
    = (m ++ (maskFrom .code [] (cs.reverse ++ before) after).1,
      (maskFrom .code [] (cs.reverse ++ before) after).2)

section

variable {before cs ds m after : List Char} {c : Char}

theorem unquoted_cons (hquote : c ≠ '"') (hhash : c ≠ '#') (cs : List Char) :
  Unquoted (c :: cs)
  := by
  intro hashes rest heq
  cases hashes with
  | zero => simp [hquote] at heq
  | succ hashes => simp [List.replicate_succ, hhash] at heq

theorem Unquoted.append (h : Unquoted after) (hquote : '"' ∉ cs) :
  Unquoted (cs ++ after)
  := by
  intro hashes rest heq
  obtain ⟨between, hhashes, hafter⟩ | ⟨between, hcs, -⟩ := Text.before_or_after_of_append_eq heq
  · have hbetween : between = List.replicate between.length '#' := by
      apply List.eq_replicate_of_mem
      intro d hd
      apply List.eq_of_mem_replicate
      rw [hhashes]
      exact List.mem_append_right _ hd
    rw [hbetween] at hafter
    exact h _ _ hafter
  · apply hquote
    rw [hcs]
    simp

theorem maskedAs_nil (before after : List Char) :
  MaskedAs before [] [] after
  := rfl

theorem MaskedAs.append {m' : List Char} (hcs : MaskedAs before cs m (ds ++ after))
    (hds : MaskedAs (cs.reverse ++ before) ds m' after) :
  MaskedAs before (cs ++ ds) (m ++ m') after
  := by
  rw [MaskedAs, List.append_assoc, hcs, hds]
  simp

theorem MaskedAs.cons {c' : Char} (hc : MaskedAs before [c] [c'] (cs ++ after))
    (hcs : MaskedAs (c :: before) cs m after) :
  MaskedAs before (c :: cs) (c' :: m) after
  := hc.append hcs

/-- A character that begins no literal and no comment is kept. -/
theorem maskedAs_singleton (hquote : c ≠ '"') (happ : c ≠ '\'')
    (hslash : c = '/' → ∀ d ∈ after.head?, d ≠ '/' ∧ d ≠ '*') (hraw : c = 'r' → Unquoted after) :
  MaskedAs before [c] [c] after
  := by
  have hread : readCode before c after = ⟨true, [], .code⟩ := by
    apply readCode_eq_code hquote happ hslash
    intro heq _ hopening
    obtain ⟨hashes, rest, hafter⟩ := eq_of_quote_behind_hashes hopening
    exact hraw heq hashes rest hafter
  rw [MaskedAs, List.singleton_append, maskFrom_cons]
  simp only [Region.read, hread]
  rfl

/-- Program text is kept. -/
theorem maskedAs_code (hquote : '"' ∉ cs) (happ : '\'' ∉ cs)
    (hline : ¬ ['/', '/'] <:+: cs ++ after.take 1) (hblock : ¬ ['/', '*'] <:+: cs ++ after.take 1)
    (hopening : Unquoted after) (before : List Char) :
  MaskedAs before cs cs after
  := by
  induction cs generalizing before with
  | nil => exact maskedAs_nil before after
  | cons c cs ih =>
    rw [List.mem_cons, not_or] at hquote happ
    have hrest : MaskedAs (c :: before) cs cs after := by
      apply ih hquote.2 happ.2
      · intro h
        apply hline (h.trans (List.suffix_cons _ _).isInfix)
      · intro h
        apply hblock (h.trans (List.suffix_cons _ _).isInfix)
    apply MaskedAs.cons _ hrest
    apply maskedAs_singleton (Ne.symm hquote.1) (Ne.symm happ.1)
    · rintro rfl d hd
      constructor
      · rintro rfl
        apply hline (pair_infix_of_head? hd)
      · rintro rfl
        apply hblock (pair_infix_of_head? hd)
    · intro _
      exact hopening.append hquote.2

/-- A name is kept. -/
theorem maskedAs_name (hcs : ∀ c ∈ cs, Text.isWordChar c = true) (hopening : Unquoted after)
    (before : List Char) :
  MaskedAs before cs cs after
  := by
  induction cs generalizing before with
  | nil => exact maskedAs_nil before after
  | cons c cs ih =>
    obtain ⟨hc, hcs⟩ := List.forall_mem_cons.1 hcs
    apply MaskedAs.cons _ (ih hcs _)
    apply maskedAs_singleton
    · exact ne_of_isWordChar hc (by decide +kernel)
    · exact ne_of_isWordChar hc (by decide +kernel)
    · intro heq
      exact absurd heq (ne_of_isWordChar hc (by decide +kernel))
    · intro _
      apply hopening.append
      intro hmem
      exact ne_of_isWordChar (hcs _ hmem) (by decide +kernel) rfl

/-- Characters that are to be hidden are blank. -/
theorem maskFrom_hidden (region : Region) (before cs : List Char) (c : Char)
    (after : List Char) :
  maskFrom region (List.replicate cs.length false ++ [true]) before (cs ++ c :: after)
    = (List.replicate cs.length ' '
        ++ c :: (maskFrom region [] (c :: (cs.reverse ++ before)) after).1,
      (maskFrom region [] (c :: (cs.reverse ++ before)) after).2)
  := by
  induction cs generalizing before with
  | nil => rfl
  | cons d cs ih =>
    rw [List.length_cons, List.replicate_succ, List.cons_append, List.cons_append,
      maskFrom_cons_pending, ih]
    simp [List.replicate_succ]

/-- The mark of a byte is kept. -/
theorem maskedAs_mark (before after : List Char) :
  MaskedAs before ['b'] ['b'] after
  := rfl

/-- The characters of a literal are hidden up to its end. -/
theorem maskedAs_literal (h : charLiteralLength? (cs ++ '\'' :: after) = some cs.length)
    (before : List Char) :
  MaskedAs before ('\'' :: (cs ++ ['\''])) ('\'' :: (List.replicate cs.length ' ' ++ ['\''])) after
  := by
  have htext : '\'' :: (cs ++ ['\'']) ++ after = '\'' :: (cs ++ '\'' :: after) := by simp
  rw [MaskedAs, htext, maskFrom_cons]
  simp only [Region.read, readCode_apostrophe, h, maskFrom_hidden]
  simp

end

/-! ### Masked lines -/

/-- A token that fits and is short is masked as it says. -/
theorem Token.Fits.maskedAs {t : Token} {after : List Char} (h : t.Fits after)
    (hshort : t.IsShort) (hopening : Unquoted after) (before : List Char) :
  MaskedAs before t.text t.masked after
  := by
  cases t with
  | code cs =>
    obtain ⟨hquote, happ, hline, hblock⟩ := h
    exact maskedAs_code hquote happ hline hblock hopening before
  | lifetime name =>
    obtain ⟨hne, hname, hafter⟩ := h
    rw [List.all_eq_true] at hname
    have hquote : MaskedAs before ['\''] ['\''] (name ++ after) := by
      rw [MaskedAs, List.singleton_append, maskFrom_cons]
      simp only [Region.read, readCode_apostrophe, charLiteralLength?_name hne hname hafter]
      rfl
    exact hquote.cons (maskedAs_name hname hopening _)
  | literal byte character =>
    have hliteral := fun before =>
      @maskedAs_literal character.text after (character.charLiteralLength?_of_isShort hshort after)
        before
    cases byte with
    | false => exact hliteral before
    | true =>
      exact (maskedAs_mark before _).cons (hliteral _)

/-- No raw literal is opened in front of tokens. -/
theorem TokensFit.unquoted {tokens : List Token} (h : TokensFit tokens) :
  Unquoted (tokens.flatMap Token.text)
  := by
  induction tokens with
  | nil =>
    intro hashes rest heq
    simp at heq
  | cons t tokens ih =>
    obtain ⟨hfits, hrest⟩ := h
    rw [List.flatMap_cons]
    cases t with
    | code cs => exact (ih hrest).append hfits.1
    | lifetime name => exact unquoted_cons (by decide) (by decide) _
    | literal byte character =>
      cases byte with
      | false => exact unquoted_cons (by decide) (by decide) _
      | true => exact unquoted_cons (by decide) (by decide) _

/-- A line of short tokens is masked token by token, and the next line begins in program text. -/
theorem TokensFit.maskFrom_eq {tokens : List Token} (h : TokensFit tokens)
    (hshort : ∀ t ∈ tokens, t.IsShort) (before : List Char) :
  maskFrom .code [] before (tokens.flatMap Token.text) = (tokens.flatMap Token.masked, .code)
  := by
  induction tokens generalizing before with
  | nil => rfl
  | cons t tokens ih =>
    obtain ⟨hfits, hrest⟩ := h
    obtain ⟨ht, htokens⟩ := List.forall_mem_cons.1 hshort
    rw [List.flatMap_cons, List.flatMap_cons, hfits.maskedAs ht hrest.unquoted before,
      ih hrest htokens]

/-- If the end of a literal is not found, a backslash behind its first quote is kept. -/
theorem not_prefix_of_unended {rest after : List Char}
    (h : charLiteralLength? ('\\' :: rest ++ '\'' :: after) = none) (before hidden : List Char) :
  ¬ '\'' :: ' ' :: hidden <+: (maskFrom .code [] before ('\'' :: ('\\' :: rest ++ '\'' :: after))).1
  := by
  intro hprefix
  rw [maskFrom_cons] at hprefix
  simp only [Region.read, readCode_apostrophe, h, if_true] at hprefix
  rw [List.cons_append, maskFrom_cons, List.cons_prefix_cons] at hprefix
  have hkept : ' ' = '\\' := (List.cons_prefix_cons.1 hprefix.2).1
  contradiction

theorem Token.not_prefix_of_not_isShort {t : Token} (h : ¬ t.IsShort) (before after : List Char) :
  ¬ t.masked <+: (maskFrom .code [] before (t.text ++ after)).1
  := by
  cases t with
  | code cs => exact absurd trivial h
  | lifetime name => exact absurd trivial h
  | literal byte character =>
    obtain ⟨⟨rest, htext⟩, hlength⟩ := character.charLiteralLength?_of_not_isShort h after
    have hunended := not_prefix_of_unended (htext ▸ hlength)
    cases byte with
    | false => simpa [text, masked, mark, htext, List.replicate_succ] using hunended before _
    | true =>
      intro hprefix
      apply hunended ('b' :: before) (List.replicate rest.length ' ' ++ ['\''])
      rw [text, mark, if_pos rfl, List.append_assoc, maskedAs_mark] at hprefix
      simpa [masked, mark, htext, List.replicate_succ] using hprefix

/-- If a line is masked token by token, its tokens are short. -/
theorem TokensFit.isShort_of_maskFrom {tokens : List Token} (h : TokensFit tokens)
    {before : List Char}
    (heq : (maskFrom .code [] before (tokens.flatMap Token.text)).1
      = tokens.flatMap Token.masked) :
  ∀ t ∈ tokens, t.IsShort
  := by
  induction tokens generalizing before with
  | nil => simp
  | cons t tokens ih =>
    obtain ⟨hfits, hrest⟩ := h
    rw [List.flatMap_cons, List.flatMap_cons] at heq
    by_cases ht : t.IsShort
    · rw [hfits.maskedAs ht hrest.unquoted before] at heq
      exact List.forall_mem_cons.2 ⟨ht, ih hrest (List.append_cancel_left heq)⟩
    · exfalso
      apply Token.not_prefix_of_not_isShort ht before (tokens.flatMap Token.text)
      rw [heq]
      exact List.prefix_append _ _

/-- Lines are masked token by token exactly if no literal in them gives a code point by six
digits. -/
theorem maskLines_map_text_iff {lines : List (List Token)} (h : ∀ line ∈ lines, TokensFit line) :
  maskLines (lines.map (·.flatMap Token.text)) = lines.map (·.flatMap Token.masked)
    ↔ ∀ line ∈ lines, ∀ t ∈ line, t.IsShort
  := by
  rw [maskLines]
  induction lines with
  | nil => simp [maskLinesFrom]
  | cons line lines ih =>
    obtain ⟨hline, hlines⟩ := List.forall_mem_cons.1 h
    rw [List.map_cons, List.map_cons, maskLinesFrom, List.cons.injEq, List.forall_mem_cons]
    constructor
    · rintro ⟨heq, hrest⟩
      have hshort := hline.isShort_of_maskFrom heq
      rw [maskLine, hline.maskFrom_eq hshort, ih hlines] at hrest
      exact ⟨hshort, hrest⟩
    · rintro ⟨hshort, hrest⟩
      rw [maskLine, hline.maskFrom_eq hshort, ih hlines]
      exact ⟨rfl, hrest⟩

/-- Lines with literals of every form beside each other and beside lifetimes. What they quote are
braces, quotes, a backslash and a star. -/
def quotedLines : List (List Token) :=
  [[.code "fn f<".toList, .lifetime "a".toList, .code ", ".toList, .lifetime "static".toList,
      .code ">() \x7b".toList],
    [.literal false (.plain '{' (by decide)), .literal true (.escaped '\''), .code "/".toList,
      .literal false (.plain '*' (by decide)), .literal false (.plain '"' (by decide)),
      .literal true (.byte '7' 'D' rfl rfl), .lifetime "r".toList, .code "#".toList,
      .literal false (.escaped '\\'),
      .literal false (.codePoint "1F600".toList (by decide) (by decide) (by decide))],
    [.code "\x7d".toList]]

theorem maskLines_quotedLines :
  (∀ line ∈ quotedLines, TokensFit line)
  ∧ maskLines (quotedLines.map (·.flatMap Token.text))
    = ["fn f<'a, 'static>() \x7b", "' 'b'  '/' '' 'b'    ''r#'  ''         '", "\x7d"].map
        String.toList
  := by
  have hfit : ∀ line ∈ quotedLines, TokensFit line := by decide +kernel
  have hshort : ∀ line ∈ quotedLines, ∀ t ∈ line, t.IsShort := by
    simp [quotedLines, Token.IsShort, Character.IsShort]
  refine ⟨hfit, ?_⟩
  rw [(maskLines_map_text_iff hfit).2 hshort]
  decide +kernel

/-- Two literals, the first with a code point of six digits and the second with a brace. -/
def sixDigitLine : List Token :=
  [.code "[".toList,
    .literal false (.codePoint "10FFFF".toList (by decide) (by decide) (by decide)),
    .code ",".toList, .literal false (.plain '{' (by decide)), .code "]".toList]

/-- The quote behind six digits is taken for the first one of a literal, and the brace of the next
literal for one of the program. -/
theorem brace_kept_behind_sixDigits :
  TokensFit sixDigitLine
  ∧ maskLines [sixDigitLine.flatMap Token.text] ≠ [sixDigitLine.flatMap Token.masked]
  ∧ maskLines [sixDigitLine.flatMap Token.text] = ["['\\u\x7b10FFFF\x7d' '\x7b']".toList]
  := by
  decide +kernel

end AnchorIndex.Source

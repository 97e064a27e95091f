import AnchorIndex.Proofs.Account.Grammar
import AnchorIndex.Proofs.Source.Splitting

/-!
# Nested texts and their readers

A text with well-nested brackets stands in one part of a list (`IsNested.isPart`), and it leaves
the parentheses around it open (`IsNested.cutAtClosing?_append`).
-/

namespace AnchorIndex.Account

open Source (Nesting)

/-! ### Separators -/

section

variable {isSeparator : Char → Bool} {angles inside : Bool} {n : Nesting} {c : Char}
variable {cs : List Char}

theorem IsPlain.isOrdinary (hc : IsPlain angles c) :
  Source.IsOrdinary angles c ∧ c ≠ ','
  := by
  obtain ⟨hnot, hangles⟩ := hc
  simp only [List.mem_cons, List.not_mem_nil, or_false, not_or] at hnot
  exact ⟨⟨by simp [hnot], hangles⟩, hnot.2.2.1⟩

theorem Bracket.feed_opening (b : Bracket) (counts : b = .angle → angles = true)
    (hquoted : n.quoted = false) :
  n.feed angles b.opening = ⟨n.depth + 1, false, some b.opening⟩
  := by
  cases b with
  | round => simp [Bracket.opening, Nesting.feed, Source.bracketStep, hquoted]
  | square => simp [Bracket.opening, Nesting.feed, Source.bracketStep, hquoted]
  | curly => simp [Bracket.opening, Nesting.feed, Source.bracketStep, hquoted]
  | angle => simp [Bracket.opening, Nesting.feed, Source.bracketStep, hquoted, counts rfl]

theorem Bracket.feed_closing (b : Bracket) (counts : b = .angle → angles = true)
    (hquoted : n.quoted = false)
    (harrow : b = .angle → n.previous ≠ some '-' ∧ n.previous ≠ some '=') :
  n.feed angles b.closing = ⟨n.depth - 1, false, some b.closing⟩
  := by
  cases b with
  | round =>
    simp [Bracket.closing, Nesting.feed, Source.bracketStep, hquoted]
    rfl
  | square =>
    simp [Bracket.closing, Nesting.feed, Source.bracketStep, hquoted]
    rfl
  | curly =>
    simp [Bracket.closing, Nesting.feed, Source.bracketStep, hquoted]
    rfl
  | angle =>
    simp [Bracket.closing, Nesting.feed, Source.bracketStep, hquoted, counts rfl, harrow rfl]
    rfl

/-- The last character of a text is the one before what follows. -/
theorem previous_foldl_feed (cs : List Char) (n : Nesting) :
  (cs.foldl (Nesting.feed angles) n).previous = cs.getLast?.or n.previous
  := by
  have hfeed : ∀ (n : Nesting) (c : Char), (n.feed angles c).previous = some c := by
    intro n c
    rw [Nesting.feed]
    split
    · rfl
    · split <;> rfl
  cases cs using List.reverseRecOn with
  | nil => rfl
  | append_singleton cs c => simp [hfeed]

/-- Behind the text the brackets and literals are as in front of it, and no separator in it splits
a list. -/
def Keeps (isSeparator : Char → Bool) (angles : Bool) (n : Nesting) (cs : List Char) : Prop :=
  n.Quiet isSeparator angles cs ∧ (cs.foldl (Nesting.feed angles) n).depth = n.depth
    ∧ (cs.foldl (Nesting.feed angles) n).quoted = n.quoted

theorem keeps_nil :
  Keeps isSeparator angles n []
  := ⟨trivial, rfl, rfl⟩

theorem Keeps.append {ds : List Char} (hcs : Keeps isSeparator angles n cs)
    (hds : Keeps isSeparator angles (cs.foldl (Nesting.feed angles) n) ds) :
  Keeps isSeparator angles n (cs ++ ds)
  := by
  obtain ⟨hquiet, hdepth, hquoted⟩ := hcs
  obtain ⟨hquiet', hdepth', hquoted'⟩ := hds
  rw [Keeps, Source.quiet_append, List.foldl_append, hdepth', hdepth, hquoted', hquoted]
  exact ⟨⟨hquiet, hquiet'⟩, rfl, rfl⟩

theorem keeps_cons (hfeed : n.feed angles c = ⟨n.depth, n.quoted, some c⟩)
    (hsplit : n.splitsAt isSeparator angles c = false)
    (hcs : Keeps isSeparator angles ⟨n.depth, n.quoted, some c⟩ cs) :
  Keeps isSeparator angles n (c :: cs)
  := by
  obtain ⟨hquiet, hdepth, hquoted⟩ := hcs
  rw [Keeps, List.foldl_cons, hfeed]
  refine ⟨⟨hsplit, ?_⟩, hdepth, hquoted⟩
  rw [hfeed]
  exact hquiet

/-- Plain characters keep what is open. -/
theorem keeps_of_isPlain (h : ∀ c ∈ cs, IsPlain angles c) :
  Keeps (· == ',') angles n cs
  := by
  induction cs generalizing n with
  | nil => exact keeps_nil
  | cons c cs ih =>
    obtain ⟨hc, hcs⟩ := List.forall_mem_cons.1 h
    obtain ⟨hordinary, hcomma⟩ := hc.isOrdinary
    exact keeps_cons (hordinary.feed n) (Source.splitsAt_eq_false (beq_eq_false_iff_ne.2 hcomma))
      (ih hcs)

/-- A text without quotes keeps a literal open. -/
theorem keeps_content (hquote : '"' ∉ cs) (hquoted : n.quoted = true) :
  Keeps isSeparator angles n cs
  := by
  induction cs generalizing n with
  | nil => exact keeps_nil
  | cons c cs ih =>
    rw [List.mem_cons, not_or] at hquote
    have hfeed : n.feed angles c = ⟨n.depth, n.quoted, some c⟩ := by
      simp [Nesting.feed, hquoted, Ne.symm hquote.1]
    have hsplit : n.splitsAt isSeparator angles c = false := by
      simp [Nesting.splitsAt, hquoted]
    exact keeps_cons hfeed hsplit (ih hquote.2 hquoted)

/-- A literal is closed where its content ends. -/
theorem keeps_literal {content : List Char} (hquote : '"' ∉ content) (hbackslash : '\\' ∉ content)
    (hsep : isSeparator '"' = false) (hquoted : n.quoted = false)
    (hcs : Keeps isSeparator angles ⟨n.depth, false, some '"'⟩ cs) :
  Keeps isSeparator angles n ('"' :: (content ++ '"' :: cs))
  := by
  have hopen : n.feed angles '"' = ⟨n.depth, true, some '"'⟩ := by
    simp [Nesting.feed, hquoted]
  have hcontent := @keeps_content isSeparator angles ⟨n.depth, true, some '"'⟩ content hquote rfl
  have hprevious := @previous_foldl_feed angles content ⟨n.depth, true, some '"'⟩
  have hlast : content.getLast?.or (some '"') ≠ some '\\' := by
    cases hgetLast : content.getLast? with
    | none => simp
    | some d =>
      rintro heq
      cases heq
      exact hbackslash (List.mem_of_getLast? hgetLast)
  obtain ⟨hquiet, hdepth, hquoted'⟩ := hcontent
  generalize hm : content.foldl (Nesting.feed angles) ⟨n.depth, true, some '"'⟩ = m
  rw [hm] at hdepth hquoted' hprevious
  have hclose : m.feed angles '"' = ⟨n.depth, false, some '"'⟩ := by
    rw [← hprevious] at hlast
    rw [Nesting.feed, hquoted', hdepth]
    simp [hlast]
  obtain ⟨hquiet', hdepth'', hquoted''⟩ := hcs
  rw [Keeps, List.foldl_cons, List.foldl_append, hopen, hm, List.foldl_cons, hclose, hdepth'',
    hquoted'', Nesting.Quiet, hopen, Source.quiet_append, hm, Nesting.Quiet, hclose]
  exact ⟨⟨Source.splitsAt_eq_false hsep, hquiet, Source.splitsAt_eq_false hsep, hquiet'⟩, rfl,
    hquoted.symm⟩

theorem IsContent.keeps_literal {content : List Char} (h : IsContent content)
    (hquoted : n.quoted = false)
    (hcs : Keeps (· == ',') angles ⟨n.depth, false, some '"'⟩ cs) :
  Keeps (· == ',') angles n ('"' :: (content ++ '"' :: cs))
  := by
  have hnot : ∀ d ∈ ['"', '\\'], d ∉ content := by
    intro d hd hmem
    exact h d hmem (List.mem_append_left ['(', ')', '[', ']', '{', '}'] hd)
  exact Account.keeps_literal (hnot '"' (by simp)) (hnot '\\' (by simp)) rfl hquoted hcs

/-- A bracket is closed behind a nested text. -/
theorem Bracket.keeps (b : Bracket) (counts : b = .angle → angles = true)
    (hsep : isSeparator b.opening = false ∧ isSeparator b.closing = false)
    (hquoted : n.quoted = false) {inner : List Char}
    (hinner : Keeps isSeparator angles ⟨n.depth + 1, false, some b.opening⟩ inner)
    (harrow : b = .angle → ∀ c ∈ inner.getLast?, c ≠ '-' ∧ c ≠ '=')
    (hcs : Keeps isSeparator angles ⟨n.depth, false, some b.closing⟩ cs) :
  Keeps isSeparator angles n (b.opening :: (inner ++ b.closing :: cs))
  := by
  have hopen := @Bracket.feed_opening angles n b counts hquoted
  have hprevious := @previous_foldl_feed angles inner ⟨n.depth + 1, false, some b.opening⟩
  obtain ⟨hquiet, hdepth, hquoted'⟩ := hinner
  generalize hm : inner.foldl (Nesting.feed angles) ⟨n.depth + 1, false, some b.opening⟩ = m
  rw [hm] at hdepth hquoted' hprevious
  have hlast : b = .angle → m.previous ≠ some '-' ∧ m.previous ≠ some '=' := by
    rintro rfl
    rw [hprevious]
    cases hgetLast : inner.getLast? with
    | none => simp [Bracket.opening]
    | some c => simpa using harrow rfl c hgetLast
  have hclose := @Bracket.feed_closing angles m b counts hquoted' hlast
  rw [hdepth, Int.add_sub_cancel] at hclose
  obtain ⟨hquiet', hdepth'', hquoted''⟩ := hcs
  rw [Keeps, List.foldl_cons, List.foldl_append, hopen, hm, List.foldl_cons, hclose, hdepth'',
    hquoted'', Nesting.Quiet, hopen, Source.quiet_append, hm, Nesting.Quiet, hclose]
  exact ⟨⟨Source.splitsAt_eq_false hsep.1, hquiet, Source.splitsAt_eq_false hsep.2, hquiet'⟩, rfl,
    hquoted.symm⟩

theorem isPlain_hash :
  IsPlain angles '#'
  := ⟨by decide, fun _ => by decide⟩

/-- The tip of an arrow is no bracket. -/
theorem keeps_arrow (hshaft : c = '-' ∨ c = '=') (hsplit : n.splitsAt isSeparator angles c = false)
    (htip : isSeparator '>' = false) (hquoted : n.quoted = false)
    (hcs : Keeps isSeparator angles ⟨n.depth, n.quoted, some '>'⟩ cs) :
  Keeps isSeparator angles n (c :: '>' :: cs)
  := by
  have hfeed := (@Source.isOrdinary_shaft angles c hshaft).feed n
  have hfeed' : Nesting.feed angles ⟨n.depth, n.quoted, some c⟩ '>'
      = ⟨n.depth, n.quoted, some '>'⟩ := by
    obtain rfl | rfl := hshaft <;> simp [Nesting.feed, Source.bracketStep, hquoted]
  exact keeps_cons hfeed hsplit (keeps_cons hfeed' (Source.splitsAt_eq_false htip) hcs)

/-- A nested text keeps what is open. -/
theorem IsNested.keeps (h : IsNested angles inside cs) (hquoted : n.quoted = false)
    (hdepth : 0 ≤ n.depth) (hinside : inside = true → 0 < n.depth) :
  Keeps (· == ',') angles n cs
  := by
  induction h generalizing n with
  | nil => exact keeps_nil
  | plain hplain _ _ _ ih =>
    obtain ⟨hordinary, hcomma⟩ := hplain.isOrdinary
    exact keeps_cons (hordinary.feed n) (Source.splitsAt_eq_false (beq_eq_false_iff_ne.2 hcomma))
      (ih hquoted hdepth hinside)
  | comma _ ih =>
    have hordinary := @Source.isOrdinary_comma angles
    have hdepth' : n.depth ≠ 0 := (Int.ne_of_lt (hinside rfl)).symm
    exact keeps_cons (hordinary.feed n) (hordinary.splitsAt_of_depth hdepth')
      (ih hquoted hdepth hinside)
  | group b counts _ harrow _ ihinner ih =>
    have hsep : (b.opening == ',') = false ∧ (b.closing == ',') = false := by
      cases b <;> decide
    apply b.keeps counts hsep hquoted _ harrow (ih rfl hdepth hinside)
    apply ihinner rfl
    · dsimp only
      omega
    · intro _
      dsimp only
      omega
  | literal _ hcontent _ ih => exact hcontent.keeps_literal hquoted (ih rfl hdepth hinside)
  | @rawLiteral _ content cs _ hashes hcontent _ ih =>
    have hhashes : ∀ c ∈ List.replicate hashes '#', IsPlain angles c := by
      intro c hc
      rw [List.eq_of_mem_replicate hc]
      exact isPlain_hash
    have hopening : ∀ c ∈ 'r' :: List.replicate hashes '#', IsPlain angles c :=
      List.forall_mem_cons.2 ⟨⟨by decide, fun _ => by decide⟩, hhashes⟩
    rw [← List.cons_append]
    have hfront := @keeps_of_isPlain angles n _ hopening
    apply hfront.append
    obtain ⟨-, hdepthFront, hquotedFront⟩ := hfront
    rw [hquoted] at hquotedFront
    apply hcontent.keeps_literal hquotedFront
    rw [hdepthFront]
    have hback := @keeps_of_isPlain angles ⟨n.depth, false, some '"'⟩ _ hhashes
    apply hback.append
    obtain ⟨-, hdepthBack, hquotedBack⟩ := hback
    apply ih hquotedBack
    · rw [hdepthBack]
      exact hdepth
    · intro heq
      rw [hdepthBack]
      exact hinside heq
  | lifetime _ _ _ _ ih =>
    have happ : Source.IsOrdinary angles '\'' := ⟨by decide, fun _ => by decide⟩
    exact keeps_cons (happ.feed n) (Source.splitsAt_eq_false rfl) (ih hquoted hdepth hinside)
  | @arrow _ c cs _ hshaft _ ih =>
    have hcomma : (c == ',') = false := by
      obtain rfl | rfl := hshaft <;> rfl
    exact keeps_arrow hshaft (Source.splitsAt_eq_false hcomma) rfl hquoted
      (ih hquoted hdepth hinside)

/-- A nested text is one part of a list. -/
theorem IsNested.isPart (h : IsNested angles false cs) :
  Source.IsPart angles cs
  := by
  intro n hdepth hquoted _
  obtain ⟨hquiet, hdepth', hquoted'⟩ := h.keeps hquoted (Int.le_of_eq hdepth.symm) nofun
  exact ⟨hquiet, by rw [hdepth', hdepth], by rw [hquoted', hquoted]⟩

end

/-! ### Parentheses -/

section

variable {angles inside : Bool} {c : Char} {cs ds : List Char}

/-- The text leaves a parenthesis open that is open before it. -/
def Passes (cs : List Char) : Prop :=
  ∀ (depth : Int) (rest : List Char), 0 < depth →
    Source.cutAtClosing? '(' ')' depth (cs ++ rest)
      = (Source.cutAtClosing? '(' ')' depth rest).map fun parts => (cs ++ parts.1, parts.2)

theorem passes_nil :
  Passes []
  := by
  intro depth rest _
  rw [List.nil_append]
  cases Source.cutAtClosing? '(' ')' depth rest <;> rfl

theorem Passes.append (hcs : Passes cs) (hds : Passes ds) :
  Passes (cs ++ ds)
  := by
  intro depth rest hdepth
  rw [List.append_assoc, hcs _ _ hdepth, hds _ _ hdepth, Option.map_map]
  congr 1
  funext parts
  simp

theorem Passes.cons (hc : c ≠ '(' ∧ c ≠ ')') (hcs : Passes cs) :
  Passes (c :: cs)
  := by
  intro depth rest hdepth
  rw [List.cons_append, Source.cutAtClosing?_cons, if_neg (fun h => hc.2 h.1), Source.depthAfter,
    if_neg hc.1, if_neg hc.2, hcs _ _ hdepth, Option.map_map]
  rfl

theorem passes_of_forall (h : ∀ c ∈ cs, c ≠ '(' ∧ c ≠ ')') :
  Passes cs
  := by
  induction cs with
  | nil => exact passes_nil
  | cons c cs ih =>
    obtain ⟨hc, hcs⟩ := List.forall_mem_cons.1 h
    exact .cons hc (ih hcs)

theorem IsContent.passes (h : IsContent cs) :
  Passes cs
  := by
  apply passes_of_forall
  intro c hc
  have hnot := h c hc
  simp only [List.mem_cons, List.not_mem_nil, or_false, not_or] at hnot
  exact ⟨hnot.2.2.1, hnot.2.2.2.1⟩

theorem passes_hashes (hashes : Nat) :
  Passes (List.replicate hashes '#')
  := by
  apply passes_of_forall
  intro c hc
  rw [List.eq_of_mem_replicate hc]
  decide

/-- Parentheses around a text that leaves them open are closed behind it. -/
theorem Passes.parentheses (hcs : Passes cs) (hds : Passes ds) :
  Passes ('(' :: (cs ++ ')' :: ds))
  := by
  intro depth rest hdepth
  have hopen : Source.depthAfter '(' ')' depth '(' = depth + 1 := rfl
  have hclose : Source.depthAfter '(' ')' (depth + 1) ')' = depth := by
    rw [Source.depthAfter, if_neg (by decide), if_pos rfl]
    omega
  have hopened : ¬ (')' = ')' ∧ depth = 0) := by
    rintro ⟨-, rfl⟩
    omega
  have htext : '(' :: (cs ++ ')' :: ds) ++ rest = '(' :: (cs ++ ')' :: (ds ++ rest)) := by simp
  rw [htext, Source.cutAtClosing?_cons, if_neg (by simp), hopen, hcs _ _ (by omega),
    Source.cutAtClosing?_cons, hclose, if_neg hopened, hds _ _ hdepth, Option.map_map,
    Option.map_map, Option.map_map]
  congr 1
  funext parts
  simp

/-- A nested text leaves the parentheses around it open. -/
theorem IsNested.passes (h : IsNested angles inside cs) :
  Passes cs
  := by
  induction h with
  | nil => exact passes_nil
  | plain hplain _ _ _ ih =>
    have hnot := hplain.1
    simp only [List.mem_cons, List.not_mem_nil, or_false, not_or] at hnot
    exact .cons ⟨hnot.2.2.2.1, hnot.2.2.2.2.1⟩ ih
  | comma _ ih => exact .cons (by decide) ih
  | group b _ _ _ _ ihinner ih =>
    cases b with
    | round => exact ihinner.parentheses ih
    | square => exact .cons (by decide) (ihinner.append (.cons (by decide) ih))
    | curly => exact .cons (by decide) (ihinner.append (.cons (by decide) ih))
    | angle => exact .cons (by decide) (ihinner.append (.cons (by decide) ih))
  | literal _ hcontent _ ih =>
    exact .cons (by decide) (hcontent.passes.append (.cons (by decide) ih))
  | rawLiteral _ hashes hcontent _ ih =>
    exact .cons (by decide) ((passes_hashes hashes).append (.cons (by decide)
      (hcontent.passes.append (.cons (by decide) ((passes_hashes hashes).append ih)))))
  | lifetime _ _ _ _ ih => exact .cons (by decide) ih
  | arrow _ hshaft _ ih =>
    obtain rfl | rfl := hshaft
    · exact .cons (by decide) (.cons (by decide) ih)
    · exact .cons (by decide) (.cons (by decide) ih)

/-- A parenthesis is closed behind a nested text. -/
theorem IsNested.cutAtClosing?_append (h : IsNested angles inside cs) (rest : List Char) :
  Source.cutAtClosing? '(' ')' 1 (cs ++ ')' :: rest) = some (cs, ')' :: rest)
  := by
  rw [h.passes 1 _ (by decide), Source.cutAtClosing?_cons, if_pos (by decide)]
  simp

end

end AnchorIndex.Account

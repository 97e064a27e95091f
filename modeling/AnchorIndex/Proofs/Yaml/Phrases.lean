import AnchorIndex.Proofs.Yaml.Cursors
import AnchorIndex.Yaml.Scalar

/-!
# Plain scalars on one line

A line that begins as a plain scalar is a phrase, which is the scalar, and a tail (`exists_phrase`).
The tail is blank or a comment (`IsTrail`), or it begins with what can neither belong to the scalar
nor follow it (`IsObstacle`). Reading a plain scalar that no further line continues answers its
phrase (`readPlain_of_phrase`). A line without a tail is one in which nothing ends the scalar early
(`isUnbroken`).
-/

namespace AnchorIndex.Yaml

/-! ### Words -/

theorem plainLength_cons (c : Char) (r : List Char) :
  plainLength false (c :: r)
    = if isGap c = true ∨ c = ':' ∧ isGapOrEnd r.head? = true then 0 else plainLength false r + 1
  := by
  rw [plainLength]
  simp

/-- A word ends at a gap as it does at the end of the text. -/
theorem plainLength_append_gap {c : Char} (hc : isGap c = true) (x r : List Char) :
  plainLength false (x ++ c :: r) = plainLength false x
  := by
  induction x with
  | nil =>
    rw [List.nil_append, plainLength_cons, if_pos (.inl hc)]
    rfl
  | cons a x ih =>
    have hhead : isGapOrEnd (x ++ c :: r).head? = isGapOrEnd x.head? := by
      cases x with
      | nil => simpa [isGapOrEnd] using hc
      | cons b x => rfl
    rw [List.cons_append, plainLength_cons, plainLength_cons, ih, hhead]

theorem plainLength_le (cs : List Char) :
  plainLength false cs ≤ cs.length
  := by
  induction cs with
  | nil => exact Nat.le_refl 0
  | cons c r ih =>
    rw [plainLength_cons, List.length_cons]
    split <;> omega

/-- Behind a word there is nothing that belongs to it. -/
theorem plainLength_drop (cs : List Char) :
  plainLength false (cs.drop (plainLength false cs)) = 0
  := by
  induction cs with
  | nil => rfl
  | cons c r ih =>
    rw [plainLength_cons]
    split
    next h => rw [List.drop_zero, plainLength_cons, if_pos h]
    next => rw [List.drop_succ_cons, ih]

/-! ### Phrases -/

/-- What may follow a plain scalar on its line: spaces, and a comment behind spaces. -/
inductive IsTrail : List Char → Prop where
  | blank (n : Nat) : IsTrail (List.replicate n ' ')
  | comment (n : Nat) (cs : List Char) : IsTrail (List.replicate (n + 1) ' ' ++ '#' :: cs)

/-- What neither belongs to a plain scalar nor can follow it, perhaps behind spaces: a tab, and a
colon in front of a gap or at the end of the line. -/
inductive IsObstacle : List Char → Prop where
  | tab (n : Nat) (cs : List Char) : IsObstacle (List.replicate n ' ' ++ '\t' :: cs)
  | colon (n : Nat) (cs : List Char) (h : isGapOrEnd cs.head? = true) :
    IsObstacle (List.replicate n ' ' ++ ':' :: cs)

/-- Words with spaces between them, none of which ends the plain scalar that they make up in front
of a tail. -/
inductive Phrase (tail : List Char) : List Char → Prop where
  | last {x : List Char} (hx : x ≠ []) (hword : plainLength false (x ++ tail) = x.length) :
    Phrase tail x
  | next {x text : List Char} (n : Nat) (hx : x ≠ []) (hword : plainLength false x = x.length)
    (hhash : text.head? ≠ some '#') (h : Phrase tail text) :
    Phrase tail (x ++ (List.replicate (n + 1) ' ' ++ text))

theorem Phrase.ne_nil {tail text : List Char} (h : Phrase tail text) :
  text ≠ []
  := by
  cases h with
  | last hx hword => exact hx
  | next n hx hword hhash h => exact List.append_ne_nil_of_left_ne_nil hx _

/-- A line on which no plain scalar begins is a tail, unless it is a comment. -/
theorem isTrail_or_isObstacle {cs : List Char} (hline : OnOneLine cs) (n : Nat)
    (hcs : plainLength false cs = 0) (hspace : cs.head? ≠ some ' ') :
  IsTrail (List.replicate n ' ' ++ cs) ∨ IsObstacle (List.replicate n ' ' ++ cs)
  := by
  cases cs with
  | nil =>
    left
    rw [List.append_nil]
    exact .blank n
  | cons c r =>
    right
    rw [plainLength_cons] at hcs
    split at hcs
    next hstop =>
      obtain hgap | ⟨rfl, hend⟩ := hstop
      · have hbreak : isBreak c = false := hline c List.mem_cons_self
        have hne : c ≠ ' ' := fun h => hspace (by rw [h]; rfl)
        obtain rfl : c = '\t' := by simpa [isGap, hbreak, hne] using hgap
        exact .tab n r
      · exact .colon n r hend
    next => cases hcs

/-- A line that begins as a plain scalar is a phrase and a tail. -/
theorem exists_phrase {cs : List Char} (hline : OnOneLine cs) (hcs : 0 < plainLength false cs) :
  ∃ text tail, cs = text ++ tail ∧ Phrase tail text ∧ (IsTrail tail ∨ IsObstacle tail)
  := by
  induction hlen : cs.length using Nat.strongRecOn generalizing cs with
  | ind len ih =>
    subst hlen
    -- the first word, the spaces behind it, and what is left of the line
    obtain ⟨x, rest, hsplit, hx⟩ : ∃ x rest, cs = x ++ rest ∧ x.length = plainLength false cs :=
      ⟨_, _, (List.take_append_drop (plainLength false cs) cs).symm,
        by rw [List.length_take, min_eq_left (plainLength_le cs)]⟩
    have hrest : plainLength false rest = 0 := by
      have hdrop := plainLength_drop cs
      rwa [← hx, hsplit, List.drop_left] at hdrop
    have hne : x ≠ [] := by
      rw [← List.length_pos_iff, hx]
      exact hcs
    obtain ⟨-, hlineRest⟩ := onOneLine_append_iff.1 (hsplit ▸ hline)
    obtain ⟨n, more, rfl, hmore⟩ := exists_spaces rest
    obtain ⟨-, hlineMore⟩ := onOneLine_append_iff.1 hlineRest
    have hlast : plainLength false (x ++ (List.replicate n ' ' ++ more)) = x.length := by
      rw [← hsplit, hx]
    by_cases hstop : plainLength false more = 0
    · have htail := isTrail_or_isObstacle hlineMore n hstop hmore
      exact ⟨x, _, hsplit, .last hne hlast, htail⟩
    · -- a word follows, so there are spaces in front of it
      obtain ⟨m, rfl⟩ : ∃ m, n = m + 1 := by
        cases n with
        | zero => exact absurd hrest hstop
        | succ m => exact ⟨m, rfl⟩
      by_cases hhash : more.head? = some '#'
      · obtain ⟨cs', rfl⟩ := List.head?_eq_some_iff.1 hhash
        exact ⟨x, _, hsplit, .last hne hlast, .inl (.comment m cs')⟩
      · have hshort : more.length < cs.length := by
          rw [hsplit]
          simp
          omega
        obtain ⟨text, tail, rfl, htext, htail⟩ :=
          ih more.length hshort hlineMore (Nat.pos_of_ne_zero hstop) rfl
        refine ⟨x ++ (List.replicate (m + 1) ' ' ++ text), tail, ?_, .next m hne ?_ ?_ htext, htail⟩
        · rw [hsplit]
          simp
        · rw [hx, hsplit, List.replicate_succ, List.cons_append, plainLength_append_gap rfl]
        · intro h
          apply hhash
          rw [List.head?_append, h]
          rfl

theorem Phrase.isGap_head {tail text : List Char} (h : Phrase tail text) {c : Char}
    (hc : text.head? = some c) :
  isGap c = false
  := by
  have hword {x r : List Char} (hx : x ≠ []) (hword : plainLength false (x ++ r) = x.length)
      (hc : x.head? = some c) : isGap c = false := by
    obtain ⟨x, rfl⟩ := List.head?_eq_some_iff.1 hc
    rw [List.cons_append, plainLength_cons, List.length_cons] at hword
    split at hword
    next => cases hword
    next hstop => simpa using fun hgap => hstop (.inl hgap)
  cases h with
  | last hx hlen => exact hword hx hlen hc
  | next n hx hlen hhash h =>
    apply hword hx (r := []) (by rwa [List.append_nil])
    rwa [List.head?_append_of_ne_nil _ hx] at hc

/-! ### Unbroken lines -/

/-- Nothing ends a plain scalar before the end of the line: there is no tab and no end of a line, no
colon in front of a space or at the end, no `#` behind a space, and no space at the end. -/
def isUnbroken : List Char → Bool
  | [] => true
  | [c] => !isGap c && c != ':'
  | c :: d :: r =>
    (c == ' ' || !isGap c) && !(c == ':' && isGap d) && !(c == ' ' && d == '#')
      && isUnbroken (d :: r)

theorem isUnbroken_of_append {a b : List Char} (h : isUnbroken (a ++ b) = true) :
  isUnbroken b = true
  := by
  induction a with
  | nil => exact h
  | cons c a ih =>
    apply ih
    cases hab : a ++ b with
    | nil => rfl
    | cons d r =>
      rw [List.cons_append, hab, isUnbroken, Bool.and_eq_true] at h
      exact h.2

theorem onOneLine_of_isUnbroken {cs : List Char} (h : isUnbroken cs = true) :
  OnOneLine cs
  := by
  induction cs with
  | nil => simp [OnOneLine]
  | cons c cs ih =>
    have hc : isBreak c = false := by
      have hspace : c = ' ' ∨ isGap c = false := by
        cases cs <;> simp_all [isUnbroken]
      obtain rfl | hgap := hspace
      · rfl
      · exact (Bool.or_eq_false_iff.1 hgap).2
    exact List.forall_mem_cons.2 ⟨hc, ih (isUnbroken_of_append (a := [c]) h)⟩

/-- Neither a trail nor an obstacle is unbroken. -/
theorem eq_nil_of_isUnbroken {tail : List Char} (h : IsTrail tail ∨ IsObstacle tail)
    (hunbroken : isUnbroken tail = true) :
  tail = []
  := by
  obtain (n | ⟨n, cs⟩) | (⟨n, cs⟩ | ⟨n, cs, hend⟩) := h
  · cases n with
    | zero => rfl
    | succ n =>
      rw [List.replicate_succ'] at hunbroken
      exact absurd (isUnbroken_of_append hunbroken) (by decide)
  · rw [List.replicate_succ', List.append_assoc] at hunbroken
    exact absurd (isUnbroken_of_append hunbroken) Bool.false_ne_true
  · have htab := isUnbroken_of_append hunbroken
    cases cs <;> exact absurd htab Bool.false_ne_true
  · have hcolon := isUnbroken_of_append hunbroken
    cases cs with
    | nil => exact absurd hcolon Bool.false_ne_true
    | cons d cs =>
      have hgap : isGap d = true := hend
      simp [isUnbroken, hgap] at hcolon

/-- An unbroken line on which a plain scalar begins is one phrase. -/
theorem phrase_of_isUnbroken {cs : List Char} (hline : OnOneLine cs)
    (hcs : 0 < plainLength false cs) (h : isUnbroken cs = true) :
  Phrase [] cs
  := by
  obtain ⟨text, tail, rfl, htext, htail⟩ := exists_phrase hline hcs
  obtain rfl := eq_nil_of_isUnbroken htail (isUnbroken_of_append h)
  rwa [List.append_nil]

theorem isUnbroken_word {x rest : List Char} (hx : plainLength false x = x.length)
    (hrest : isUnbroken rest = true) (hhead : ∀ c ∈ rest.head?, c = ' ') :
  isUnbroken (x ++ rest) = true
  := by
  induction x with
  | nil => exact hrest
  | cons c x ih =>
    rw [plainLength_cons, List.length_cons] at hx
    split at hx
    next => cases hx
    next hgoes =>
      have hgap : isGap c = false := by simpa using fun hgap => hgoes (.inl hgap)
      have hcolon (hend : isGapOrEnd x.head? = true) : c ≠ ':' := fun h => hgoes (.inr ⟨h, hend⟩)
      have hspace : c ≠ ' ' := by
        rintro rfl
        cases hgap
      have hih := ih (Nat.succ.inj hx)
      cases hnext : x ++ rest with
      | nil =>
        obtain ⟨rfl, rfl⟩ := List.append_eq_nil_iff.1 hnext
        simp [isUnbroken, hgap, hcolon rfl]
      | cons d r =>
        have hjoint : c = ':' → isGap d = false := by
          rintro rfl
          cases x with
          | nil => exact absurd rfl (hcolon rfl)
          | cons y x =>
            obtain ⟨rfl, -⟩ := List.cons.inj hnext
            simpa [isGapOrEnd] using fun hend => hcolon hend rfl
        rw [hnext] at hih
        rw [List.cons_append, hnext, isUnbroken, hih]
        simpa [hgap, hspace] using Decidable.not_or_of_imp hjoint

/-- A phrase is unbroken. -/
theorem Phrase.isUnbroken {text : List Char} (h : Phrase [] text) :
  isUnbroken text = true
  := by
  induction h with
  | @last x hx hword =>
    rw [List.append_nil] at hword
    rw [← List.append_nil x]
    exact isUnbroken_word hword rfl (by simp)
  | @next x text n hx hword hhash h ih =>
    apply isUnbroken_word hword
    · induction n with
      | zero =>
        obtain ⟨d, text, rfl⟩ := List.exists_cons_of_ne_nil h.ne_nil
        simpa [Yaml.isUnbroken, ih] using hhash
      | succ n ihn =>
        rw [List.replicate_succ, List.cons_append, List.replicate_succ, List.cons_append,
          Yaml.isUnbroken]
        exact ihn
    · rintro c ⟨⟩
      rfl

/-! ### Gaps behind words -/

/-- Spaces on one line count as they are. -/
theorem plainGap_spaces {c : Cursor} {n : Nat} {r : List Char}
    (hrest : c.rest = List.replicate n ' ' ++ r)
    (hr : ∀ ch ∈ r.head?, isBreak ch = false ∧ ch ≠ ' ') :
  plainGap c = (List.replicate n ' ', c.skip n, false)
  := by
  have hnone : (c.skip n).lineBreak? = none := by
    apply Cursor.lineBreak?_eq_none
    rw [Cursor.rest_skip_spaces hrest]
    exact fun ch hch => (hr ch hch).1
  rw [plainGap, hrest, takeWhile_spaces fun ch hch => (hr ch hch).2, List.length_replicate, hnone]

/-- One word of a plain scalar. -/
theorem plainParts_word {c : Cursor} {x r : List Char} (hrest : c.rest = x ++ r) (hx : x ≠ [])
    (hword : plainLength false (x ++ r) = x.length) (hhash : x.head? ≠ some '#') (fuel : Nat)
    (indent : Int) (acc gap : List Char) (broke : Bool) :
  plainParts (fuel + 1) false indent acc gap broke c
    = if (plainGap (c.skip x.length)).1 = [] ∨ (plainGap (c.skip x.length)).2.1.head = some '#' ∨
          ((plainGap (c.skip x.length)).2.1.column : Int) ≤ indent
      then ⟨acc ++ gap ++ x, (plainGap (c.skip x.length)).2.1, (plainGap (c.skip x.length)).2.2⟩
      else plainParts fuel false indent (acc ++ gap ++ x) (plainGap (c.skip x.length)).1
        (plainGap (c.skip x.length)).2.2 (plainGap (c.skip x.length)).2.1
  := by
  have hhead : ¬ (c.head = some '#' ∨ x.length = 0) := by
    rw [Cursor.head, hrest, List.head?_append_of_ne_nil _ hx]
    simp [hhash, hx]
  rw [plainParts, hrest, hword, if_neg hhead, List.take_left]
  simp [or_assoc]

theorem plainParts_of_no_word {c : Cursor} (h : plainLength false c.rest = 0) (fuel : Nat)
    (indent : Int) (acc gap : List Char) (broke : Bool) :
  plainParts fuel false indent acc gap broke c = ⟨acc, c, broke⟩
  := by
  cases fuel with
  | zero => rfl
  | succ fuel => rw [plainParts, h, if_pos (.inr rfl)]

/-- Behind the gap the plain scalar does not go on: there is no gap at all, or a comment follows,
or a line that does not stand right of `indent`, or what is no word. -/
def EndsScalar (indent : Int) (gap : List Char × Cursor × Bool) : Prop :=
  gap.1 = [] ∨ gap.2.1.head = some '#' ∨ (gap.2.1.column : Int) ≤ indent ∨
    plainLength false gap.2.1.rest = 0

/-- The word in front of a gap that ends the plain scalar is its last one. -/
theorem plainParts_lastWord {c : Cursor} {x r : List Char} {indent : Int} (hrest : c.rest = x ++ r)
    (hx : x ≠ []) (hword : plainLength false (x ++ r) = x.length) (hhash : x.head? ≠ some '#')
    (hends : EndsScalar indent (plainGap (c.skip x.length))) (fuel : Nat) (acc gap : List Char)
    (broke : Bool) :
  plainParts (fuel + 1) false indent acc gap broke c
    = ⟨acc ++ gap ++ x, (plainGap (c.skip x.length)).2.1, (plainGap (c.skip x.length)).2.2⟩
  := by
  rw [plainParts_word hrest hx hword hhash]
  split
  next => rfl
  next hgoes =>
    obtain h | h | h | h := hends
    · exact absurd (.inl h) hgoes
    · exact absurd (.inr (.inl h)) hgoes
    · exact absurd (.inr (.inr h)) hgoes
    · exact plainParts_of_no_word h _ _ _ _ _

theorem plainParts_of_phrase {tail text r : List Char} {indent : Int} (h : Phrase tail text)
    (hline : OnOneLine text) {c : Cursor} (hrest : c.rest = text ++ (tail ++ '\n' :: r))
    (hhash : text.head? ≠ some '#') (hindent : indent < c.column)
    (hends : EndsScalar indent (plainGap (c.skip text.length))) {fuel : Nat}
    (hfuel : text.length < fuel) (acc gap : List Char) (broke : Bool) :
  plainParts fuel false indent acc gap broke c
    = ⟨acc ++ gap ++ text, (plainGap (c.skip text.length)).2.1, (plainGap (c.skip text.length)).2.2⟩
  := by
  induction h generalizing c fuel acc gap broke with
  | @last x hx hword =>
    obtain ⟨fuel, rfl⟩ := Nat.exists_eq_succ_of_ne_zero (Nat.ne_zero_of_lt hfuel)
    apply plainParts_lastWord hrest hx _ hhash hends
    rw [← List.append_assoc, plainLength_append_gap rfl, hword]
  | @next x text n hx hword hnext h ih =>
    obtain ⟨fuel, rfl⟩ := Nat.exists_eq_succ_of_ne_zero (Nat.ne_zero_of_lt hfuel)
    obtain ⟨hlineX, hlineRest⟩ := onOneLine_append_iff.1 hline
    obtain ⟨-, hlineText⟩ := onOneLine_append_iff.1 hlineRest
    have hrestX : c.rest = x ++ (List.replicate (n + 1) ' ' ++ (text ++ (tail ++ '\n' :: r))) := by
      rw [hrest, List.append_assoc, List.append_assoc]
    obtain ⟨hbehind, -, -, hcolumn⟩ := Cursor.skip_onOneLine hlineX hrestX
    have hgap : plainGap (c.skip x.length)
        = (List.replicate (n + 1) ' ', (c.skip x.length).skip (n + 1), false) := by
      apply plainGap_spaces hbehind
      intro ch hch
      rw [List.head?_append_of_ne_nil _ h.ne_nil] at hch
      have hsolid := h.isGap_head hch
      simp only [isGap, Bool.or_eq_false_iff] at hsolid
      exact ⟨hsolid.2, by simpa using hsolid.1.1⟩
    obtain ⟨hnext', -, -, hcolumn'⟩ :=
      Cursor.skip_onOneLine (onOneLine_replicate_space (n + 1)) hbehind
    rw [List.length_replicate] at hnext' hcolumn'
    have hword' :
        plainLength false (x ++ (List.replicate (n + 1) ' ' ++ (text ++ (tail ++ '\n' :: r))))
          = x.length := by
      rw [List.replicate_succ, List.cons_append, plainLength_append_gap rfl, hword]
    have hhashX : x.head? ≠ some '#' := by rwa [List.head?_append_of_ne_nil _ hx] at hhash
    rw [List.length_append, List.length_append, List.length_replicate, Cursor.skip_add,
      Cursor.skip_add] at hends ⊢
    rw [plainParts_word hrestX hx hword' hhashX, hgap, if_neg]
    · rw [ih hlineText hnext' hnext (by omega) hends (by simp at hfuel; omega)]
      simp
    · rintro (hnil | hhead | hleft)
      · cases hnil
      · rw [Cursor.head, hnext', List.head?_append_of_ne_nil _ h.ne_nil] at hhead
        exact hnext hhead
      · dsimp only at hleft
        omega

/-- A plain scalar that no further line continues is the phrase at the cursor. -/
theorem readPlain_of_phrase {tail text r : List Char} {indent : Int} (h : Phrase tail text)
    (hline : OnOneLine text) {c : Cursor} (hrest : c.rest = text ++ (tail ++ '\n' :: r))
    (hhash : text.head? ≠ some '#') (hindent : indent < c.column)
    (hends : EndsScalar indent (plainGap (c.skip text.length))) :
  readPlain false indent c
    = ⟨text, (plainGap (c.skip text.length)).2.1, (plainGap (c.skip text.length)).2.2⟩
  := by
  apply plainParts_of_phrase h hline hrest hhash hindent hends
  rw [hrest, List.length_append]
  omega

/-- Reading one word in front of what ends the plain scalar at once. -/
theorem readPlain_word {x r : List Char} {indent : Int} {c : Cursor} (hrest : c.rest = x ++ r)
    (hx : x ≠ []) (hword : plainLength false (x ++ r) = x.length) (hhash : x.head? ≠ some '#')
    (hends : EndsScalar indent (plainGap (c.skip x.length))) :
  readPlain false indent c
    = ⟨x, (plainGap (c.skip x.length)).2.1, (plainGap (c.skip x.length)).2.2⟩
  := plainParts_lastWord hrest hx hword hhash hends _ _ _ _

end AnchorIndex.Yaml

import AnchorIndex.Source.Split
import AnchorIndex.Proofs.Datum.Traversal
import AnchorIndex.Proofs.Text.Squeezing
import AnchorIndex.Proofs.Source.Fragments

/-!
# Brackets and separators

The text of a bracket is found up to the character that closes it, whatever follows this one
(`cutAtClosing?_append`). A list is split into its parts if each leaves the brackets and literals as
it finds them (`piecesFrom_joinWith`). So are lists with commas (`splitCommas_joinWith`), also if
they are squeezed before (`splitCommas_squeeze`).
-/

namespace AnchorIndex.Source

/-! ### Closing brackets -/

section

variable {opening closing : Char} {depth : Int} {cs inner rest : List Char}

/-- The number of open brackets after a character. -/
def depthAfter (opening closing : Char) (depth : Int) (c : Char) : Int :=
  if c = opening then depth + 1 else if c = closing then depth - 1 else depth

theorem cutAtClosing?_cons (opening closing : Char) (depth : Int) (c : Char) (cs : List Char) :
  cutAtClosing? opening closing depth (c :: cs)
    = if c = closing ∧ depthAfter opening closing depth c = 0 then some ([], c :: cs)
      else (cutAtClosing? opening closing (depthAfter opening closing depth c) cs).map
        fun parts => (c :: parts.1, parts.2)
  := by
  rw [cutAtClosing?, depthAfter]
  congr 1
  cases cutAtClosing? opening closing _ cs <;> rfl

/-- Cutting at a closing bracket loses nothing. -/
theorem eq_of_cutAtClosing? (h : cutAtClosing? opening closing depth cs = some (inner, rest)) :
  cs = inner ++ rest
  := by
  induction cs generalizing depth inner with
  | nil => contradiction
  | cons c cs ih =>
    rw [cutAtClosing?_cons] at h
    split at h
    · cases h
      rfl
    · obtain ⟨parts, hparts, heq⟩ := Option.map_eq_some_iff.1 h
      cases heq
      rw [ih hparts, List.cons_append]

/-- A bracket is closed at the same place if more text follows. -/
theorem cutAtClosing?_append (h : cutAtClosing? opening closing depth cs = some (inner, rest))
    (more : List Char) :
  cutAtClosing? opening closing depth (cs ++ more) = some (inner, rest ++ more)
  := by
  induction cs generalizing depth inner with
  | nil => contradiction
  | cons c cs ih =>
    rw [cutAtClosing?_cons] at h
    rw [List.cons_append, cutAtClosing?_cons]
    split at h
    next hclosed =>
      cases h
      rw [if_pos hclosed]
      rfl
    next hopen =>
      obtain ⟨parts, hparts, heq⟩ := Option.map_eq_some_iff.1 h
      cases heq
      rw [if_neg hopen, ih hparts]
      rfl

/-- If no bracket of a text closes, the search goes on behind it. -/
theorem cutAtClosing?_append_of_none (h : cutAtClosing? opening closing depth cs = none)
    (more : List Char) :
  cutAtClosing? opening closing depth (cs ++ more)
    = (cutAtClosing? opening closing (cs.foldl (depthAfter opening closing) depth) more).map
      fun parts => (cs ++ parts.1, parts.2)
  := by
  induction cs generalizing depth with
  | nil => simp
  | cons c cs ih =>
    rw [cutAtClosing?_cons] at h
    split at h
    next => contradiction
    next hopen =>
      rw [List.cons_append, cutAtClosing?_cons, if_neg hopen, ih (Option.map_eq_none_iff.1 h),
        Option.map_map]
      rfl

/-- A bracket that is open in front of a text is open behind it if none is closed in it. -/
theorem le_foldl_depthAfter (hdepth : 1 ≤ depth)
    (h : cutAtClosing? opening closing depth cs = none) :
  1 ≤ cs.foldl (depthAfter opening closing) depth
  := by
  induction cs generalizing depth with
  | nil => exact hdepth
  | cons c cs ih =>
    rw [cutAtClosing?_cons] at h
    split at h
    next => contradiction
    next hopen =>
      apply ih _ (Option.map_eq_none_iff.1 h)
      rw [depthAfter] at hopen ⊢
      split
      next => omega
      next hopening =>
        split
        next hclosing =>
          rw [if_neg hopening, if_pos hclosing] at hopen
          have hmore : depth - 1 ≠ 0 := fun hzero => hopen ⟨hclosing, hzero⟩
          omega
        next => exact hdepth

end

/-! ### Parts of a list -/

section

variable {isSeparator : Char → Bool} {angles : Bool} {n n' : Nesting} {c : Char}
variable {cs ds : List Char}

/-- Whatever stands at `n`, no character of the text splits the list there. -/
def Nesting.Quiet (isSeparator : Char → Bool) (angles : Bool) (n : Nesting) : List Char → Prop
  | [] => True
  | c :: cs =>
    n.splitsAt isSeparator angles c = false ∧ (n.feed angles c).Quiet isSeparator angles cs

theorem quiet_append :
  n.Quiet isSeparator angles (cs ++ ds)
    ↔ n.Quiet isSeparator angles cs
      ∧ (cs.foldl (Nesting.feed angles) n).Quiet isSeparator angles ds
  := by
  induction cs generalizing n with
  | nil => simp [Nesting.Quiet]
  | cons c cs ih =>
    rw [List.cons_append, Nesting.Quiet, Nesting.Quiet, ih, List.foldl_cons, and_assoc]

theorem exists_piecesFrom_eq_cons (isSeparator : Char → Bool) (angles : Bool) (n : Nesting)
    (cs : List Char) :
  ∃ p ps, piecesFrom isSeparator angles n cs = p :: ps
  := by
  induction cs generalizing n with
  | nil => exact ⟨[], [], rfl⟩
  | cons c cs ih =>
    obtain ⟨p, ps, hpieces⟩ := ih (n.feed angles c)
    rw [piecesFrom, hpieces]
    split
    · exact ⟨[], p :: ps, rfl⟩
    · exact ⟨c :: p, ps, rfl⟩

/-- A text in which no character splits belongs to the first piece. -/
theorem piecesFrom_append (h : n.Quiet isSeparator angles cs) :
  ∃ p ps, piecesFrom isSeparator angles (cs.foldl (Nesting.feed angles) n) ds = p :: ps
    ∧ piecesFrom isSeparator angles n (cs ++ ds) = (cs ++ p) :: ps
  := by
  induction cs generalizing n with
  | nil =>
    obtain ⟨p, ps, hpieces⟩ := exists_piecesFrom_eq_cons isSeparator angles n ds
    exact ⟨p, ps, hpieces, hpieces⟩
  | cons c cs ih =>
    obtain ⟨hsplit, hquiet⟩ := h
    obtain ⟨p, ps, hrest, hpieces⟩ := ih hquiet
    refine ⟨p, ps, hrest, ?_⟩
    rw [List.cons_append, piecesFrom, hpieces, hsplit]
    rfl

/-- Only separators split. -/
theorem splitsAt_eq_false (h : isSeparator c = false) :
  n.splitsAt isSeparator angles c = false
  := by
  simp [Nesting.splitsAt, h]

/-- The position is outside all brackets and literals. -/
def Nesting.AtTop (n : Nesting) : Prop :=
  n.depth = 0 ∧ n.quoted = false

/-- A list is split into its parts if each of them is quiet and leaves all brackets and literals
closed, wherever behind a separator it stands. -/
theorem piecesFrom_joinWith {starts : Nesting → Prop} {sep : Char}
    (hsep : ∀ n : Nesting, n.AtTop →
      n.splitsAt isSeparator angles sep = true ∧ starts (n.feed angles sep))
    {ps : List (List Char)} (hne : ps ≠ [])
    (h : ∀ p ∈ ps, ∀ n, starts n →
      n.Quiet isSeparator angles p ∧ (p.foldl (Nesting.feed angles) n).AtTop)
    (hstarts : starts n) :
  piecesFrom isSeparator angles n (Text.joinWith sep ps) = ps
  := by
  induction ps generalizing n with
  | nil => contradiction
  | cons p ps ih =>
    obtain ⟨hp, hps⟩ := List.forall_mem_cons.1 h
    obtain ⟨hquiet, htop⟩ := hp n hstarts
    cases ps with
    | nil =>
      have hjoin : Text.joinWith sep [p] = p ++ [] := by simp [Text.joinWith]
      obtain ⟨q, qs, hrest, hpieces⟩ := @piecesFrom_append isSeparator angles n p [] hquiet
      cases hrest
      rw [hjoin, hpieces, List.append_nil]
    | cons p' ps =>
      obtain ⟨hsplit, hstarts'⟩ := hsep _ htop
      obtain ⟨q, qs, hrest, hpieces⟩ :=
        @piecesFrom_append isSeparator angles n p (sep :: Text.joinWith sep (p' :: ps)) hquiet
      rw [piecesFrom, hsplit, ih (List.cons_ne_nil _ _) hps hstarts'] at hrest
      cases hrest
      rw [Text.joinWith_cons_cons, hpieces, List.append_nil]

/-- The character is no quote and no bracket. Angle brackets are brackets if `angles` says so. -/
def IsOrdinary (angles : Bool) (c : Char) : Prop :=
  c ∉ ['"', '(', ')', '[', ']', '{', '}'] ∧ (angles = true → c ≠ '<' ∧ c ≠ '>')

instance (angles : Bool) (c : Char) : Decidable (IsOrdinary angles c) :=
  inferInstanceAs (Decidable (_ ∧ _))

theorem IsOrdinary.bracketStep_eq (h : IsOrdinary angles c) (previous : Option Char) :
  bracketStep angles previous c = 0
  := by
  obtain ⟨hnot, hangles⟩ := h
  simp only [List.mem_cons, List.not_mem_nil, or_false, not_or] at hnot
  cases angles with
  | false => simp [bracketStep, hnot]
  | true => simp [bracketStep, hnot, hangles rfl]

/-- An ordinary character leaves brackets and literals as they are. -/
theorem IsOrdinary.feed (h : IsOrdinary angles c) (n : Nesting) :
  n.feed angles c = ⟨n.depth, n.quoted, some c⟩
  := by
  have hquote : c ≠ '"' := fun heq => h.1 (by simp [heq])
  rw [Nesting.feed, h.bracketStep_eq, if_neg hquote, Int.add_zero]
  cases hquoted : n.quoted with
  | true => simp [hquote]
  | false => simp

/-- Inside brackets an ordinary character splits no list. -/
theorem IsOrdinary.splitsAt_of_depth (h : IsOrdinary angles c) (hdepth : n.depth ≠ 0) :
  n.splitsAt isSeparator angles c = false
  := by
  rw [Nesting.splitsAt, h.feed n]
  simp [hdepth]

/-- A separator that is an ordinary character splits at the top level of the list. -/
theorem IsOrdinary.splitsAt {sep : Char} (h : IsOrdinary angles sep) (hn : n.AtTop) :
  n.splitsAt (· == sep) angles sep = true ∧ (n.feed angles sep).AtTop
  := by
  obtain ⟨hdepth, hquoted⟩ := hn
  rw [Nesting.splitsAt, h.feed n, hdepth, hquoted]
  exact ⟨by simp, rfl, rfl⟩

theorem isOrdinary_comma :
  IsOrdinary angles ','
  := ⟨by decide, fun _ => by decide⟩

theorem isOrdinary_shaft (h : c = '-' ∨ c = '=') :
  IsOrdinary angles c
  := by
  obtain rfl | rfl := h
  · exact ⟨by decide, fun _ => by decide⟩
  · exact ⟨by decide, fun _ => by decide⟩

/-- A character after which a quote closes a literal and an angle bracket is no tip of an
arrow. -/
def Idle (previous : Option Char) : Prop :=
  previous ≠ some '\\' ∧ previous ≠ some '-' ∧ previous ≠ some '='

/-- The text is one part of a list: at the top level of the list it leaves all brackets and
literals as it finds them, and no comma in it splits the list. -/
def IsPart (angles : Bool) (cs : List Char) : Prop :=
  ∀ n : Nesting, n.depth = 0 → n.quoted = false → Idle n.previous →
    n.Quiet (· == ',') angles cs ∧ (cs.foldl (Nesting.feed angles) n).depth = 0
      ∧ (cs.foldl (Nesting.feed angles) n).quoted = false

/-- The items of a list are its parts, trimmed, but for the blank ones. -/
theorem splitCommas_joinWith {ps : List (List Char)} (h : ∀ p ∈ ps, IsPart angles p) :
  splitCommas angles (Text.joinWith ',' ps) = (ps.map Text.strip).filter (!·.isEmpty)
  := by
  cases ps with
  | nil => rfl
  | cons p ps =>
    have hcomma : ∀ n : Nesting, n.AtTop → n.splitsAt (· == ',') angles ',' = true
        ∧ (n.feed angles ',').AtTop ∧ Idle (n.feed angles ',').previous := by
      intro n hn
      obtain ⟨hsplit, htop⟩ := (@isOrdinary_comma angles).splitsAt hn
      refine ⟨hsplit, htop, ?_⟩
      rw [(@isOrdinary_comma angles).feed n]
      simp [Idle]
    have hpieces := @piecesFrom_joinWith (· == ',') angles .start
      (fun n => n.AtTop ∧ Idle n.previous) ',' hcomma (p :: ps) (List.cons_ne_nil p ps)
      (fun q hq n hn => h q hq n hn.1.1 hn.1.2 hn.2) ⟨⟨rfl, rfl⟩, by simp [Idle, Nesting.start]⟩
    rw [splitCommas, splitTopLevel, hpieces]

/-! ### Squeezed parts -/

theorem idle_of_isBlank (h : Text.isBlank c = true) :
  Idle (some c)
  := by
  have hne : ∀ {d : Char}, Text.isBlank d = false → some c ≠ some d := by
    intro d hd heq
    cases heq
    exact ne_of_isBlank h hd rfl
  exact ⟨hne (by decide), hne (by decide), hne (by decide)⟩

theorem isOrdinary_of_isBlank (h : Text.isBlank c = true) :
  IsOrdinary angles c
  := by
  have hne : ∀ {d : Char}, Text.isBlank d = false → c ≠ d := ne_of_isBlank h
  have hmarks : ['"', '(', ')', '[', ']', '{', '}'].all (!Text.isBlank ·) = true := by decide
  constructor
  · intro hmem
    have hc := List.all_eq_true.1 hmarks c hmem
    rw [h] at hc
    contradiction
  · exact fun _ => ⟨hne (by decide), hne (by decide)⟩

/-- Blanks leave brackets and literals as they are, and split no list. -/
theorem feed_blank (h : Text.isBlank c = true) (n : Nesting) :
  n.feed angles c = ⟨n.depth, n.quoted, some c⟩ ∧ n.splitsAt (· == ',') angles c = false
  := by
  have hcomma : c ≠ ',' := ne_of_isBlank h (by decide)
  exact ⟨(isOrdinary_of_isBlank h).feed n, splitsAt_eq_false (beq_eq_false_iff_ne.2 hcomma)⟩

/-- What is read behind two positions is the same if they have the same depth, lie both in a literal
or both not, and the characters before them are the same or matter to none. -/
structure Nesting.Alike (n n' : Nesting) : Prop where
  depth_eq : n.depth = n'.depth
  quoted_eq : n.quoted = n'.quoted
  previous : n.previous = n'.previous ∨ Idle n.previous ∧ Idle n'.previous

theorem Nesting.Alike.feed (h : n.Alike n') (angles : Bool) (c : Char) :
  (n.feed angles c).Alike (n'.feed angles c)
    ∧ n.splitsAt (· == ',') angles c = n'.splitsAt (· == ',') angles c
  := by
  obtain ⟨hdepth, hquoted, hprevious⟩ := h
  have hsame : (n.previous != some '\\') = (n'.previous != some '\\')
      ∧ (n.previous != some '-') = (n'.previous != some '-')
      ∧ (n.previous != some '=') = (n'.previous != some '=') := by
    obtain heq | ⟨⟨h₁, h₂, h₃⟩, h₁', h₂', h₃'⟩ := hprevious
    · rw [heq]
      exact ⟨rfl, rfl, rfl⟩
    · rw [bne_iff_ne.2 h₁, bne_iff_ne.2 h₂, bne_iff_ne.2 h₃, bne_iff_ne.2 h₁', bne_iff_ne.2 h₂',
        bne_iff_ne.2 h₃']
      exact ⟨rfl, rfl, rfl⟩
  have hstep : bracketStep angles n.previous c = bracketStep angles n'.previous c := by
    rw [bracketStep, bracketStep, hsame.2.1, hsame.2.2]
  have hfeed : n.feed angles c = n'.feed angles c := by
    rw [Nesting.feed, Nesting.feed, hquoted, hdepth, hsame.1, hstep]
  rw [Nesting.splitsAt, Nesting.splitsAt, hquoted, hfeed]
  exact ⟨⟨rfl, rfl, .inl rfl⟩, rfl⟩

theorem foldl_feed_of_allBlank (h : Text.allBlank cs = true) (n : Nesting) :
  n.Quiet (· == ',') angles cs ∧ (cs.foldl (Nesting.feed angles) n).depth = n.depth
    ∧ (cs.foldl (Nesting.feed angles) n).quoted = n.quoted
    ∧ (Idle n.previous → Idle (cs.foldl (Nesting.feed angles) n).previous)
  := by
  induction cs generalizing n with
  | nil => exact ⟨trivial, rfl, rfl, id⟩
  | cons c cs ih =>
    rw [Text.allBlank, List.all_cons, Bool.and_eq_true] at h
    obtain ⟨hfeed, hsplit⟩ := @feed_blank angles c h.1 n
    obtain ⟨hquiet, hdepth, hquoted, hidle⟩ := ih h.2 (n.feed angles c)
    rw [hfeed] at hdepth hquoted hidle
    rw [List.foldl_cons, hfeed]
    exact ⟨⟨hsplit, hquiet⟩, hdepth, hquoted, fun _ => hidle (idle_of_isBlank h.1)⟩

/-- A squeezed text is quiet where the text is, and leaves brackets and literals as the text does.
If the text begins with a blank, what is in front of it must not matter for what is behind the
blank. -/
theorem foldl_feed_squeeze (hdepth : n.depth = n'.depth) (hquoted : n.quoted = n'.quoted)
    (hblank : (∃ c ∈ cs.head?, Text.isBlank c = true) → Idle n'.previous)
    (hsolid : (∃ c ∈ cs.head?, Text.isBlank c = false) → n.Alike n') :
  (n.Quiet (· == ',') angles cs → n'.Quiet (· == ',') angles (Text.squeeze cs))
    ∧ ((Text.squeeze cs).foldl (Nesting.feed angles) n').depth
      = (cs.foldl (Nesting.feed angles) n).depth
    ∧ ((Text.squeeze cs).foldl (Nesting.feed angles) n').quoted
      = (cs.foldl (Nesting.feed angles) n).quoted
  := by
  induction cs generalizing n n' with
  | nil => exact ⟨fun _ => trivial, hdepth.symm, hquoted.symm⟩
  | cons c cs ih =>
    by_cases hc : Text.isBlank c = true
    · have hidle := hblank ⟨c, rfl, hc⟩
      obtain ⟨hquiet, hrest⟩ := @ih (n.feed angles c) n' (by rw [(feed_blank hc n).1]; exact hdepth)
        (by rw [(feed_blank hc n).1]; exact hquoted) (fun _ => hidle)
        (fun _ => by
          rw [(feed_blank hc n).1]
          exact ⟨hdepth, hquoted, .inr ⟨idle_of_isBlank hc, hidle⟩⟩)
      rw [Text.squeeze_cons_blank hc, List.foldl_cons]
      exact ⟨fun h => hquiet h.2, hrest⟩
    have hc : Text.isBlank c = false := by simpa using hc
    obtain ⟨halike, hsplit⟩ := (hsolid ⟨c, rfl, hc⟩).feed angles c
    rw [List.foldl_cons]
    cases cs with
    | nil =>
      rw [Text.squeeze_singleton hc]
      exact ⟨fun h => ⟨hsplit.symm.trans h.1, trivial⟩, halike.depth_eq.symm,
        halike.quoted_eq.symm⟩
    | cons d cs =>
      by_cases hd : Text.isBlank d = true
      · rw [Text.squeeze_cons_gap hc hd]
        split
        next hend =>
          have hall : Text.allBlank (d :: cs) = true := by
            rw [Text.allBlank, List.all_cons, hd]
            exact hend
          obtain ⟨-, hdepth', hquoted', -⟩ :=
            @foldl_feed_of_allBlank angles _ hall (n.feed angles c)
          rw [hdepth', hquoted']
          exact ⟨fun h => ⟨hsplit.symm.trans h.1, trivial⟩, halike.depth_eq.symm,
            halike.quoted_eq.symm⟩
        next =>
          -- the space stands for the blanks, and the rest goes on behind it
          have hspace := @feed_blank angles ' ' (by decide) (n'.feed angles c)
          have hrest := @ih (n.feed angles c) ((n'.feed angles c).feed angles ' ')
            (by rw [hspace.1]; exact halike.depth_eq) (by rw [hspace.1]; exact halike.quoted_eq)
            (fun _ => by rw [hspace.1]; exact idle_of_isBlank (by decide))
            (by rintro ⟨e, he, hsolid⟩; cases he; rw [hd] at hsolid; contradiction)
          rw [Text.squeeze_cons_blank hd] at hrest
          exact ⟨fun h => ⟨hsplit.symm.trans h.1, hspace.2, hrest.1 h.2⟩, hrest.2⟩
      · have hd : Text.isBlank d = false := by simpa using hd
        rw [Text.squeeze_cons_solid hc hd]
        have hrest := ih halike.depth_eq halike.quoted_eq
          (by rintro ⟨e, he, hblank⟩; cases he; rw [hd] at hblank; contradiction) (fun _ => halike)
        exact ⟨fun h => ⟨hsplit.symm.trans h.1, hrest.1 h.2⟩, hrest.2⟩

/-- A part that is squeezed is a part, also with blanks around it. -/
theorem IsPart.squeeze (h : IsPart angles cs) {a b : List Char} (ha : Text.allBlank a = true)
    (hb : Text.allBlank b = true) :
  IsPart angles (a ++ (Text.squeeze cs ++ b))
  := by
  intro n hdepth hquoted hidle
  obtain ⟨hquiet, hdepth', hquoted'⟩ := h n hdepth hquoted hidle
  obtain ⟨hquietFront, hdepthFront, hquotedFront, hidleFront⟩ :=
    @foldl_feed_of_allBlank angles a ha n
  obtain ⟨hquietText, hdepthText, hquotedText⟩ := @foldl_feed_squeeze angles n
    (a.foldl (Nesting.feed angles) n) cs hdepthFront.symm hquotedFront.symm
    (fun _ => hidleFront hidle)
    (fun _ => ⟨hdepthFront.symm, hquotedFront.symm, .inr ⟨hidle, hidleFront hidle⟩⟩)
  obtain ⟨hquietBack, hdepthBack, hquotedBack, -⟩ := @foldl_feed_of_allBlank angles b hb
    ((Text.squeeze cs).foldl (Nesting.feed angles) (a.foldl (Nesting.feed angles) n))
  rw [quiet_append, quiet_append, List.foldl_append, List.foldl_append]
  exact ⟨⟨hquietFront, hquietText hquiet, hquietBack⟩, by rw [hdepthBack, hdepthText, hdepth'],
    by rw [hquotedBack, hquotedText, hquoted']⟩

/-- A squeezed list is a list of the squeezed parts, with blanks around them at most. -/
theorem exists_squeeze_joinWith (ps : List (List Char)) {a b : List Char}
    (ha : Text.allBlank a = true) (hb : Text.allBlank b = true) (hne : ps ≠ []) :
  ∃ qs, a ++ (Text.squeeze (Text.joinWith ',' ps) ++ b) = Text.joinWith ',' qs
    ∧ List.Forall₂ (fun p q => ∃ a b, Text.allBlank a = true ∧ Text.allBlank b = true
        ∧ q = a ++ (Text.squeeze p ++ b)) ps qs
  := by
  induction ps generalizing a with
  | nil => contradiction
  | cons p ps ih =>
    cases ps with
    | nil =>
      refine ⟨[a ++ (Text.squeeze p ++ b)], ?_, .cons ⟨a, b, ha, hb, rfl⟩ .nil⟩
      simp [Text.joinWith]
    | cons p' ps =>
      obtain ⟨x, y, hx, hy, -, hsqueeze⟩ := Text.squeeze_append_cons (c := ',') (by decide) p
        (Text.joinWith ',' (p' :: ps))
      obtain ⟨qs, hjoin, hparts⟩ := ih hy (List.cons_ne_nil p' ps)
      cases hparts with
      | @cons _ q _ qs hq hqs =>
        refine ⟨(a ++ (Text.squeeze p ++ x)) :: q :: qs, ?_,
          .cons ⟨a, x, ha, hx, rfl⟩ (.cons hq hqs)⟩
        rw [Text.joinWith_cons_cons, Text.joinWith_cons_cons, hsqueeze, ← hjoin]
        simp

theorem isPart_of_allBlank (h : Text.allBlank cs = true) :
  IsPart angles cs
  := by
  intro n hdepth hquoted _
  obtain ⟨hquiet, hdepth', hquoted', -⟩ := @foldl_feed_of_allBlank angles cs h n
  exact ⟨hquiet, by rw [hdepth', hdepth], by rw [hquoted', hquoted]⟩

/-- The items of a squeezed list are its squeezed parts, but for the blank ones. -/
theorem splitCommas_squeeze {ps : List (List Char)} (h : ∀ p ∈ ps, IsPart angles p)
    {a b : List Char} (ha : Text.allBlank a = true) (hb : Text.allBlank b = true) :
  splitCommas angles (a ++ (Text.squeeze (Text.joinWith ',' ps) ++ b))
    = (ps.map Text.squeeze).filter (!·.isEmpty)
  := by
  by_cases hps : ps = []
  · subst hps
    have hblank : Text.allBlank (a ++ b) = true := by rw [Text.allBlank_append, ha, hb]; rfl
    have hjoin : a ++ (Text.squeeze (Text.joinWith ',' []) ++ b) = Text.joinWith ',' [a ++ b] := by
      simp [Text.joinWith, Text.squeeze, Text.words]
    rw [hjoin, splitCommas_joinWith (by simpa using isPart_of_allBlank hblank)]
    simp [Text.strip_eq_nil_iff.2 hblank]
  · obtain ⟨qs, hjoin, hparts⟩ := exists_squeeze_joinWith ps ha hb hps
    have hqs : ∀ q ∈ qs, IsPart angles q := by
      intro q hq
      obtain ⟨p, hp, x, y, hx, hy, rfl⟩ := exists_of_forall₂_right hparts hq
      exact (h p hp).squeeze hx hy
    have hstrip : qs.map Text.strip = ps.map Text.squeeze := by
      clear hjoin hqs h hps
      induction hparts with
      | nil => rfl
      | cons hq _ ih =>
        obtain ⟨x, y, hx, hy, rfl⟩ := hq
        rw [List.map_cons, List.map_cons, ih, Text.strip_append_blank hx hy, Text.strip_squeeze]
    rw [hjoin, splitCommas_joinWith hqs, hstrip]

end

end AnchorIndex.Source

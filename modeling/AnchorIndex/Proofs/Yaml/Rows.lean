import AnchorIndex.Proofs.Yaml.Starts

/-!
# Lines with keys and values

A file of settings has lines of two kinds (`Row`): notes, which are empty or comments, and entries,
which are a key, a colon and a plain scalar. From the start of a line, and from the end of a plain
scalar, scanning passes over notes and comes to the next entry (`Leads`).
-/

namespace AnchorIndex.Yaml

/-! ### Lines of a file -/

/-- What scanning passes over on a line: spaces, and perhaps a comment behind them. -/
inductive IsFiller : List Char → Prop where
  | blank (n : Nat) : IsFiller (List.replicate n ' ')
  | comment (n : Nat) (cs : List Char) : IsFiller (List.replicate n ' ' ++ '#' :: cs)

theorem IsTrail.isFiller {tail : List Char} (h : IsTrail tail) :
  IsFiller tail
  := by
  cases h with
  | blank n => exact .blank n
  | comment n cs => exact .comment (n + 1) cs

/-- A line: a note, or a key and a value, which is a plain scalar and what follows it. -/
inductive Row where
  | note (cs : List Char)
  | entry (key text tail : List Char)

namespace Row

/-- The characters of a line. -/
def chars : Row → List Char
  | note cs => cs
  | entry key text tail => key ++ ':' :: ' ' :: (text ++ tail)

@[simp]
theorem chars_note (cs : List Char) :
  (note cs).chars = cs
  := rfl

@[simp]
theorem chars_entry (key text tail : List Char) :
  (entry key text tail).chars = key ++ ':' :: ' ' :: (text ++ tail)
  := rfl

/-- The line is a note. -/
def isNote : Row → Bool
  | note _ => true
  | entry _ _ _ => false

/-- The line is empty. -/
def isEmpty : Row → Bool
  | note cs => cs.isEmpty
  | entry _ _ _ => false

/-- The tokens of a line. -/
def tokens : Row → List Token
  | note _ => []
  | entry key text _ =>
    [.key, .scalar (String.ofList key) true, .value, .scalar (String.ofList text) true]

/-- A line that is as it should be, but for what follows the plain scalar of an entry. -/
inductive Sound : Row → Prop where
  | empty : Sound (note [])
  | comment {cs : List Char} (hline : OnOneLine cs) : Sound (note ('#' :: cs))
  | entry {key text tail : List Char} (hkey : IsKeyWord key) (hbegins : BeginsPlain (text ++ tail))
    (hline : OnOneLine (text ++ tail)) (hphrase : Phrase tail text) : Sound (entry key text tail)

/-- Nothing follows the plain scalar of an entry but spaces and a comment. -/
def Closed : Row → Prop
  | note _ => True
  | entry _ _ tail => IsTrail tail

/-- Something follows the plain scalar of an entry that cannot follow it. -/
def Blocked : Row → Prop
  | note _ => False
  | entry _ _ tail => IsObstacle tail

end Row

/-- The text of some lines. -/
def textOf (rows : List Row) : List Char :=
  rows.flatMap fun r => r.chars ++ ['\n']

theorem Row.Sound.isFiller {cs : List Char} (h : Sound (note cs)) :
  IsFiller cs ∧ OnOneLine cs
  := by
  cases h with
  | empty => exact ⟨.blank 0, by simp [OnOneLine]⟩
  | @comment cs hline => exact ⟨.comment 0 cs, List.forall_mem_cons.2 ⟨rfl, hline⟩⟩

theorem textOf_cons (r : Row) (rows : List Row) :
  textOf (r :: rows) = r.chars ++ '\n' :: textOf rows
  := by
  simp [textOf]

theorem textOf_eq_intercalate (rows : List Row) :
  textOf rows = ['\n'].intercalate (rows.map Row.chars ++ [[]])
  := by
  induction rows with
  | nil => rfl
  | cons r rows ih =>
    obtain ⟨cs, rest, hcons⟩ : ∃ cs rest, rows.map Row.chars ++ [[]] = cs :: rest :=
      List.exists_cons_of_ne_nil (by simp)
    rw [textOf_cons, ih, List.map_cons, List.cons_append, hcons, List.intercalate_cons_cons]
    simp

/-- What holds of a line feed and of the characters of all lines holds of the text. -/
theorem forall_mem_textOf_iff {P : Char → Prop} (hP : P '\n') {rows : List Row} :
  (∀ ch ∈ textOf rows, P ch) ↔ ∀ r ∈ rows, ∀ ch ∈ r.chars, P ch
  := by
  induction rows with
  | nil => simp [textOf]
  | cons r rows ih =>
    rw [textOf_cons, List.forall_mem_append, List.forall_mem_cons, ih, List.forall_mem_cons]
    simp [hP]

/-- No line holds the end of one. -/
theorem Row.Sound.onOneLine {r : Row} (h : r.Sound) :
  OnOneLine r.chars
  := by
  cases h with
  | empty => simp [Row.chars, OnOneLine]
  | comment hline => exact List.forall_mem_cons.2 ⟨rfl, hline⟩
  | entry hkey hbegins hline hphrase =>
    rw [Row.chars, onOneLine_append_iff]
    constructor
    · exact fun k hk => isBreak_of_isGap (isGap_of_isKeyChar (hkey.isKeyChar k hk))
    · exact List.forall_mem_cons.2 ⟨rfl, List.forall_mem_cons.2 ⟨rfl, hline⟩⟩

/-- An entry starts with a character of its key. -/
theorem head?_textOf_entry {key text tail : List Char} (hkey : IsKeyWord key) (rows : List Row) :
  ∃ k, (textOf (.entry key text tail :: rows)).head? = some k ∧ isKeyChar k = true
  := by
  obtain ⟨k, key', rfl⟩ := List.exists_cons_of_ne_nil hkey.ne_nil
  refine ⟨k, ?_, hkey.isKeyChar k List.mem_cons_self⟩
  rw [textOf_cons]
  rfl

theorem head?_textOf {rows : List Row} (h : ∀ r ∈ rows, r.Sound) {ch : Char}
    (hch : (textOf rows).head? = some ch) :
  ch = '\n' ∨ ch = '#' ∨ isKeyChar ch = true
  := by
  cases rows with
  | nil => cases hch
  | cons r rows =>
    cases h r List.mem_cons_self with
    | empty =>
      rw [textOf_cons] at hch
      exact .inl (Option.some.inj hch).symm
    | comment =>
      rw [textOf_cons] at hch
      exact .inr (.inl (Option.some.inj hch).symm)
    | entry hkey =>
      obtain ⟨k, hk, hkeyChar⟩ := head?_textOf_entry hkey rows
      obtain rfl : k = ch := Option.some.inj (hk.symm.trans hch)
      exact .inr (.inr hkeyChar)

/-- Where a line starts there is no mark of a document. -/
theorem atDocumentMark_of_textOf {rows : List Row} (h : ∀ r ∈ rows, r.Sound) {c : Cursor}
    (hrest : c.rest = textOf rows) :
  c.atDocumentMark = false
  := by
  cases hhead : c.rest.head? with
  | none =>
    rw [Cursor.atDocumentMark, List.head?_eq_none_iff.1 hhead]
  | some ch =>
    apply Cursor.atDocumentMark_of_head hhead
    all_goals obtain rfl | rfl | hkey := head?_textOf h (hrest ▸ hhead)
    all_goals first | decide | exact ne_of_isKeyChar hkey rfl

/-! ### To the next token -/

namespace Scanner

variable {s : Scanner}

/-- Scanning stops in front of a token. -/
theorem toNextToken_of_token {n : Nat} {r : List Char}
    (hrest : s.cursor.rest = List.replicate n ' ' ++ r)
    (hr : ∀ ch ∈ r.head?, isBreak ch = false ∧ ch ≠ ' ' ∧ ch ≠ '#') (fuel : Nat) :
  s.toNextToken (fuel + 1) = { s with cursor := s.cursor.skip n }
  := by
  have hbehind := Cursor.rest_skip_spaces hrest
  have hhash : (s.cursor.skip n).head ≠ some '#' := by
    rw [Cursor.head, hbehind]
    exact fun h => (hr '#' h).2.2 rfl
  have hbreak : (s.cursor.skip n).lineBreak? = none := by
    apply Cursor.lineBreak?_eq_none
    rw [hbehind]
    exact fun ch hch => (hr ch hch).1
  rw [toNextToken, Cursor.skipWhile_spaces hrest fun ch hch => (hr ch hch).2.1, if_neg hhash,
    hbreak]

end Scanner

/-- Behind a filler there is the end of the line. -/
theorem exists_end_of_filler {cs r : List Char} (h : IsFiller cs) (hline : OnOneLine cs)
    {c : Cursor} (hrest : c.rest = cs ++ '\n' :: r) :
  ∃ e : Cursor, e.rest = '\n' :: r ∧
    (let c := c.skipWhile (· == ' ')
      if c.head = some '#' then c.skipWhile (!isBreak ·) else c) = e
  := by
  cases h with
  | blank n =>
    have hend := Cursor.rest_skip_spaces hrest
    refine ⟨c.skip n, hend, ?_⟩
    rw [Cursor.skipWhile_spaces hrest (by simp)]
    simp [Cursor.head, hend]
  | comment n cs =>
    rw [List.append_assoc] at hrest
    have hhash := Cursor.rest_skip_spaces hrest
    have hcomment : (c.skip n).skipWhile (!isBreak ·) = (c.skip n).skip ('#' :: cs).length := by
      apply Cursor.skipWhile_eq_skip hhash
      · intro ch hch
        rw [(onOneLine_append_iff.1 hline).2 ch hch]
        rfl
      · rintro ch ⟨⟩
        rfl
    refine ⟨(c.skip n).skip ('#' :: cs).length, Cursor.rest_skip_append hhash, ?_⟩
    rw [← hcomment, Cursor.skipWhile_spaces hrest (by simp)]
    simp [Cursor.head, hhash]

namespace Scanner

/-- Scanning passes over a filler and the end of its line. -/
theorem toNextToken_of_filler {cs r : List Char} (h : IsFiller cs) (hline : OnOneLine cs)
    {c : Cursor} (hrest : c.rest = cs ++ '\n' :: r) :
  ∃ c' : Cursor, c'.rest = r ∧ c'.column = 0 ∧ ∀ (s : Scanner) (fuel : Nat),
    s.cursor = c → s.flow = 0 →
      s.toNextToken (fuel + 1) = toNextToken fuel { s with cursor := c', keyAllowed := true }
  := by
  obtain ⟨e, he, hfiller⟩ := exists_end_of_filler h hline hrest
  obtain ⟨c', hbreak, hrest', hcolumn'⟩ := Cursor.exists_lineBreak he
  refine ⟨c', hrest', hcolumn', ?_⟩
  rintro s fuel rfl hflow
  rw [toNextToken, hfiller, hbreak]
  simp [hflow]

/-- The state between two tokens of a file without brackets. Its block has been opened, or no key
has been read so far. -/
def between (c : Cursor) (ts : List Token) (n : Nat) (opened allowed : Bool) : Scanner where
  cursor := c
  tokens := ts
  count := n
  flow := 0
  indent := if opened then 0 else -1
  outer := if opened then [-1] else []
  keyAllowed := allowed
  places := []

end Scanner

/-- What is left of a line comes to an end, and behind notes the lines of some rows follow. -/
def Leads (c : Cursor) (allowed : Bool) (rows : List Row) : Prop :=
  ∃ c' : Cursor, c'.rest = textOf (rows.dropWhile Row.isNote) ∧ c'.column = 0 ∧
    ∀ fuel ts n opened, c.rest.length < fuel →
      (Scanner.between c ts n opened allowed).toNextToken fuel = .between c' ts n opened true

theorem leads_cons_note {c : Cursor} {allowed : Bool} {cs : List Char} {rows : List Row} :
  Leads c allowed (.note cs :: rows) ↔ Leads c allowed rows
  := Iff.rfl

/-- Behind a filler and the end of its line scanning goes on with the next line. -/
theorem leads_of_filler {cs r : List Char} (h : IsFiller cs) (hline : OnOneLine cs) {c : Cursor}
    (hrest : c.rest = cs ++ '\n' :: r) {rows : List Row}
    (hnext : ∀ c' : Cursor, c'.rest = r → c'.column = 0 → Leads c' true rows) (allowed : Bool) :
  Leads c allowed rows
  := by
  obtain ⟨c', hrest', hcolumn', hstep⟩ := Scanner.toNextToken_of_filler h hline hrest
  obtain ⟨e, he, hcolumn, htoken⟩ := hnext c' hrest' hcolumn'
  refine ⟨e, he, hcolumn, fun fuel ts n opened hfuel => ?_⟩
  obtain ⟨fuel, rfl⟩ := Nat.exists_eq_succ_of_ne_zero (Nat.ne_zero_of_lt hfuel)
  have hshort : c'.rest.length < fuel := by
    rw [hrest, ← hrest'] at hfuel
    simp at hfuel
    omega
  rw [← htoken fuel ts n opened hshort]
  exact hstep _ fuel rfl rfl

/-- Where a line starts with a token, scanning stays. -/
theorem leads_of_token {rows : List Row} {c : Cursor} (hrest : c.rest = textOf rows)
    (hcolumn : c.column = 0) (hrows : rows.dropWhile Row.isNote = rows)
    (hhead : ∀ ch ∈ (textOf rows).head?, isBreak ch = false ∧ ch ≠ ' ' ∧ ch ≠ '#') :
  Leads c true rows
  := by
  refine ⟨c, by rw [hrows, hrest], hcolumn, fun fuel ts n opened hfuel => ?_⟩
  obtain ⟨fuel, rfl⟩ := Nat.exists_eq_succ_of_ne_zero (Nat.ne_zero_of_lt hfuel)
  exact Scanner.toNextToken_of_token (n := 0) hrest hhead fuel

/-- Scanning from the start of a line passes over notes. -/
theorem leads_of_textOf {rows : List Row} (h : ∀ r ∈ rows, r.Sound) {c : Cursor}
    (hrest : c.rest = textOf rows) (hcolumn : c.column = 0) :
  Leads c true rows
  := by
  induction rows generalizing c with
  | nil => exact leads_of_token hrest hcolumn rfl (by simp [textOf])
  | cons r rows ih =>
    obtain ⟨hr, hrows⟩ := List.forall_mem_cons.1 h
    cases r with
    | note cs =>
      rw [textOf_cons] at hrest
      obtain ⟨hfiller, hline⟩ := hr.isFiller
      exact leads_cons_note.2 (leads_of_filler hfiller hline hrest (fun c' => ih hrows) true)
    | entry key text tail =>
      apply leads_of_token hrest hcolumn rfl
      cases hr with
      | entry hkey =>
        obtain ⟨k, hk, hkeyChar⟩ := head?_textOf_entry hkey rows
        intro ch hch
        obtain rfl : k = ch := Option.some.inj (hk.symm.trans hch)
        exact ⟨isBreak_of_isGap (isGap_of_isKeyChar hkeyChar), ne_of_isKeyChar hkeyChar rfl,
          ne_of_isKeyChar hkeyChar rfl⟩

/-! ### Behind a plain scalar -/

/-- A line that is not empty ends the gap behind a plain scalar. -/
theorem plainBreaks_of_head {c : Cursor} {ch : Char} (hhead : c.rest.head? = some ch)
    (hgap : isGap ch = false) (fuel : Nat) (acc : List Char) :
  plainBreaks (fuel + 1) acc c = (some acc.reverse, c)
  := by
  have hnone : c.lineBreak? = none := by
    apply Cursor.lineBreak?_eq_none
    rw [hhead]
    rintro _ ⟨⟩
    exact isBreak_of_isGap hgap
  rw [plainBreaks, Cursor.head, hhead, hnone]
  split
  next heq =>
    cases heq
    cases hgap
  next => rfl

/-- Empty lines behind a plain scalar are passed over. -/
theorem plainBreaks_of_textOf {rows : List Row} (h : ∀ r ∈ rows, r.Sound) {c : Cursor}
    (hrest : c.rest = textOf rows) (hcolumn : c.column = 0) {fuel : Nat}
    (hfuel : c.rest.length < fuel) (acc : List Char) :
  ∃ more, ∃ c' : Cursor, plainBreaks fuel acc c = (some more, c') ∧
    c'.rest = textOf (rows.dropWhile Row.isEmpty) ∧ c'.column = 0
  := by
  induction rows generalizing c fuel acc with
  | nil =>
    obtain ⟨fuel, rfl⟩ := Nat.exists_eq_succ_of_ne_zero (Nat.ne_zero_of_lt hfuel)
    refine ⟨acc.reverse, c, ?_, hrest, hcolumn⟩
    have hnone : c.lineBreak? = none := Cursor.lineBreak?_eq_none (by simp [hrest, textOf])
    rw [plainBreaks, Cursor.head, hrest, hnone]
    rfl
  | cons r rows ih =>
    obtain ⟨fuel, rfl⟩ := Nat.exists_eq_succ_of_ne_zero (Nat.ne_zero_of_lt hfuel)
    obtain ⟨hr, hrows⟩ := List.forall_mem_cons.1 h
    cases hr with
    | empty =>
      have hnewline : c.rest = '\n' :: textOf rows := by
        rw [hrest, textOf_cons]
        rfl
      obtain ⟨e, hbreak, he, hcolumn'⟩ := Cursor.exists_lineBreak hnewline
      have hmark : e.atDocumentMark = false := atDocumentMark_of_textOf hrows he
      rw [plainBreaks, Cursor.head, hnewline, hbreak]
      dsimp only [List.head?_cons]
      rw [hmark, if_neg Bool.false_ne_true]
      apply ih hrows he hcolumn'
      rw [hnewline, ← he] at hfuel
      simpa using hfuel
    | @comment cs hline =>
      have hhash : c.rest.head? = some '#' := by
        rw [hrest, textOf_cons]
        rfl
      exact ⟨acc.reverse, c, plainBreaks_of_head hhash rfl fuel acc, hrest, hcolumn⟩
    | @entry key text tail hkey =>
      obtain ⟨k, hk, hkeyChar⟩ := head?_textOf_entry hkey rows
      rw [← hrest] at hk
      exact ⟨acc.reverse, c, plainBreaks_of_head hk (isGap_of_isKeyChar hkeyChar) fuel acc, hrest,
        hcolumn⟩

theorem dropWhile_isNote_dropWhile_isEmpty (rows : List Row) :
  (rows.dropWhile Row.isEmpty).dropWhile Row.isNote = rows.dropWhile Row.isNote
  := by
  induction rows with
  | nil => rfl
  | cons r rows ih =>
    by_cases hr : r.isEmpty = true
    · have hnote : r.isNote = true := by
        cases r with
        | note cs => rfl
        | entry key text tail => cases hr
      rw [List.dropWhile_cons_of_pos hr, List.dropWhile_cons_of_pos hnote, ih]
    · rw [List.dropWhile_cons_of_neg hr]

/-- A plain scalar ends at its trail, and scanning comes to the next lines. -/
theorem endsScalar_of_isTrail {tail : List Char} (h : IsTrail tail) (hline : OnOneLine tail)
    {rows : List Row} (hrows : ∀ r ∈ rows, r.Sound) {c : Cursor}
    (hrest : c.rest = tail ++ '\n' :: textOf rows) {indent : Int} (hindent : 0 ≤ indent) :
  EndsScalar indent (plainGap c) ∧ Leads (plainGap c).2.1 (plainGap c).2.2 rows
  := by
  cases h with
  | blank n =>
    have hend := Cursor.rest_skip_spaces hrest
    obtain ⟨e, hbreak, he, hcolumn⟩ := Cursor.exists_lineBreak hend
    have hmark : e.atDocumentMark = false := atDocumentMark_of_textOf hrows he
    obtain ⟨more, c', hbreaks, hrest', hcolumn'⟩ :=
      plainBreaks_of_textOf hrows he hcolumn (Nat.lt_succ_self _) []
    have hgap : plainGap c = (foldBreak '\n' more, c', true) := by
      rw [plainGap, hrest, takeWhile_spaces (by simp), List.length_replicate, hbreak]
      dsimp only
      rw [hmark, if_neg Bool.false_ne_true, hbreaks]
    rw [hgap]
    constructor
    · right; right; left
      rw [hcolumn']
      exact hindent
    · have hrows' : ∀ r ∈ rows.dropWhile Row.isEmpty, r.Sound :=
        fun r hr => hrows r ((List.dropWhile_sublist _).subset hr)
      have hleads := leads_of_textOf hrows' hrest' hcolumn'
      rwa [Leads, dropWhile_isNote_dropWhile_isEmpty] at hleads
  | comment n cs =>
    rw [List.append_assoc] at hrest
    have hgap : plainGap c = (List.replicate (n + 1) ' ', c.skip (n + 1), false) := by
      apply plainGap_spaces hrest
      rintro ch ⟨⟩
      exact ⟨rfl, by decide⟩
    have hhash := Cursor.rest_skip_spaces hrest
    rw [hgap]
    constructor
    · right; left
      rw [Cursor.head, hhash]
      rfl
    · exact leads_of_filler (.comment 0 cs) (onOneLine_append_iff.1 hline).2 hhash
        (fun c' => leads_of_textOf hrows) false

/-- A plain scalar ends at an obstacle, and scanning stops in front of it. -/
theorem endsScalar_of_isObstacle {tail r : List Char} (h : IsObstacle tail) {c : Cursor}
    (hrest : c.rest = tail ++ '\n' :: r) (indent : Int) :
  EndsScalar indent (plainGap c) ∧ (plainGap c).2.2 = false ∧
    ∃ ch next, (plainGap c).2.1.rest = ch :: next ∧
      (ch = '\t' ∨ ch = ':' ∧ isGapOrEnd next.head? = true)
  := by
  obtain ⟨n, ch, cs, rfl, hch⟩ : ∃ n ch cs, tail = List.replicate n ' ' ++ ch :: cs ∧
      (ch = '\t' ∨ ch = ':' ∧ isGapOrEnd cs.head? = true) := by
    cases h with
    | tab n cs => exact ⟨n, '\t', cs, rfl, .inl rfl⟩
    | colon n cs hend => exact ⟨n, ':', cs, rfl, .inr ⟨rfl, hend⟩⟩
  rw [List.append_assoc, List.cons_append] at hrest
  have hgap : plainGap c = (List.replicate n ' ', c.skip n, false) := by
    apply plainGap_spaces hrest
    rintro _ ⟨⟩
    obtain rfl | ⟨rfl, -⟩ := hch
    · exact ⟨rfl, by decide⟩
    · exact ⟨rfl, by decide⟩
  have hbehind := Cursor.rest_skip_spaces hrest
  have hstop : ch = '\t' ∨ ch = ':' ∧ isGapOrEnd (cs ++ '\n' :: r).head? = true := by
    refine hch.imp_right fun ⟨heq, hend⟩ => ⟨heq, ?_⟩
    cases cs with
    | nil => rfl
    | cons x cs => exact hend
  rw [hgap]
  refine ⟨.inr (.inr (.inr ?_)), rfl, ch, _, hbehind, hstop⟩
  rw [hbehind, plainLength_cons, if_pos]
  exact hstop.imp_left fun heq => by rw [heq]; rfl

end AnchorIndex.Yaml

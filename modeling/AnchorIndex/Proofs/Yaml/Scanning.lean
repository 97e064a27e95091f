import AnchorIndex.Proofs.Yaml.Rows

/-!
# Scanning lines with keys and values

Scanning takes three rounds for an entry: for the key, for the colon, which puts the key in front of
its scalar, and for the scalar of the value. So the tokens of a file of such lines are those of a
block mapping with the keys and the scalars (`scan?_textOf`), unless a scalar is followed by what
cannot follow it; then the file has no tokens (`scan?_eq_none`).
-/

namespace AnchorIndex.Yaml

/-! ### Rounds of scanning -/

namespace Scanner

variable {s : Scanner}

theorem unwindTo_of_le {column : Int} (h : s.indent ≤ column) :
  s.unwindTo column = s
  := by
  rw [unwindTo, unwind, if_neg]
  rintro ⟨-, hlt⟩
  exact absurd hlt (Int.not_lt.2 h)

/-- One round: scanning comes to a token inside the present block, and scans it. -/
theorem run?_succ {s' : Scanner} (hnext : s.toNextToken (s.cursor.rest.length + 1) = s')
    (hplaces : s'.dropStale? = some s') (hindent : s'.indent ≤ s'.cursor.column) {ch : Char}
    (hhead : s'.cursor.rest.head? = some ch) (fuel : Nat) :
  s.run? (fuel + 1) = (s'.token? ch).bind (run? fuel)
  := by
  rw [run?, hnext]
  dsimp only
  rw [hplaces]
  dsimp only
  rw [unwindTo_of_le hindent, Cursor.head, hhead]

@[simp]
theorem cursor_between (c : Cursor) (ts : List Token) (n : Nat) (opened allowed : Bool) :
  (between c ts n opened allowed).cursor = c
  := rfl

@[simp]
theorem dropStale?_between (c : Cursor) (ts : List Token) (n : Nat) (opened allowed : Bool) :
  (between c ts n opened allowed).dropStale? = some (between c ts n opened allowed)
  := rfl

theorem indent_between_le (c : Cursor) (ts : List Token) (n : Nat) (opened allowed : Bool)
    (column : Nat) :
  (between c ts n opened allowed).indent ≤ column
  := by
  cases opened with
  | true => exact Int.natCast_nonneg column
  | false => exact Int.le_trans (show (-1 : Int) ≤ 0 by decide) (Int.natCast_nonneg column)

/-- The state behind a key: the place where the key starts is remembered. -/
def behindKey (key : List Char) (c : Cursor) (ts : List Token) (n : Nat) (opened : Bool) :
    Scanner :=
  { between (c.skip key.length) (.scalar (String.ofList key) true :: ts) (n + 1) opened false with
    places := [(0, ⟨n, (if opened then 0 else -1) == (c.column : Int), c.index, c.line,
      c.column⟩)] }

theorem cursor_behindKey (key : List Char) (c : Cursor) (ts : List Token) (n : Nat)
    (opened : Bool) :
  (behindKey key c ts n opened).cursor = c.skip key.length
  := rfl

/-- A key is scanned as a plain scalar. -/
theorem run?_key {key r : List Char} (hkey : IsKeyWord key) {c c' : Cursor}
    (hrest : c'.rest = key ++ ':' :: ' ' :: r) {ts : List Token} {n : Nat} {opened allowed : Bool}
    (hnext : (between c ts n opened allowed).toNextToken (c.rest.length + 1)
      = between c' ts n opened true) (fuel : Nat) :
  (between c ts n opened allowed).run? (fuel + 1) = (behindKey key c' ts n opened).run? fuel
  := by
  obtain ⟨k, key', heq⟩ := List.exists_cons_of_ne_nil hkey.ne_nil
  have hk : isKeyChar k = true := by
    apply hkey.isKeyChar
    rw [heq]
    exact List.mem_cons_self
  have hhead : c'.rest.head? = some k := by
    rw [hrest, heq]
    rfl
  have hmark : c'.atDocumentMark = false :=
    Cursor.atDocumentMark_of_head hhead (ne_of_isKeyChar hk rfl) (ne_of_isKeyChar hk rfl)
  have hgap : plainGap (c'.skip key.length) = ([], c'.skip key.length, false) := by
    apply plainGap_spaces (n := 0) (Cursor.rest_skip_append hrest)
    rintro _ ⟨⟩
    exact ⟨rfl, by decide⟩
  have hread :
      readPlain false (if opened then 0 else -1) c' = ⟨key, c'.skip key.length, false⟩ := by
    rw [readPlain_word hrest hkey.ne_nil (plainLength_key hkey.isKeyChar r), hgap]
    · rw [heq]
      rintro ⟨⟩
      exact ne_of_isKeyChar hk rfl rfl
    · rw [hgap]
      exact .inl rfl
  rw [run?_succ hnext (dropStale?_between _ _ _ _ _) (indent_between_le _ _ _ _ _ _) hhead,
    token?_of_startsPlain rfl (fun _ => hmark) (startsPlain_of_isKeyChar hk _)]
  have hsave : (between c' ts n opened true).savePlace?
      = some { between c' ts n opened true with
          places := [(0, ⟨n, (if opened then 0 else -1) == (c'.column : Int), c'.index, c'.line,
            c'.column⟩)] } :=
    rfl
  have hplain : (between c' ts n opened true).plain? = some (behindKey key c' ts n opened) := by
    rw [plain?, hsave, Option.map_some]
    simp only [between, bne_self_eq_false, hread]
    rfl
  rw [hplain, Option.bind_some]

/-- The state behind the colon of an entry. -/
def behindColon (key : List Char) (c : Cursor) (ts : List Token) (n : Nat) (opened : Bool) :
    Scanner :=
  between c
    ([.value, .scalar (String.ofList key) true, .key]
      ++ if opened then ts else .mappingStart :: ts)
    (if opened then n + 3 else n + 4) true false

/-- The colon puts the key in front of its scalar, and opens the block in front of the first key. -/
theorem run?_colon {key r : List Char} (hkey : IsKeyWord key) {c : Cursor}
    (hrest : c.rest = key ++ ':' :: ' ' :: r) (hcolumn : c.column = 0) (ts : List Token) (n : Nat)
    (opened : Bool) (fuel : Nat) :
  (behindKey key c ts n opened).run? (fuel + 1)
    = (behindColon key (c.skip (key.length + 1)) ts n opened).run? fuel
  := by
  have hline : OnOneLine key :=
    fun k hk => isBreak_of_isGap (isGap_of_isKeyChar (hkey.isKeyChar k hk))
  obtain ⟨hbehind, hindex, hline', -⟩ := Cursor.skip_onOneLine hline hrest
  have hnext : (behindKey key c ts n opened).toNextToken ((c.skip key.length).rest.length + 1)
      = behindKey key c ts n opened := by
    apply toNextToken_of_token (n := 0) hbehind
    rintro _ ⟨⟩
    exact ⟨rfl, by decide, by decide⟩
  have hplaces : (behindKey key c ts n opened).dropStale? = some (behindKey key c ts n opened) := by
    simp [dropStale?, behindKey, between, hline', hindex, hkey.length_le]
  have hhead : (behindKey key c ts n opened).cursor.rest.head? = some ':' := by
    rw [cursor_behindKey, hbehind]
    rfl
  have hpeek : (behindKey key c ts n opened).cursor.peek 1 = some ' ' := by
    rw [Cursor.peek, cursor_behindKey, hbehind]
    rfl
  have htoken :
      (behindKey key c ts n opened).token? ':' = (behindKey key c ts n opened).value? := by
    simp [token?, hpeek, isGapOrEnd, isGap]
  have hvalue : (behindKey key c ts n opened).value?
      = some (behindColon key (c.skip (key.length + 1)) ts n opened) := by
    rw [Cursor.skip_add]
    cases opened with
    | true =>
      simp [value?, behindKey, behindColon, between, insertAt, openBlock, allowKey, skip, push,
        hcolumn]
    | false =>
      have hlater : n + 1 + 1 - n = 2 := by omega
      simp [value?, behindKey, behindColon, between, insertAt, openBlock, allowKey, skip, push,
        hcolumn, hlater]
  have hindent := indent_between_le c ts n opened false (c.skip key.length).column
  rw [run?_succ hnext hplaces hindent hhead, htoken, hvalue, Option.bind_some]

/-- A plain scalar behind the colon. -/
theorem run?_scalar {text tail r : List Char} (hbegins : BeginsPlain (text ++ tail))
    (hphrase : Phrase tail text) (hline : OnOneLine text) {c : Cursor}
    (hrest : c.rest = ' ' :: (text ++ (tail ++ '\n' :: r)))
    (hends : EndsScalar 0 (plainGap ((c.skip 1).skip text.length))) (ts : List Token)
    (n fuel : Nat) :
  (between c ts n true false).run? (fuel + 1)
    = (between (plainGap ((c.skip 1).skip text.length)).2.1
        (.scalar (String.ofList text) true :: ts) (n + 1) true
        (plainGap ((c.skip 1).skip text.length)).2.2).run? fuel
  := by
  obtain ⟨ch, cs, hcs, hstart⟩ := hbegins
  have hbehind : (c.skip 1).rest = text ++ (tail ++ '\n' :: r) := by
    rw [Cursor.rest_skip, hrest]
    rfl
  have hbehind' : (c.skip 1).rest = ch :: (cs ++ '\n' :: r) := by
    rw [hbehind, ← List.append_assoc, hcs, List.cons_append]
  have hcolumn : 0 < (c.skip 1).column := Cursor.column_skip_space hrest
  have hgap := isGap_of_startsPlain hstart
  have hnext : (between c ts n true false).toNextToken (c.rest.length + 1)
      = between (c.skip 1) ts n true false := by
    apply toNextToken_of_token (n := 1) (r := ch :: (cs ++ '\n' :: r))
    · rw [cursor_between, hrest, ← hbehind', hbehind]
      rfl
    · rintro _ ⟨⟩
      refine ⟨isBreak_of_isGap hgap, ?_, ne_hash_of_startsPlain hstart⟩
      rintro rfl
      cases hgap
  have hhead : (between (c.skip 1) ts n true false).cursor.rest.head? = some ch := by
    rw [cursor_between, hbehind']
    rfl
  have hpeek :
      startsPlain false ch ((between (c.skip 1) ts n true false).cursor.peek 1) = true := by
    rw [cursor_between, Cursor.peek, hbehind', List.getElem?_cons_succ, ← List.head?_eq_getElem?]
    exact startsPlain_append_newline hstart r
  have hread : readPlain false 0 (c.skip 1)
      = ⟨text, (plainGap ((c.skip 1).skip text.length)).2.1,
          (plainGap ((c.skip 1).skip text.length)).2.2⟩ := by
    apply readPlain_of_phrase hphrase hline hbehind _ (by omega) hends
    intro hhash
    have hhead : (text ++ tail).head? = some '#' := by
      rw [List.head?_append, hhash]
      rfl
    rw [hcs] at hhead
    exact ne_hash_of_startsPlain hstart (Option.some.inj hhead)
  have hsave : (between (c.skip 1) ts n true false).savePlace?
      = some (between (c.skip 1) ts n true false) := rfl
  rw [run?_succ hnext (dropStale?_between _ _ _ _ _) (indent_between_le _ _ _ _ _ _) hhead,
    token?_of_startsPlain rfl (fun h => absurd h (Nat.ne_of_gt hcolumn)) hpeek, plain?, hsave,
    Option.map_some, Option.bind_some]
  simp only [between, bne_self_eq_false, if_true, hread]
  rfl

/-- No token starts at an obstacle. -/
theorem run?_obstacle {c : Cursor} {ch : Char} {r : List Char} (hrest : c.rest = ch :: r)
    (hch : ch = '\t' ∨ ch = ':' ∧ isGapOrEnd r.head? = true) (ts : List Token) (n fuel : Nat) :
  (between c ts n true false).run? fuel = none
  := by
  cases fuel with
  | zero => rfl
  | succ fuel =>
    have hnext : (between c ts n true false).toNextToken (c.rest.length + 1)
        = between c ts n true false := by
      apply toNextToken_of_token (n := 0) hrest
      rintro _ ⟨⟩
      obtain rfl | ⟨rfl, -⟩ := hch
      · exact ⟨rfl, by decide, by decide⟩
      · exact ⟨rfl, by decide, by decide⟩
    have hhead : (between c ts n true false).cursor.rest.head? = some ch := by
      rw [cursor_between, hrest]
      rfl
    have htoken : (between c ts n true false).token? ch = none := by
      have hpeek : (between c ts n true false).cursor.peek 1 = r.head? := by
        rw [cursor_between, Cursor.peek, List.head?_eq_getElem?, hrest]
        rfl
      obtain rfl | ⟨rfl, hend⟩ := hch
      · simp [token?, startsPlain, isGap, between]
      · rw [token?, hpeek, hend]
        simp [value?, between]
    rw [run?_succ hnext (dropStale?_between _ _ _ _ _) (indent_between_le _ _ _ _ _ _) hhead,
      htoken, Option.bind_none]

/-! ### Entries -/

/-- Scanning an entry up to its value. -/
theorem run?_toValue {key text tail : List Char} {rows : List Row} {c : Cursor} {allowed : Bool}
    (h : Leads c allowed (.entry key text tail :: rows)) (hkey : IsKeyWord key) :
  ∃ c' : Cursor, c'.rest = ' ' :: (text ++ (tail ++ '\n' :: textOf rows)) ∧
    ∀ ts n opened fuel, (between c ts n opened allowed).run? (fuel + 2)
      = (behindColon key c' ts n opened).run? fuel
  := by
  obtain ⟨e, hrest, hcolumn, hnext⟩ := h
  have hkeyRest : e.rest = key ++ ':' :: ' ' :: (text ++ (tail ++ '\n' :: textOf rows)) := by
    rw [hrest, List.dropWhile_cons_of_neg Bool.false_ne_true, textOf_cons, Row.chars_entry]
    simp
  refine ⟨e.skip (key.length + 1), ?_, fun ts n opened fuel => ?_⟩
  · rw [Cursor.rest_skip, hkeyRest, ← List.drop_drop, List.drop_left]
    rfl
  · rw [run?_key hkey hkeyRest (hnext _ ts n opened (Nat.lt_succ_self _)),
      run?_colon hkey hkeyRest hcolumn]

/-- Scanning an entry whose value is followed by a trail. -/
theorem run?_entry {key text tail : List Char} {rows : List Row} {c : Cursor} {allowed : Bool}
    (h : Leads c allowed (.entry key text tail :: rows)) (hentry : (Row.entry key text tail).Sound)
    (htrail : IsTrail tail) (hrows : ∀ r ∈ rows, r.Sound) :
  ∃ c' allowed', Leads c' allowed' rows ∧ ∀ ts n opened fuel, ∃ n',
    (between c ts n opened allowed).run? (fuel + 3)
      = (between c'
          ((Row.entry key text tail).tokens.reverse
            ++ if opened then ts else .mappingStart :: ts)
          n' true allowed').run? fuel
  := by
  cases hentry with
  | entry hkey hbegins hline hphrase =>
    obtain ⟨hlineText, hlineTail⟩ := onOneLine_append_iff.1 hline
    obtain ⟨e, hrest, hrun⟩ := run?_toValue h hkey
    have hbehind : ((e.skip 1).skip text.length).rest = tail ++ '\n' :: textOf rows :=
      Cursor.rest_skip_append (Cursor.rest_skip_spaces (n := 1) hrest)
    obtain ⟨hends, hleads⟩ := endsScalar_of_isTrail htrail hlineTail hrows hbehind (Int.le_refl 0)
    refine ⟨_, _, hleads, fun ts n opened fuel => ⟨(if opened then n + 3 else n + 4) + 1, ?_⟩⟩
    rw [hrun, behindColon, run?_scalar hbegins hphrase hlineText hrest hends]
    rfl

/-- Scanning an entry whose value is followed by an obstacle. -/
theorem run?_entry_eq_none {key text tail : List Char} {rows : List Row} {c : Cursor}
    {allowed : Bool} (h : Leads c allowed (.entry key text tail :: rows))
    (hentry : (Row.entry key text tail).Sound) (hobstacle : IsObstacle tail) (ts : List Token)
    (n : Nat) (opened : Bool) (fuel : Nat) :
  (between c ts n opened allowed).run? (fuel + 3) = none
  := by
  cases hentry with
  | entry hkey hbegins hline hphrase =>
    obtain ⟨hlineText, hlineTail⟩ := onOneLine_append_iff.1 hline
    obtain ⟨e, hrest, hrun⟩ := run?_toValue h hkey
    have hbehind : ((e.skip 1).skip text.length).rest = tail ++ '\n' :: textOf rows :=
      Cursor.rest_skip_append (Cursor.rest_skip_spaces (n := 1) hrest)
    obtain ⟨hends, hbroke, ch, next, hrest', hch⟩ := endsScalar_of_isObstacle hobstacle hbehind 0
    rw [hrun, behindColon, run?_scalar hbegins hphrase hlineText hrest hends, hbroke]
    exact run?_obstacle hrest' hch _ _ _

/-! ### Files -/

/-- At the end of the text the block ends. -/
theorem run?_end {c : Cursor} {allowed : Bool} (h : Leads c allowed []) (ts : List Token)
    (n fuel : Nat) :
  (between c ts n true allowed).run? (fuel + 1) = some (ts.reverse ++ [.blockEnd])
  := by
  obtain ⟨e, hrest, -, hnext⟩ := h
  have hhead : e.head = none := by
    rw [Cursor.head, hrest]
    rfl
  rw [run?, cursor_between, hnext _ ts n true (Nat.lt_succ_self _), dropStale?_between]
  dsimp only
  rw [unwindTo_of_le (indent_between_le _ _ _ _ _ _), cursor_between, hhead]
  simp [unwindTo, unwind, between, push, dropPlace?]

/-- Behind the first key, the tokens are those of the lines, and the block ends with the text. -/
theorem run?_rows {rows : List Row} (h : ∀ r ∈ rows, r.Sound ∧ r.Closed) {c : Cursor}
    {allowed : Bool} (hleads : Leads c allowed rows) (ts : List Token) (n : Nat) {fuel : Nat}
    (hfuel : (rows.flatMap Row.tokens).length < fuel) :
  (between c ts n true allowed).run? fuel
    = some (ts.reverse ++ rows.flatMap Row.tokens ++ [.blockEnd])
  := by
  induction rows generalizing c allowed ts n fuel with
  | nil =>
    obtain ⟨fuel, rfl⟩ := Nat.exists_eq_succ_of_ne_zero (Nat.ne_zero_of_lt hfuel)
    rw [run?_end hleads, List.flatMap_nil, List.append_nil]
  | cons r rows ih =>
    obtain ⟨⟨hsound, hclosed⟩, hrows⟩ := List.forall_mem_cons.1 h
    rw [List.flatMap_cons] at hfuel ⊢
    cases r with
    | note cs => exact ih hrows (leads_cons_note.1 hleads) ts n hfuel
    | entry key text tail =>
      obtain ⟨c', allowed', hleads', hrun⟩ :=
        run?_entry hleads hsound hclosed fun r hr => (hrows r hr).1
      have hfour : (Row.entry key text tail).tokens.length = 4 := rfl
      rw [List.length_append] at hfuel
      obtain ⟨fuel, rfl⟩ : ∃ k, fuel = k + 3 := ⟨fuel - 3, by omega⟩
      obtain ⟨n', hn'⟩ := hrun ts n true fuel
      rw [hn', ih hrows hleads' _ n' (by omega)]
      simp

/-- The first entry opens the block. -/
theorem run?_start {rows : List Row} (h : ∀ r ∈ rows, r.Sound ∧ r.Closed) {c : Cursor}
    {allowed : Bool} (hleads : Leads c allowed rows) (hentry : ∃ r ∈ rows, r.isNote = false)
    (n : Nat) {fuel : Nat} (hfuel : (rows.flatMap Row.tokens).length < fuel) :
  (between c [] n false allowed).run? fuel
    = some (.mappingStart :: (rows.flatMap Row.tokens ++ [.blockEnd]))
  := by
  induction rows with
  | nil => simp at hentry
  | cons r rows ih =>
    obtain ⟨⟨hsound, hclosed⟩, hrows⟩ := List.forall_mem_cons.1 h
    rw [List.flatMap_cons] at hfuel ⊢
    cases r with
    | note cs =>
      have hentry' : ∃ r ∈ rows, r.isNote = false := by simpa [Row.isNote] using hentry
      exact ih hrows (leads_cons_note.1 hleads) hentry' hfuel
    | entry key text tail =>
      obtain ⟨c', allowed', hleads', hrun⟩ :=
        run?_entry hleads hsound hclosed fun r hr => (hrows r hr).1
      have hfour : (Row.entry key text tail).tokens.length = 4 := rfl
      rw [List.length_append] at hfuel
      obtain ⟨fuel, rfl⟩ : ∃ k, fuel = k + 3 := ⟨fuel - 3, by omega⟩
      obtain ⟨n', hn'⟩ := hrun [] n false fuel
      rw [hn', run?_rows hrows hleads' _ n' (by omega)]
      simp

/-- An obstacle behind the value of an entry ends scanning. -/
theorem run?_rows_eq_none {rows : List Row} (h : ∀ r ∈ rows, r.Sound)
    (hends : ∀ r ∈ rows, r.Closed ∨ r.Blocked) (hblocked : ∃ r ∈ rows, r.Blocked) {c : Cursor}
    {allowed : Bool} (hleads : Leads c allowed rows) (ts : List Token) (n : Nat) (opened : Bool)
    {fuel : Nat} (hfuel : (rows.flatMap Row.tokens).length ≤ fuel) :
  (between c ts n opened allowed).run? fuel = none
  := by
  induction rows generalizing c allowed ts n opened fuel with
  | nil => simp at hblocked
  | cons r rows ih =>
    obtain ⟨hsound, hrows⟩ := List.forall_mem_cons.1 h
    obtain ⟨hend, hrest⟩ := List.forall_mem_cons.1 hends
    rw [List.flatMap_cons, List.length_append] at hfuel
    cases r with
    | note cs =>
      have hblocked' : ∃ r ∈ rows, r.Blocked := by simpa [Row.Blocked] using hblocked
      exact ih hrows hrest hblocked' (leads_cons_note.1 hleads) ts n opened (by omega)
    | entry key text tail =>
      have hfour : (Row.entry key text tail).tokens.length = 4 := rfl
      obtain ⟨fuel, rfl⟩ : ∃ k, fuel = k + 3 := ⟨fuel - 3, by omega⟩
      obtain ⟨r, hr, hrblocked⟩ := hblocked
      obtain rfl | hr := List.mem_cons.1 hr
      · exact run?_entry_eq_none hleads hsound hrblocked ts n opened fuel
      · obtain htrail | hobstacle := hend
        · obtain ⟨c', allowed', hleads', hrun⟩ := run?_entry hleads hsound htrail hrows
          obtain ⟨n', hn'⟩ := hrun ts n opened fuel
          rw [hn', ih hrows hrest ⟨r, hr, hrblocked⟩ hleads' _ n' true (by omega)]
        · exact run?_entry_eq_none hleads hsound hobstacle ts n opened fuel

end Scanner

/-- An entry has no more tokens than characters. -/
theorem length_tokens_le {rows : List Row} (h : ∀ r ∈ rows, r.Sound) :
  (rows.flatMap Row.tokens).length ≤ (textOf rows).length
  := by
  induction rows with
  | nil => exact Nat.le_refl 0
  | cons r rows ih =>
    obtain ⟨hr, hrows⟩ := List.forall_mem_cons.1 h
    have hle : r.tokens.length ≤ r.chars.length + 1 := by
      cases hr with
      | empty => exact Nat.zero_le _
      | comment => exact Nat.zero_le _
      | @entry key text tail hkey =>
        have hpos := List.length_pos_iff.2 hkey.ne_nil
        simp [Row.tokens, Row.chars]
        omega
    have := ih hrows
    rw [List.flatMap_cons, textOf_cons, List.length_append, List.length_append, List.length_cons]
    omega

/-- Scanning a file starts at its first line, without a block. -/
theorem scan?_eq_run? {rows : List Row} (h : ∀ r ∈ rows, r.Sound)
    (hallowed : ∀ ch ∈ textOf rows, isAllowed ch = true) :
  Token.scan? (textOf rows)
    = (Scanner.between (.start (textOf rows)) [] 0 false true).run? ((textOf rows).length + 1)
  := by
  have hmark : ((textOf rows).head?.any fun ch => ch.toNat == 0xFEFF) = false := by
    cases hhead : (textOf rows).head? with
    | none => rfl
    | some ch =>
      obtain rfl | rfl | hkey := head?_textOf h hhead
      · rfl
      · rfl
      · have hle := toNat_le_of_isKeyChar hkey
        simp
        omega
  rw [Token.scan?, if_pos (List.all_eq_true.2 hallowed)]
  simp only [hmark]
  rfl

/-- The tokens of a file are those of a block mapping. -/
theorem scan?_textOf {rows : List Row} (h : ∀ r ∈ rows, r.Sound ∧ r.Closed)
    (hentry : ∃ r ∈ rows, r.isNote = false) (hallowed : ∀ ch ∈ textOf rows, isAllowed ch = true) :
  Token.scan? (textOf rows) = some (.mappingStart :: (rows.flatMap Row.tokens ++ [.blockEnd]))
  := by
  have hsound : ∀ r ∈ rows, r.Sound := fun r hr => (h r hr).1
  rw [scan?_eq_run? hsound hallowed]
  apply Scanner.run?_start h (leads_of_textOf hsound rfl rfl) hentry
  exact Nat.lt_succ_of_le (length_tokens_le hsound)

/-- A file has no tokens if there is an obstacle behind a value, or a character that may not stand
in a text. -/
theorem scan?_eq_none {rows : List Row} (h : ∀ r ∈ rows, r.Sound)
    (hends : ∀ r ∈ rows, r.Closed ∨ r.Blocked)
    (hflaw : (∃ r ∈ rows, r.Blocked) ∨ ∃ ch ∈ textOf rows, isAllowed ch = false) :
  Token.scan? (textOf rows) = none
  := by
  by_cases hallowed : ∀ ch ∈ textOf rows, isAllowed ch = true
  · obtain hblocked | ⟨ch, hch, hnot⟩ := hflaw
    · rw [scan?_eq_run? h hallowed]
      apply Scanner.run?_rows_eq_none h hends hblocked (leads_of_textOf h rfl rfl)
      exact Nat.le_succ_of_le (length_tokens_le h)
    · rw [hallowed ch hch] at hnot
      cases hnot
  · rw [Token.scan?, if_neg]
    rwa [List.all_eq_true]

end AnchorIndex.Yaml

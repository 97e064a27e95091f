import AnchorIndex.Proofs.Account.Cutting

/-!
# Layouts of a struct

The parts that the text of an accounts struct is made of, each on lines of its own: the header up to
the opening brace (`IsHeader`), lines that hold comments at most (`IsMargin`), attributes
(`IsAnnotation`), and the line of the closing brace (`IsClosing`). Brackets are those of the
masked text, so what stands in comments and literals is none (`WellNested`). For each part there is
one lemma on what it does to the state of the cutter.
-/

namespace AnchorIndex.Account

open Source (mask maskLine maskLines maskLinesFrom regionAfter)
open Text (allBlank lines strip unlines)

/-! ### Nested brackets -/

/-- The round, square and curly brackets of the text are well nested. -/
inductive WellNested : List Char → Prop
  | nil : WellNested []
  | plain {c : Char} {cs : List Char} (isPlain : c ∉ ['(', ')', '[', ']', '{', '}'])
    (more : WellNested cs) : WellNested (c :: cs)
  | group {inner cs : List Char} (b : Bracket) (counts : b ≠ .angle) (nested : WellNested inner)
    (more : WellNested cs) : WellNested (b.opening :: (inner ++ b.closing :: cs))

theorem WellNested.plain_append {cs ds : List Char}
    (hcs : ∀ c ∈ cs, c ∉ ['(', ')', '[', ']', '{', '}']) (hds : WellNested ds) :
  WellNested (cs ++ ds)
  := by
  induction cs with
  | nil => exact hds
  | cons c cs ih =>
    obtain ⟨hc, hcs⟩ := List.forall_mem_cons.1 hcs
    exact .plain hc (ih hcs)

/-- Reads a text in front of which brackets are open: `awaited` are the characters that close them,
the innermost first. -/
def nests : List Char → List Char → Bool
  | awaited, [] => awaited.isEmpty
  | awaited, c :: cs =>
    if c = '(' then nests (')' :: awaited) cs
    else if c = '[' then nests (']' :: awaited) cs
    else if c = '{' then nests ('}' :: awaited) cs
    else if c ∈ [')', ']', '}'] then awaited.head? == some c && nests awaited.tail cs
    else nests awaited cs

/-- The awaited brackets close one after another, with well-nested texts between them. -/
def Awaits : List Char → List Char → Prop
  | [], cs => WellNested cs
  | d :: awaited, cs => ∃ w rest, cs = w ++ d :: rest ∧ WellNested w ∧ Awaits awaited rest

theorem Awaits.plain {awaited cs : List Char} {c : Char}
    (hc : c ∉ ['(', ')', '[', ']', '{', '}']) (h : Awaits awaited cs) :
  Awaits awaited (c :: cs)
  := by
  cases awaited with
  | nil => exact WellNested.plain hc h
  | cons d awaited =>
    obtain ⟨w, rest, rfl, hw, hrest⟩ := h
    exact ⟨c :: w, rest, rfl, WellNested.plain hc hw, hrest⟩

theorem Awaits.group {awaited cs : List Char} (b : Bracket) (hb : b ≠ .angle)
    (h : Awaits (b.closing :: awaited) cs) :
  Awaits awaited (b.opening :: cs)
  := by
  obtain ⟨w, rest, rfl, hw, hrest⟩ := h
  cases awaited with
  | nil => exact WellNested.group b hb hw hrest
  | cons d awaited =>
    obtain ⟨w', rest, rfl, hw', hrest⟩ := hrest
    exact ⟨b.opening :: (w ++ b.closing :: w'), rest, by simp, WellNested.group b hb hw hw', hrest⟩

theorem awaits_of_nests {awaited cs : List Char} (h : nests awaited cs = true) :
  Awaits awaited cs
  := by
  induction cs generalizing awaited with
  | nil =>
    rw [nests, List.isEmpty_iff] at h
    subst h
    exact .nil
  | cons c cs ih =>
    rw [nests] at h
    split at h
    next hc => exact hc ▸ Awaits.group .round (by decide) (ih h)
    split at h
    next hc => exact hc ▸ Awaits.group .square (by decide) (ih h)
    split at h
    next hc => exact hc ▸ Awaits.group .curly (by decide) (ih h)
    split at h
    next =>
      rw [Bool.and_eq_true, beq_iff_eq] at h
      obtain ⟨awaited, rfl⟩ := List.head?_eq_some_iff.1 h.1
      exact ⟨[], cs, rfl, .nil, ih h.2⟩
    next hround hsquare hcurly hclosing =>
      refine Awaits.plain ?_ (ih h)
      simp only [List.mem_cons, List.not_mem_nil, or_false, not_or] at hclosing ⊢
      exact ⟨hround, hclosing.1, hsquare, hclosing.2.1, hcurly, hclosing.2.2⟩

theorem wellNested_of_nests {cs : List Char} (h : nests [] cs = true) :
  WellNested cs
  := awaits_of_nests h

/-- A count of brackets goes up where some open, down where these close, and no other character
counts. -/
structure CountsBrackets (step : List Char → Int) : Prop where
  append : ∀ cs ds, step (cs ++ ds) = step cs + step ds
  plain : ∀ c, c ∉ ['(', ')', '[', ']', '{', '}'] → step [c] = 0
  opening : ∀ b : Bracket, b ≠ .angle → 0 ≤ step [b.opening]
  closing : ∀ b : Bracket, b ≠ .angle → step [b.opening] + step [b.closing] = 0

theorem countsBrackets_nestingStep :
  CountsBrackets nestingStep
  where
  append := nestingStep_append
  plain := by
    intro c hc
    apply nestingStep_of_forall
    rw [List.forall_mem_singleton]
    exact fun hmem => hc ((List.prefix_append ['(', ')', '[', ']'] ['{', '}']).subset hmem)
  opening := by rintro (_ | _ | _ | _) - <;> decide
  closing := by rintro (_ | _ | _ | _) - <;> decide

theorem countsBrackets_depthStep :
  CountsBrackets depthStep
  where
  append := depthStep_append
  plain := by
    intro c hc
    apply depthStep_of_forall
    rw [List.forall_mem_singleton]
    exact fun hmem => hc ((List.suffix_append ['(', ')', '[', ']'] ['{', '}']).subset hmem)
  opening := by rintro (_ | _ | _ | _) - <;> decide
  closing := by rintro (_ | _ | _ | _) - <;> decide

section

variable {step : List Char → Int} (hstep : CountsBrackets step) {cs : List Char}

include hstep

theorem CountsBrackets.nil :
  step [] = 0
  := by
  have happend := hstep.append [] []
  rw [List.append_nil] at happend
  omega

theorem CountsBrackets.cons (c : Char) (cs : List Char) :
  step (c :: cs) = step [c] + step cs
  := hstep.append [c] cs

/-- At no point of a well-nested text are more brackets closed than opened, and at its end none is
open. -/
theorem WellNested.level (h : WellNested cs) :
  (∀ p, p <+: cs → 0 ≤ step p) ∧ step cs = 0
  := by
  have hnil := hstep.nil
  induction h with
  | nil => exact ⟨fun p hp => by rw [List.prefix_nil.1 hp]; omega, hnil⟩
  | @plain c cs hc _ ih =>
    have hzero := hstep.plain c hc
    constructor
    · intro p hp
      obtain rfl | ⟨q, rfl, hq⟩ := List.prefix_cons_iff.1 hp
      · omega
      · have hrest := ih.1 q hq
        rw [hstep.cons]
        omega
    · rw [hstep.cons, hzero, ih.2]
      rfl
  | @group inner cs b hb _ _ ihinner ih =>
    have hopening := hstep.opening b hb
    have hclosing := hstep.closing b hb
    have hinner := ihinner.2
    constructor
    · intro p hp
      obtain rfl | ⟨q, rfl, s, hs⟩ := List.prefix_cons_iff.1 hp
      · omega
      rw [hstep.cons]
      obtain ⟨between, heq, -⟩ | ⟨between, rfl, hback⟩ := List.append_eq_append_iff.1 hs
      · have hfront := ihinner.1 q ⟨between, heq.symm⟩
        omega
      · rw [hstep.append, hinner]
        obtain rfl | ⟨r, rfl, hr⟩ := List.prefix_cons_iff.1 ⟨s, hback.symm⟩
        · omega
        · have hrest := ih.1 r hr
          rw [hstep.cons b.closing]
          omega
    · have hrest := ih.2
      rw [hstep.cons, hstep.append, hstep.cons b.closing]
      omega

end

/-! ### Parts of a layout -/

/-- Behind the text program text is read. -/
def Rests (text : List Char) : Prop :=
  regionAfter .code (lines text) = .code

instance (text : List Char) : Decidable (Rests text) :=
  inferInstanceAs (Decidable (_ = _))

/-- The text up to the opening brace of a struct, and its line. -/
def IsHeader (text : List Char) : Prop :=
  Rests text ∧ ∃ front behind, mask text = front ++ '{' :: behind
    ∧ (∀ c ∈ front ++ behind, c ∉ ['{', '}']) ∧ '\n' ∉ behind

/-- A line that is blank or holds comments. -/
structure IsMargin (line : List Char) : Prop where
  inLine : '\n' ∉ line
  rests : Rests line
  blank : allBlank (mask line) = true

/-- The text of an attribute on lines of its own. -/
def IsAnnotation (text : List Char) : Prop :=
  Rests text ∧ ∃ indent inner behind, mask text = indent ++ '#' :: '[' :: (inner ++ ']' :: behind)
    ∧ allBlank indent = true ∧ '\n' ∉ indent ∧ WellNested inner
    ∧ allBlank behind = true ∧ '\n' ∉ behind

/-- The line of the brace that closes a struct. -/
def IsClosing (line : List Char) : Prop :=
  '\n' ∉ line ∧ ∃ before behind, mask line = before ++ '}' :: behind
    ∧ allBlank before = true ∧ allBlank behind = true

/-- A line on which the field with this name is declared: of its declaration the line holds at least
the colon. -/
inductive IsFieldLine (name : List Char) : List Char → Prop
  | intro {indent visibility gap rest : List Char} (indent_blank : allBlank indent = true)
    (isVisibility : IsVisibility visibility) (isName : IsName name)
    (gap_blank : allBlank gap = true)
    (inLine : '\n' ∉ indent ++ (visibility ++ (name ++ (gap ++ ':' :: rest))))
    (no_path : rest.head? ≠ some ':') :
    IsFieldLine name (indent ++ (visibility ++ (name ++ (gap ++ ':' :: rest))))

/-! ### Lines of fields -/

theorem mask_eq_of_line {line : List Char} (h : '\n' ∉ line) :
  mask line = (maskLine .code line).1
  := by
  rw [mask, lines, Text.splitAt_of_notMem h]
  simp [maskLines, maskLinesFrom, unlines, Text.joinWith]

theorem IsFieldLine.notMem {name line : List Char} (h : IsFieldLine name line) :
  '\n' ∉ line
  := by
  cases h with
  | intro _ _ _ _ hline _ => exact hline

/-- What is in front of the colon of a field is kept. -/
theorem IsVisibility.mask_append {indent visibility name gap : List Char}
    (h : IsVisibility visibility) (hindent : allBlank indent = true) (hname : IsName name)
    (hgap : allBlank gap = true) (rest : List Char) :
  mask (indent ++ (visibility ++ (name ++ (gap ++ ':' :: rest))))
    = indent ++ (visibility ++ (name ++ (gap ++ ':' :: mask rest)))
  := by
  have hfront : Kept (visibility ++ (name ++ gap)) := by
    have hnested : IsNested true true (name ++ gap) :=
      hname.isNested.1.append (isNested_of_allBlank hgap) (ends_of_allBlank hgap)
    exact (h.isNested.append hnested (hname.isNested.2.append (ends_of_allBlank hgap))).kept
  have htext : ∀ cs, indent ++ (visibility ++ (name ++ (gap ++ ':' :: cs)))
      = indent ++ ((visibility ++ (name ++ gap)) ++ ':' :: cs) := by simp
  have hcolon : Text.isWordChar ':' = false := by decide
  rw [Source.mask_eq_maskPass, htext, htext, maskPass_keep_append (keep_of_allBlank hindent),
    hfront _ _ (ends_cons (by decide) rest), maskPass_keep_of_ne (by decide),
    Source.maskPass_behind hcolon, Source.mask_eq_maskPass]

/-- The line declares the field. -/
theorem IsFieldLine.declares {name line : List Char} (h : IsFieldLine name line) :
  Text.headIs '#' (strip (mask line)) = false ∧ fieldName? (strip (mask line)) = some name
  := by
  cases h with
  | @intro indent visibility gap rest hindent hvisibility hname hgap hline hrest =>
    have hfront : '\n' ∉ visibility ++ (name ++ gap) := by
      intro hmem
      apply hline
      simp only [List.mem_append, List.mem_cons] at hmem ⊢
      tauto
    have hhead : (mask rest).head? ≠ some ':' := by
      rw [Source.mask_eq_maskPass]
      cases rest with
      | nil => simp [Source.maskPass]
      | cons c rest =>
        obtain ⟨_, _, x, hx, heq⟩ := Source.exists_maskPass_cons .code [] [] c rest
        rw [heq]
        rintro hcolon
        cases hcolon
        obtain rfl | hspace := hx
        · exact hrest rfl
        · exact absurd hspace (by decide)
    have hmask := hvisibility.mask_append hindent hname hgap rest
    have hread := hvisibility.declarationFrom?_eq hname hgap hfront hhead
    rw [← declarationFrom?_blank_append hindent, ← hmask, Source.lines_mask, lines,
      Text.splitAt_of_notMem hline] at hread
    have hsingle : maskLines [indent ++ (visibility ++ (name ++ (gap ++ ':' :: rest)))]
        = [mask (indent ++ (visibility ++ (name ++ (gap ++ ':' :: rest))))] := by
      rw [mask_eq_of_line hline]
      rfl
    rw [hsingle] at hread
    by_cases hdeclares : Declares (mask (indent ++ (visibility ++ (name ++ (gap ++ ':' :: rest)))))
    · obtain ⟨hhash, hsome⟩ := hdeclares
      obtain ⟨name', hname'⟩ := Option.isSome_iff_exists.1 hsome
      rw [declarationFrom?_cons_of_some hhash hname'] at hread
      refine ⟨hhash, ?_⟩
      rw [hname']
      exact congrArg (Option.map Prod.fst) hread
    · rw [declarationFrom?_cons_of_not fun h => hdeclares h.2] at hread
      contradiction

/-! ### Rows of texts -/

theorem rows_of_line {line : List Char} (h : '\n' ∉ line) :
  rows .code (lines line) = [(line, mask line)]
  := by
  rw [lines, Text.splitAt_of_notMem h, rows_cons, mask_eq_of_line h]
  rfl

theorem map_rows (region : Source.Region) (ls : List (List Char)) :
  (rows region ls).map Prod.fst = ls ∧ (rows region ls).map Prod.snd = maskLinesFrom region ls
  := by
  induction ls generalizing region with
  | nil => exact ⟨rfl, rfl⟩
  | cons line ls ih =>
    rw [rows_cons, List.map_cons, List.map_cons, (ih _).1, (ih _).2]
    exact ⟨rfl, rfl⟩

/-- The masks of the lines of a text are the lines of its mask. -/
theorem map_snd_rows (text : List Char) :
  (rows .code (lines text)).map Prod.snd = lines (mask text)
  := by
  rw [(map_rows .code _).2, Source.lines_mask]
  rfl

/-- The lines of several texts. -/
theorem lines_unlines_texts {texts : List (List Char)} (h : texts ≠ []) :
  lines (unlines texts) = texts.flatMap lines
  := by
  induction texts with
  | nil => contradiction
  | cons text texts ih =>
    cases texts with
    | nil => simp [unlines, Text.joinWith]
    | cons text' texts =>
      rw [unlines, Text.joinWith_cons_cons, lines, Text.splitAt_append, List.flatMap_cons,
        ← ih (List.cons_ne_nil _ _)]
      rfl

theorem unlines_flatMap_lines {texts : List (List Char)} :
  unlines (texts.flatMap lines) = unlines texts
  := by
  by_cases h : texts = []
  · rw [h]
    rfl
  · rw [← lines_unlines_texts h]
    exact Text.joinWith_splitAt '\n' _

/-- Where each text is at rest, the lines of several texts are masked text by text. -/
theorem rows_flatMap_lines {texts : List (List Char)} (h : ∀ text ∈ texts, Rests text)
    (more : List (List Char)) :
  rows .code (texts.flatMap lines ++ more)
    = texts.flatMap (fun text => rows .code (lines text)) ++ rows .code more
  := by
  induction texts with
  | nil => rfl
  | cons text texts ih =>
    obtain ⟨htext, htexts⟩ := List.forall_mem_cons.1 h
    have hregion : regionAfter .code (lines text) = .code := htext
    rw [List.flatMap_cons, List.append_assoc, rows_append, hregion, ih htexts, List.flatMap_cons,
      List.append_assoc]

/-- So are the masked lines of texts that are at rest. -/
theorem maskLines_flatMap_lines {texts : List (List Char)} (h : ∀ text ∈ texts, Rests text)
    (more : List (List Char)) :
  maskLines (texts.flatMap lines ++ more)
    = texts.flatMap (fun text => lines (mask text)) ++ maskLines more
  := by
  have hrows := congrArg (List.map Prod.snd) (rows_flatMap_lines h more)
  rw [(map_rows .code _).2, List.map_append, (map_rows .code _).2, List.map_flatMap] at hrows
  simp only [map_snd_rows] at hrows
  exact hrows

/-- A count of brackets over a text is the one over its lines. -/
theorem CountsBrackets.changeOver_lines {step : List Char → Int} (hstep : CountsBrackets step)
    (cs : List Char) :
  changeOver step (lines cs) = step cs
  := by
  have hnil := hstep.nil
  induction cs with
  | nil =>
    rw [lines, Text.splitAt_nil, changeOver_singleton]
  | cons c cs ih =>
    by_cases hc : c = '\n'
    · have hnewline : step ['\n'] = 0 := hstep.plain '\n' (by decide)
      rw [hc, lines_newline, changeOver, ih, hstep.cons '\n']
      omega
    · obtain ⟨line, more, hlines, hcons⟩ := exists_lines_cons hc cs
      rw [hlines, changeOver] at ih
      rw [hcons, changeOver, hstep.cons c line, hstep.cons c cs]
      omega

theorem CountsBrackets.changeOver_eq {step : List Char → Int} (hstep : CountsBrackets step)
    {ls : List (List Char)} (hne : ls ≠ []) (hls : ∀ l ∈ ls, '\n' ∉ l) :
  changeOver step ls = step (unlines ls)
  := by
  rw [← hstep.changeOver_lines, Text.lines_unlines hne hls]

/-- The first lines of a text, but for the last of all, hold what is in front of the first line
end. -/
theorem exists_prefix_of_lines {front inner last : List Char} {init ls : List (List Char)}
    (hfront : '\n' ∉ front) (h : lines (front ++ inner) = init ++ [last]) (hls : ls <+: init)
    (hne : ls ≠ []) :
  (∀ l ∈ ls, '\n' ∉ l) ∧ ∃ p, p <+: inner ∧ unlines ls = front ++ p
  := by
  obtain ⟨more, rfl⟩ := hls
  constructor
  · intro l hl
    have hmem : l ∈ lines (front ++ inner) := by
      rw [h]
      exact List.mem_append_left _ (List.mem_append_left _ hl)
    exact Text.notMem_of_mem_splitAt hmem
  · have hwhole : unlines (lines (front ++ inner)) = front ++ inner := Text.joinWith_splitAt '\n' _
    rw [h, List.append_assoc, Text.unlines_append hne (by simp)] at hwhole
    obtain ⟨between, hbetween, hinner⟩ | ⟨between, rfl, -⟩ :=
      Text.before_or_after_of_append_eq hwhole.symm
    · exact ⟨between, ⟨_, hinner.symm⟩, hbetween⟩
    · simp at hfront

/-! ### What the parts do to the cutter -/

section

variable {text line : List Char} {declaring : Bool} {pending chunks : List (List Char)}
  {more : List (List Char × List Char)}

theorem cutFrom_outside_rows {rs : List (List Char × List Char)}
    (h : ∀ r ∈ rs, depthStep r.2 = 0) :
  cutFrom ⟨0, 0, declaring, pending, chunks⟩ (rs ++ more)
    = cutFrom ⟨0, 0, declaring, pending, chunks⟩ more
  := by
  induction rs with
  | nil => rfl
  | cons r rs ih =>
    obtain ⟨hr, hrs⟩ := List.forall_mem_cons.1 h
    rw [List.cons_append, cutFrom_outside rfl, hr, Int.add_zero, ih hrs]

/-- The rows of a text whose mask ends with a line of two parts. -/
theorem exists_rows_concat {front behind : List Char} (hmask : mask text = front ++ behind)
    (hbehind : '\n' ∉ behind) :
  ∃ rs raw init last, rows .code (lines text) = rs ++ [(raw, last ++ behind)]
    ∧ rs.map Prod.snd = init ∧ lines front = init ++ [last]
  := by
  obtain ⟨init, last, hfront, hwhole⟩ := exists_lines_concat hbehind front
  have hrows := map_snd_rows text
  rw [hmask, hwhole, List.map_eq_append_iff] at hrows
  obtain ⟨rs, back, hrows, hinit, hback⟩ := hrows
  obtain ⟨⟨raw, masked⟩, rfl, rfl⟩ := List.map_eq_singleton_iff.1 hback
  exact ⟨rs, raw, init, last, hrows, hinit, hfront⟩

/-- Behind the header the cutting begins. -/
theorem cutFrom_header (h : IsHeader text) :
  cutFrom ⟨0, 0, declaring, pending, chunks⟩ (rows .code (lines text) ++ more)
    = cutFrom ⟨1, 0, declaring, pending, chunks⟩ more
  := by
  obtain ⟨-, front, behind, hmask, hbraces, hbehind⟩ := h
  obtain ⟨rs, raw, init, last, hrows, rfl, hfront⟩ :=
    @exists_rows_concat _ front ('{' :: behind) hmask (by simpa using hbehind)
  obtain ⟨hnoFront, hnoBehind⟩ := List.forall_mem_append.1 hbraces
  have hline : ∀ l ∈ lines front, depthStep l = 0 := by
    intro l hl
    apply depthStep_of_forall
    exact fun c hc => hnoFront c (Text.mem_of_mem_splitAt hl hc)
  rw [hfront] at hline
  have hrs : ∀ r ∈ rs, depthStep r.2 = 0 :=
    fun r hr => hline r.2 (List.mem_append_left _ (List.mem_map_of_mem hr))
  have hbrace : depthStep (last ++ '{' :: behind) = 1 := by
    have hopening : depthStep ['{'] = 1 := rfl
    rw [depthStep_append, countsBrackets_depthStep.cons, hline last (by simp), hopening,
      depthStep_of_forall hnoBehind]
    rfl
  rw [hrows, List.append_assoc, cutFrom_outside_rows hrs, List.singleton_append,
    cutFrom_outside rfl, hbrace]
  rfl

/-- In front of a chunk a line without more than comments is skipped. -/
theorem cutFrom_margin (h : IsMargin line) :
  cutFrom ⟨1, 0, declaring, [], chunks⟩ (rows .code (lines line) ++ more)
    = cutFrom ⟨1, 0, declaring, [], chunks⟩ more
  := by
  rw [rows_of_line h.inLine, List.singleton_append]
  exact cutFrom_blank (by simp) h.blank rfl

/-- With the line of the closing brace the cutting ends. -/
theorem cutFrom_isClosing (h : IsClosing line) (ls : List (List Char)) :
  cutFrom ⟨1, 0, declaring, pending, chunks⟩ (rows .code (line :: ls))
    = Cutter.finish ⟨1, 0, declaring, pending, chunks⟩
  := by
  obtain ⟨hline, before, behind, hmask, hbefore, hbehind⟩ := h
  have hbrace : depthStep (mask line) = -1 := by
    have hclosing : depthStep ['}'] = -1 := rfl
    rw [hmask, depthStep_append, countsBrackets_depthStep.cons, hclosing,
      depthStep_of_allBlank hbefore, depthStep_of_allBlank hbehind]
    rfl
  have hbraces : IsBraces (mask line) := by
    have hstrip : strip (mask line) = ['}'] := by
      rw [hmask, ← List.singleton_append, Text.strip_append_blank hbefore hbehind]
      rfl
    rw [IsBraces, hstrip]
    rfl
  rw [rows_cons, ← mask_eq_of_line hline]
  apply cutFrom_closing rfl _ hbraces
  change 1 + depthStep (mask line) < 1
  omega

/-- A line that does not end with a comma is added to the present chunk. -/
theorem exists_cutFrom_gather (s : Cutter) (raw : List Char) {masked : List Char}
    (more : List (List Char × List Char)) (hdepth : s.depth ≠ 0)
    (hinside : 1 ≤ s.depth + depthStep masked) (hshown : allBlank masked = false)
    (hcomma : Text.lastIs ',' (strip masked) = false) :
  ∃ declaring', cutFrom s ((raw, masked) :: more)
    = cutFrom { s.gather (s.depth + depthStep masked) raw masked with
        declaring := declaring' } more
  := by
  have hsolid : allBlank masked = true → s.pending ≠ [] := by
    rw [hshown]
    exact fun h => absurd h Bool.false_ne_true
  cases hcontinues : continues (s.nesting + nestingStep masked) (strip masked) with
  | true => exact ⟨s.declaring, cutFrom_continues hdepth hinside hsolid hcontinues⟩
  | false =>
    refine ⟨s.declares masked, cutFrom_open hdepth hinside hsolid hcontinues ?_⟩
    rw [hcomma, Bool.and_false]

/-- A line that goes on with an attribute or a comment, or that neither begins a declaration nor
ends the one that has begun. -/
def GoesOn (declaring : Bool) (nesting : Int) (line : List Char) : Prop :=
  continues nesting (strip line) = true
    ∨ declaring = false ∧ fieldName? (strip line) = none
    ∨ declaring = true ∧ Text.lastIs ',' (strip line) = false

instance (declaring : Bool) (nesting : Int) (line : List Char) :
    Decidable (GoesOn declaring nesting line) :=
  inferInstanceAs (Decidable (_ ∨ _))

/-- No line begins a declaration or ends the one that has begun. -/
def PassedOver (declaring : Bool) : Int → List (List Char) → Prop
  | _, [] => True
  | nesting, line :: ls =>
    GoesOn declaring (nesting + nestingStep line) line
      ∧ PassedOver declaring (nesting + nestingStep line) ls

instance PassedOver.decidable (declaring : Bool) (nesting : Int) (ls : List (List Char)) :
    Decidable (PassedOver declaring nesting ls) :=
  match ls with
  | [] => inferInstanceAs (Decidable True)
  | line :: ls =>
    have := PassedOver.decidable declaring (nesting + nestingStep line) ls
    inferInstanceAs (Decidable (_ ∧ _))

theorem passedOver_of_open {nesting : Int} {ls : List (List Char)}
    (h : ∀ front, front <+: ls → front ≠ [] → 0 < nesting + changeOver nestingStep front) :
  PassedOver declaring nesting ls
  := by
  induction ls generalizing nesting with
  | nil => trivial
  | cons line ls ih =>
    have hfirst := h [line] (by simp) (List.cons_ne_nil _ _)
    rw [changeOver_singleton] at hfirst
    refine ⟨.inl ?_, ih ?_⟩
    · rw [continues, decide_eq_true hfirst]
      rfl
    · intro front hfront hne
      have hmore := h (line :: front) (List.cons_prefix_cons.2 ⟨rfl, hfront⟩) (List.cons_ne_nil _ _)
      simpa [changeOver, Int.add_assoc] using hmore

/-- Lines that are passed over are added to the present chunk. -/
theorem cutFrom_passedOver {s : Cutter} {rs : List (List Char × List Char)}
    (hdepth : 1 ≤ s.depth) (hshown : s.pending = [] → ∀ r ∈ rs.head?, allBlank r.2 = false)
    (hinside : ∀ front, front <+: rs.map Prod.snd → 1 ≤ s.depth + changeOver depthStep front)
    (hpassed : PassedOver s.declaring s.nesting (rs.map Prod.snd)) :
  cutFrom s (rs ++ more)
    = cutFrom { s with
        depth := s.depth + changeOver depthStep (rs.map Prod.snd)
        nesting := s.nesting + changeOver nestingStep (rs.map Prod.snd)
        pending := (rs.map Prod.fst).reverse ++ s.pending } more
  := by
  induction rs generalizing s with
  | nil => simp [changeOver]
  | cons r rs ih =>
    obtain ⟨raw, masked⟩ := r
    obtain ⟨hline, hpassed⟩ := hpassed
    have hdepth' := hinside [masked] (by simp)
    rw [changeOver_singleton] at hdepth'
    have hblank : allBlank masked = true → s.pending ≠ [] := by
      intro hall hnil
      rw [hshown hnil _ rfl] at hall
      contradiction
    have hcut : cutFrom s ((raw, masked) :: (rs ++ more))
        = cutFrom (s.gather (s.depth + depthStep masked) raw masked) (rs ++ more) := by
      cases hcontinues : continues (s.nesting + nestingStep masked) (strip masked) with
      | true => exact cutFrom_continues (by omega) hdepth' hblank hcontinues
      | false =>
        have hopen : s.declares masked = s.declaring
            ∧ (s.declares masked && Text.lastIs ',' (strip masked)) = false := by
          obtain h | ⟨hdeclaring, hname⟩ | ⟨hdeclaring, hcomma⟩ := hline
          · rw [hcontinues] at h
            contradiction
          · rw [Cutter.declares, hdeclaring, hname]
            exact ⟨rfl, rfl⟩
          · rw [Cutter.declares, hdeclaring, hcomma]
            exact ⟨rfl, rfl⟩
        rw [cutFrom_open (by omega) hdepth' hblank hcontinues hopen.2, hopen.1]
        rfl
    rw [List.cons_append, hcut,
      ih hdepth' (fun hnil => absurd hnil (List.cons_ne_nil _ _)) _ hpassed]
    · simp [Cutter.gather, changeOver, Int.add_assoc]
    · intro front hfront
      have hmore := hinside (masked :: front) (List.cons_prefix_cons.2 ⟨rfl, hfront⟩)
      simpa [Cutter.gather, changeOver, Int.add_assoc] using hmore

/-- Where a line of an attribute ends, but for the last one, its bracket is open. -/
theorem open_of_prefix {indent inner last : List Char} {init ls : List (List Char)}
    (hindent : allBlank indent = true) (hindent_line : '\n' ∉ indent) (hinner : WellNested inner)
    (hlines : lines (indent ++ '#' :: '[' :: inner) = init ++ [last]) (hls : ls <+: init)
    (hne : ls ≠ []) :
  0 < changeOver nestingStep ls ∧ 0 ≤ changeOver depthStep ls ∧ '#' ∈ unlines ls
  := by
  have htext : indent ++ '#' :: '[' :: inner = (indent ++ ['#', '[']) ++ inner := by simp
  rw [htext] at hlines
  have hfront : '\n' ∉ indent ++ ['#', '['] := by simpa using hindent_line
  obtain ⟨hnewline, p, hp, heq⟩ := exists_prefix_of_lines hfront hlines hls hne
  have hnesting := (hinner.level countsBrackets_nestingStep).1 p hp
  have hdepth := (hinner.level countsBrackets_depthStep).1 p hp
  have hsquare : nestingStep ['#', '['] = 1 ∧ depthStep ['#', '['] = 0 := ⟨rfl, rfl⟩
  refine ⟨?_, ?_, by rw [heq]; simp⟩
  · rw [countsBrackets_nestingStep.changeOver_eq hne hnewline, heq, nestingStep_append,
      nestingStep_append, nestingStep_of_allBlank hindent, hsquare.1]
    omega
  · rw [countsBrackets_depthStep.changeOver_eq hne hnewline, heq, depthStep_append,
      depthStep_append, depthStep_of_allBlank hindent, hsquare.2]
    omega

/-- The brackets of an attribute are closed behind it. -/
theorem IsAnnotation.level (h : IsAnnotation text) {step : List Char → Int}
    (hstep : CountsBrackets step) :
  step (mask text) = 0
  := by
  obtain ⟨-, indent, inner, behind, hmask, hindent, -, hinner, hbehind, -⟩ := h
  have hblank : ∀ {blanks : List Char}, allBlank blanks = true → step blanks = 0 := by
    intro blanks hall
    have hnested : WellNested (blanks ++ []) := by
      apply WellNested.plain_append _ .nil
      exact fun c hc => notMem_of_all (by decide) (Text.allBlank_iff.1 hall c hc)
    rw [List.append_nil] at hnested
    exact (hnested.level hstep).2
  have hgroup := hstep.closing .square (by decide)
  have hhash := hstep.plain '#' (by decide)
  rw [hmask, hstep.append, hblank hindent, hstep.cons '#', hstep.cons '[', hstep.append,
    (hinner.level hstep).2, hstep.cons ']', hblank hbehind]
  simp only [Bracket.opening, Bracket.closing] at hgroup
  omega

/-- No bracket is open behind attributes. -/
theorem changeOver_annotations {attributes : List (List Char)}
    (h : ∀ a ∈ attributes, IsAnnotation a) :
  changeOver nestingStep (attributes.flatMap fun a => lines (mask a)) = 0
  := by
  induction attributes with
  | nil => rfl
  | cons a attributes ih =>
    obtain ⟨ha, hattributes⟩ := List.forall_mem_cons.1 h
    have hfirst : changeOver nestingStep (lines (mask a)) = 0 := by
      rw [countsBrackets_nestingStep.changeOver_lines, ha.level countsBrackets_nestingStep]
    rw [List.flatMap_cons, changeOver_append, hfirst, ih hattributes]
    rfl

/-- The last line of an attribute closes what the lines above it leave open. It is not blank and
does not end with a comma. -/
theorem IsAnnotation.exists_rows (h : IsAnnotation text) :
  ∃ rs raw masked, rows .code (lines text) = rs ++ [(raw, masked)]
    ∧ (∀ ls, ls <+: rs.map Prod.snd → ls ≠ [] →
      0 < changeOver nestingStep ls ∧ 0 ≤ changeOver depthStep ls ∧ '#' ∈ unlines ls)
    ∧ changeOver nestingStep (rs.map Prod.snd) + nestingStep masked = 0
    ∧ changeOver depthStep (rs.map Prod.snd) + depthStep masked = 0
    ∧ allBlank masked = false ∧ Text.lastIs ',' (strip masked) = false
  := by
  have hnesting := h.level countsBrackets_nestingStep
  have hdepth := h.level countsBrackets_depthStep
  obtain ⟨-, indent, inner, behind, hmask, hindent, hindent_line, hinner, hbehind, hbehind_line⟩ :=
    h
  have hsplit : mask text = (indent ++ '#' :: '[' :: inner) ++ (']' :: behind) := by
    rw [hmask]
    simp
  obtain ⟨rs, raw, init, last, hrows, hinit, hlines⟩ :=
    exists_rows_concat hsplit (by simpa using hbehind_line)
  have hmasks : lines (mask text) = init ++ [last ++ ']' :: behind] := by
    rw [← map_snd_rows, hrows, ← hinit, List.map_append]
    rfl
  rw [← countsBrackets_nestingStep.changeOver_lines, hmasks, changeOver_append,
    changeOver_singleton] at hnesting
  rw [← countsBrackets_depthStep.changeOver_lines, hmasks, changeOver_append,
    changeOver_singleton] at hdepth
  refine ⟨rs, raw, last ++ ']' :: behind, hrows, ?_, ?_, ?_, ?_, ?_⟩
  · intro ls hls hne
    rw [hinit] at hls
    exact open_of_prefix hindent hindent_line hinner hlines hls hne
  · rw [hinit]
    exact hnesting
  · rw [hinit]
    exact hdepth
  · rw [← Bool.not_eq_true]
    exact fun hall => notMem_of_allBlank (d := ']') (by decide) hall (by simp)
  · have hstrip : strip (last ++ ']' :: behind) = strip (last ++ [']']) := by
      rw [← List.singleton_append, ← List.append_assoc, strip_append_of_allBlank hbehind]
    obtain ⟨a, b, -, -, hconcat⟩ := exists_strip_concat (c := ']') (by decide) last
    rw [hstrip, hconcat, Text.lastIs, List.getLast?_concat]
    rfl

/-- The lines of an attribute are added to the present chunk. -/
theorem cutFrom_annotated (h : IsAnnotation text) :
  ∃ declaring', cutFrom ⟨1, 0, declaring, pending, chunks⟩ (rows .code (lines text) ++ more)
    = cutFrom ⟨1, 0, declaring', (lines text).reverse ++ pending, chunks⟩ more
  := by
  obtain ⟨rs, raw, masked, hrows, hopen, hnesting, hdepth, hsolid, hcomma⟩ := h.exists_rows
  have hfirst : pending = [] → ∀ r ∈ rs.head?, allBlank r.2 = false := by
    intro _ r hr
    obtain ⟨rs, rfl⟩ := List.head?_eq_some_iff.1 hr
    obtain ⟨-, -, hhash⟩ := hopen [r.2] ⟨rs.map Prod.snd, rfl⟩ (List.cons_ne_nil _ _)
    rw [← Bool.not_eq_true]
    intro hall
    have hmem : '#' ∈ r.2 := by simpa [unlines, Text.joinWith] using hhash
    exact notMem_of_allBlank (by decide) hall hmem
  have hpassed : PassedOver declaring 0 (rs.map Prod.snd) := by
    apply passedOver_of_open
    intro ls hls hne
    have hpos := (hopen ls hls hne).1
    omega
  have hstays : ∀ ls, ls <+: rs.map Prod.snd → (1 : Int) ≤ 1 + changeOver depthStep ls := by
    intro ls hls
    by_cases hnil : ls = []
    · rw [hnil]
      decide
    · have hnonneg := (hopen ls hls hnil).2.1
      omega
  have hinside := hstays _ (List.prefix_refl _)
  obtain ⟨declaring', hcut⟩ := exists_cutFrom_gather
    ⟨1 + changeOver depthStep (rs.map Prod.snd), 0 + changeOver nestingStep (rs.map Prod.snd),
      declaring, (rs.map Prod.fst).reverse ++ pending, chunks⟩ raw more
    (by dsimp only; omega) (by dsimp only; omega) hsolid hcomma
  have hraws : (lines text).reverse = raw :: (rs.map Prod.fst).reverse := by
    have hfst := (map_rows .code (lines text)).1
    rw [hrows, List.map_append] at hfst
    rw [← hfst, List.reverse_append]
    rfl
  refine ⟨declaring', ?_⟩
  rw [hrows, List.append_assoc, cutFrom_passedOver (Int.le_refl 1) hfirst hstays hpassed,
    List.singleton_append, hraws]
  refine hcut.trans ?_
  congr 1
  simp only [Cutter.gather, Cutter.mk.injEq, List.cons_append, and_true]
  exact ⟨by omega, by omega⟩

end

/-! ### A struct of parts -/

/-- Behind the header the parts of a struct are cut one after another. -/
theorem chunks_of_texts {header closing : List Char} {texts : List (List Char)}
    (hheader : IsHeader header) (htexts : ∀ text ∈ texts, Rests text)
    (hclosing : IsClosing closing) (rest : List (List Char)) :
  chunks (unlines (header :: (texts ++ closing :: rest)))
    = cutFrom ⟨1, 0, false, [], []⟩ (texts.flatMap (fun text => rows .code (lines text))
        ++ rows .code (closing :: rest.flatMap lines))
  := by
  have hrests : ∀ text ∈ header :: texts, Rests text := List.forall_mem_cons.2 ⟨hheader.1, htexts⟩
  have hlines : lines (unlines (header :: (texts ++ closing :: rest)))
      = (header :: texts).flatMap lines ++ closing :: rest.flatMap lines := by
    have hsingle : lines closing = [closing] := Text.splitAt_of_notMem hclosing.1
    rw [lines_unlines_texts (List.cons_ne_nil _ _)]
    simp [hsingle]
  rw [chunks_eq, hlines, rows_flatMap_lines hrests, List.flatMap_cons, List.append_assoc,
    cutFrom_header hheader]

end AnchorIndex.Account

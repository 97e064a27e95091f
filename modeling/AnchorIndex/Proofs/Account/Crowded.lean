import AnchorIndex.Proofs.Account.Listing

/-!
# Structs with crowded and broken lines

Whether a field is found depends on where its line begins and ends. A declaration counts if it
begins a line that ends outside brackets (`IsDeclared`), also if it goes on on other lines. What
stands behind an attribute or behind another field on a line declares nothing (`IsAside`): there is
one record for each declaration that counts, and it has the constraints of all attributes up to
there (`fields_of_stretches`). So fields are lost, and their constraints are those of others
(`fields_of_crowded`).
-/

namespace AnchorIndex.Account

open Source (mask maskLines)
open Text (allBlank lines strip unlines)

/-! ### Asides and declarations -/

/-- Lines with which no field is found: they may hold comments, attributes, what stands behind
these, ends of declarations, and declarations on lines that end inside brackets. -/
structure IsAside (text : List Char) : Prop where
  rests : Rests text
  nested : WellNested (mask text)
  passed : PassedOver false 0 (lines (mask text))
  closed : AttributesClosed text
  shown : (∀ line ∈ (lines (mask text)).head?, allBlank line = false)
    ∨ IsMargin text ∧ ¬ attributeStart <:+: text

/-- The text of a field whose declaration begins it, with other fields behind it perhaps. The first
line ends outside brackets. -/
structure IsDeclared (name text : List Char) : Prop where
  rests : Rests text
  nested : WellNested (mask text)
  begins : ∃ line ls, lines text = line :: ls ∧ IsFieldLine name line ∧ nestingStep (mask line) = 0

/-- The declaration at the start of the text ends with its last line and not before: a comma stands
at the end of the line, outside brackets. -/
def IsComplete (text : List Char) : Prop :=
  ∃ front last, lines (mask text) = front ++ [last] ∧ PassedOver true 0 front
    ∧ ¬ GoesOn true 0 last

/-- The lines up to the one with which a field is cut off. -/
structure Stretch where
  asides : List (List Char)
  name : List Char
  declaration : List Char

/-- The parts of a stretch, each on lines of its own. -/
def Stretch.texts (s : Stretch) : List (List Char) :=
  s.asides ++ [s.declaration]

/-- The name of the first declaration: the field's own, unless a line of another one ends inside
brackets. -/
def Stretch.firstName (s : Stretch) : List Char :=
  (s.asides.findSome? fun text => (declaration? text).map Prod.fst).getD s.name

/-- The record of a stretch has the constraints of all attributes in it, and the name and type of
its declaration if nothing else is declared in it. -/
def Stretch.IsRecord (s : Stretch) (f : Field) : Prop :=
  ∃ type, f = .ofParts s.firstName (.ofText type) (s.texts.flatMap constraints)
    ∧ ((∀ text ∈ s.asides, declaration? text = none) →
      s.firstName = s.name ∧ declaration? s.declaration = some (s.name, type))

/-- The parts of a stretch are asides and a declaration. -/
structure Stretch.Fits (s : Stretch) : Prop where
  asides : ∀ text ∈ s.asides, IsAside text
  declared : IsDeclared s.name s.declaration

/-- Each declaration ends with its text. The last one may go up to the end of the struct. -/
def Laid (tail : List (List Char)) : List Stretch → Prop
  | [] => ∀ text ∈ tail, IsAside text
  | s :: ss => s.Fits ∧ Laid tail ss
    ∧ (IsComplete s.declaration
      ∨ PassedOver true 0 (lines (mask s.declaration)) ∧ ss = [] ∧ tail = [])

/-! ### Lines of a text -/

/-- At the end of a line of a well-nested text no more brackets are closed than opened. -/
theorem WellNested.changeOver_nonneg {cs : List Char} (h : WellNested cs) {ls : List (List Char)}
    (hls : ls <+: lines cs) :
  0 ≤ changeOver depthStep ls
  := by
  by_cases hne : ls = []
  · rw [hne]
    decide
  obtain ⟨more, hmore⟩ := hls
  have hnewline : ∀ l ∈ ls, '\n' ∉ l := by
    intro l hl
    have hmem : l ∈ lines cs := by
      rw [← hmore]
      exact List.mem_append_left _ hl
    exact Text.notMem_of_mem_splitAt hmem
  have hstarts : unlines ls <+: cs := by
    have hwhole : unlines (lines cs) = cs := Text.joinWith_splitAt '\n' cs
    rw [← hwhole, ← hmore]
    by_cases hnil : more = []
    · rw [hnil, List.append_nil]
    · rw [Text.unlines_append hne hnil]
      exact List.prefix_append _ _
  rw [countsBrackets_depthStep.changeOver_eq hne hnewline]
  exact (h.level countsBrackets_depthStep).1 _ hstarts

/-- All brackets of a well-nested text are closed behind its lines. -/
theorem WellNested.sums_lines {cs : List Char} (h : WellNested cs) :
  changeOver depthStep (lines cs) = 0 ∧ changeOver nestingStep (lines cs) = 0
  := by
  rw [countsBrackets_depthStep.changeOver_lines,
    countsBrackets_nestingStep.changeOver_lines]
  exact ⟨(h.level countsBrackets_depthStep).2, (h.level countsBrackets_nestingStep).2⟩

/-! ### Cutting stretches -/

section

variable {declaring : Bool} {pending chunks : List (List Char)} {raw masked text name : List Char}
  {more : List (List Char × List Char)}

/-- An aside is added to the present chunk. Only a comment may be left out. -/
theorem IsAside.cutFrom_eq (h : IsAside text) :
  cutFrom ⟨1, 0, false, pending, chunks⟩ (rows .code (lines text) ++ more)
      = cutFrom ⟨1, 0, false, (lines text).reverse ++ pending, chunks⟩ more
    ∨ declaration? text = none ∧ constraints text = []
      ∧ cutFrom ⟨1, 0, false, pending, chunks⟩ (rows .code (lines text) ++ more)
        = cutFrom ⟨1, 0, false, pending, chunks⟩ more
  := by
  have hmasks := map_snd_rows text
  have hraws := (map_rows .code (lines text)).1
  obtain ⟨hdepth, hnesting⟩ := h.nested.sums_lines
  have hadded (hshown : pending = [] →
      ∀ r ∈ (rows .code (lines text)).head?, allBlank r.2 = false) :
      cutFrom ⟨1, 0, false, pending, chunks⟩ (rows .code (lines text) ++ more)
        = cutFrom ⟨1, 0, false, (lines text).reverse ++ pending, chunks⟩ more := by
    have hinside : ∀ ls, ls <+: (rows .code (lines text)).map Prod.snd →
        (1 : Int) ≤ 1 + changeOver depthStep ls := by
      intro ls hls
      rw [hmasks] at hls
      have hnonneg := h.nested.changeOver_nonneg hls
      omega
    have hpassed := h.passed
    rw [← hmasks] at hpassed
    rw [cutFrom_passedOver (Int.le_refl 1) hshown hinside hpassed]
    dsimp only
    rw [hmasks, hraws, hdepth, hnesting]
    rfl
  obtain hshown | ⟨hmargin, hno⟩ := h.shown
  · left
    apply hadded
    intro _ r hr
    apply hshown
    rw [← hmasks, List.head?_map, hr]
    rfl
  · by_cases hpending : pending = []
    · right
      refine ⟨?_, ?_, by rw [hpending, cutFrom_margin hmargin]⟩
      · rw [declaration?_eq]
        exact declarationFrom?_of_allBlank hmargin.blank 0
      · rw [constraints, attributeBodies_of_none (Text.cutAt?_eq_none_iff.2 hno)]
        rfl
    · exact .inl (hadded fun h => absurd h hpending)

/-- The chunk of a stretch is made of the asides and the declaration, but comments may be left
out. -/
def Stretch.IsChunk (s : Stretch) (chunk : List Char) : Prop :=
  ∃ kept, kept ⊆ s.asides
    ∧ kept.findSome? (fun text => (declaration? text).map Prod.fst)
      = s.asides.findSome? (fun text => (declaration? text).map Prod.fst)
    ∧ kept.flatMap constraints = s.asides.flatMap constraints
    ∧ chunk = Text.stripRight (unlines (kept ++ [s.declaration]))

theorem exists_cutFrom_asides {asides : List (List Char)} (h : ∀ text ∈ asides, IsAside text) :
  ∃ kept, kept ⊆ asides
    ∧ kept.findSome? (fun text => (declaration? text).map Prod.fst)
      = asides.findSome? (fun text => (declaration? text).map Prod.fst)
    ∧ kept.flatMap constraints = asides.flatMap constraints
    ∧ cutFrom ⟨1, 0, false, pending, chunks⟩
        (asides.flatMap (fun text => rows .code (lines text)) ++ more)
      = cutFrom ⟨1, 0, false, (kept.flatMap lines).reverse ++ pending, chunks⟩ more
  := by
  induction asides generalizing pending with
  | nil => exact ⟨[], List.Subset.refl _, rfl, rfl, rfl⟩
  | cons text asides ih =>
    obtain ⟨htext, hasides⟩ := List.forall_mem_cons.1 h
    rw [@List.flatMap_cons _ _ text asides (fun text => rows .code (lines text)),
      List.append_assoc]
    obtain hcut | ⟨hdeclares, hnone, hcut⟩ := @htext.cutFrom_eq pending chunks text
      (asides.flatMap (fun text => rows .code (lines text)) ++ more)
    · obtain ⟨kept, hkept, hnames, hconstraints, hrest⟩ :=
        @ih ((lines text).reverse ++ pending) hasides
      refine ⟨text :: kept, List.cons_subset_cons _ hkept, ?_, ?_, ?_⟩
      · rw [List.findSome?_cons, List.findSome?_cons, hnames]
      · rw [List.flatMap_cons, List.flatMap_cons, hconstraints]
      · rw [hcut, hrest, List.flatMap_cons, List.reverse_append, List.append_assoc]
    · obtain ⟨kept, hkept, hnames, hconstraints, hrest⟩ := @ih pending hasides
      refine ⟨kept, List.subset_cons_of_subset _ hkept, ?_, ?_, ?_⟩
      · rw [hnames, List.findSome?_cons, hdeclares]
        rfl
      · rw [hconstraints, List.flatMap_cons, hnone]
        rfl
      · rw [hcut, hrest]

/-- On a line that declares a field outside brackets the declaration has begun. -/
theorem cutFrom_declares (hname : fieldName? (strip masked) = some name)
    (hcontinues : continues (0 + nestingStep masked) (strip masked) = false)
    (hdepth : 0 ≤ depthStep masked) :
  cutFrom ⟨1, 0, false, pending, chunks⟩ ((raw, masked) :: more)
    = cutFrom ⟨1, 0, true, pending, chunks⟩ ((raw, masked) :: more)
  := by
  have hsolid : allBlank masked = true → pending ≠ [] := by
    intro hblank
    rw [Text.strip_eq_nil_iff.2 hblank] at hname
    contradiction
  have hinside : (1 : Int) ≤ 1 + depthStep masked := by omega
  rw [cutFrom_take Int.one_ne_zero hinside hsolid, cutFrom_take Int.one_ne_zero hinside hsolid]
  congr 1
  simp only [Cutter.take, hcontinues, hname, Option.isSome_some, Bool.or_true]
  rfl

section

variable (h : IsDeclared name text)

include h

theorem IsDeclared.exists_rows :
  ∃ line rs, rows .code (lines text) = (line, mask line) :: rs ∧ IsFieldLine name line
    ∧ nestingStep (mask line) = 0
  := by
  obtain ⟨line, ls, hlines, hline, hnesting⟩ := h.begins
  refine ⟨line, rows (Source.maskLine .code line).2 ls, ?_, hline, hnesting⟩
  rw [hlines, rows_cons, mask_eq_of_line hline.notMem]

theorem IsDeclared.inside {front : List (List Char)} (hfront : front <+: lines (mask text)) :
  (1 : Int) ≤ 1 + changeOver depthStep front
  := by
  have hnonneg := h.nested.changeOver_nonneg hfront
  omega

theorem IsDeclared.shown {r : List Char × List Char}
    (hr : r ∈ (rows .code (lines text)).head?) :
  allBlank r.2 = false
  := by
  obtain ⟨line, rs, hrows, hline, -⟩ := h.exists_rows
  rw [hrows] at hr
  obtain rfl := Option.some.inj hr
  rw [← Bool.not_eq_true]
  intro hblank
  have hname := hline.declares.2
  rw [Text.strip_eq_nil_iff.2 hblank] at hname
  contradiction

/-- The declaration begins with the first line. -/
theorem IsDeclared.cutFrom_begins :
  cutFrom ⟨1, 0, false, pending, chunks⟩ (rows .code (lines text) ++ more)
    = cutFrom ⟨1, 0, true, pending, chunks⟩ (rows .code (lines text) ++ more)
  := by
  obtain ⟨line, rs, hrows, hline, hnesting⟩ := h.exists_rows
  obtain ⟨hhash, hname⟩ := hline.declares
  have hdepth : 0 ≤ depthStep (mask line) := by
    have hstarts : [mask line] <+: lines (mask text) := by
      rw [← map_snd_rows, hrows]
      exact ⟨rs.map Prod.snd, rfl⟩
    have hnonneg := h.nested.changeOver_nonneg hstarts
    simpa [changeOver] using hnonneg
  rw [hrows, List.cons_append]
  exact cutFrom_declares hname (continues_of_fieldName? (by omega) hhash hname) hdepth

/-- A declaration that does not end is added to the present chunk. -/
theorem IsDeclared.cutFrom_passedOver (hpassed : PassedOver true 0 (lines (mask text))) :
  cutFrom ⟨1, 0, false, pending, chunks⟩ (rows .code (lines text) ++ more)
    = cutFrom ⟨1, 0, true, (lines text).reverse ++ pending, chunks⟩ more
  := by
  obtain ⟨hdepth, hnesting⟩ := h.nested.sums_lines
  have hmasks := map_snd_rows text
  rw [h.cutFrom_begins, Account.cutFrom_passedOver (Int.le_refl 1) (fun _ r hr => h.shown hr)]
  · dsimp only
    rw [hmasks, (map_rows _ _).1, hdepth, hnesting]
    rfl
  · rw [hmasks]
    exact fun front hfront => h.inside hfront
  · rw [hmasks]
    exact hpassed

/-- With its end a chunk ends. -/
theorem IsDeclared.cutFrom_isComplete (hcomplete : IsComplete text) :
  cutFrom ⟨1, 0, false, pending, chunks⟩ (rows .code (lines text) ++ more)
    = cutFrom ⟨1, 0, false, [],
        Text.stripRight (unlines (pending.reverse ++ lines text)) :: chunks⟩ more
  := by
  obtain ⟨front, last, hlines, hpassed, hlast⟩ := hcomplete
  obtain ⟨hdepth, hnesting⟩ := h.nested.sums_lines
  rw [hlines, changeOver_append, changeOver_singleton] at hdepth
  rw [hlines, changeOver_append, changeOver_singleton] at hnesting
  have hmasks := map_snd_rows text
  rw [hlines, List.map_eq_append_iff] at hmasks
  obtain ⟨rs, back, hrows, hfront, hback⟩ := hmasks
  obtain ⟨⟨raw, masked⟩, rfl, hmasked⟩ := List.map_eq_singleton_iff.1 hback
  obtain rfl : masked = last := hmasked
  have hraws : lines text = rs.map Prod.fst ++ [raw] := by
    rw [← (map_rows .code (lines text)).1, hrows, List.map_append]
    rfl
  have hends : continues 0 (strip masked) = false ∧ Text.lastIs ',' (strip masked) = true := by
    rw [GoesOn] at hlast
    simpa using hlast
  have hsolid : allBlank masked = true → (rs.map Prod.fst).reverse ++ pending ≠ [] := by
    intro hblank
    rw [Text.strip_eq_nil_iff.2 hblank] at hends
    exact absurd hends.1 (by decide)
  have hinside : ∀ ls, ls <+: rs.map Prod.snd → (1 : Int) ≤ 1 + changeOver depthStep ls := by
    intro ls hls
    rw [hfront] at hls
    exact h.inside (hls.trans (by rw [hlines]; exact List.prefix_append _ _))
  have hshown : ∀ r ∈ rs.head?, allBlank r.2 = false := by
    intro r hr
    apply h.shown
    rw [hrows, List.head?_append, hr]
    rfl
  rw [h.cutFrom_begins, hrows, List.append_assoc,
    Account.cutFrom_passedOver (Int.le_refl 1) (fun _ => hshown) hinside
      (by rw [hfront]; exact hpassed),
    List.singleton_append, cutFrom_ends]
  · dsimp only [Cutter.gather]
    rw [hfront, hraws]
    have hzero : (0 : Int) + changeOver nestingStep front + nestingStep masked = 0 := by omega
    have hone : 1 + changeOver depthStep front + depthStep masked = 1 := by omega
    rw [hzero, hone]
    simp
  · have hone := hinside front (by rw [hfront])
    dsimp only
    rw [hfront]
    omega
  · dsimp only
    rw [hfront]
    omega
  · exact hsolid
  · dsimp only
    rw [hfront, Int.zero_add, hnesting]
    exact hends.1
  · rw [Cutter.declares, hends.2]
    rfl

end

/-- A stretch makes a chunk if its declaration ends. Otherwise the chunk is left open. -/
theorem Stretch.Fits.exists_cutFrom {s : Stretch} (h : s.Fits) :
  ∃ chunk, s.IsChunk chunk
    ∧ (IsComplete s.declaration →
        cutFrom ⟨1, 0, false, [], chunks⟩
            (s.texts.flatMap (fun text => rows .code (lines text)) ++ more)
          = cutFrom ⟨1, 0, false, [], chunk :: chunks⟩ more)
    ∧ (PassedOver true 0 (lines (mask s.declaration)) →
        ∃ pending ≠ [], Text.stripRight (unlines pending.reverse) = chunk
          ∧ cutFrom ⟨1, 0, false, [], chunks⟩
              (s.texts.flatMap (fun text => rows .code (lines text)) ++ more)
            = cutFrom ⟨1, 0, true, pending, chunks⟩ more)
  := by
  obtain ⟨kept, hkept, hnames, hconstraints, hcut⟩ := @exists_cutFrom_asides [] chunks
    (rows .code (lines s.declaration) ++ more) s.asides h.asides
  have hsplit : s.texts.flatMap (fun text => rows .code (lines text)) ++ more
      = s.asides.flatMap (fun text => rows .code (lines text))
        ++ (rows .code (lines s.declaration) ++ more) := by
    simp [Stretch.texts]
  have hunlines : unlines (kept.flatMap lines ++ lines s.declaration)
      = unlines (kept ++ [s.declaration]) := by
    rw [← List.flatMap_singleton lines s.declaration, ← List.flatMap_append, unlines_flatMap_lines]
  rw [List.append_nil] at hcut
  rw [hsplit, hcut]
  refine ⟨_, ⟨kept, hkept, hnames, hconstraints, rfl⟩, ?_, ?_⟩
  · intro hcomplete
    rw [h.declared.cutFrom_isComplete hcomplete, List.reverse_reverse, hunlines]
  · intro hpassed
    refine ⟨_, ?_, ?_, h.declared.cutFrom_passedOver hpassed⟩
    · obtain ⟨line, ls, hlines, -⟩ := h.declared.begins
      rw [hlines]
      simp
    · rw [List.reverse_append, List.reverse_reverse, List.reverse_reverse, hunlines]

/-- The chunks of a struct are those of its stretches. -/
theorem exists_cutFrom_stretches {stretches : List Stretch} {tail : List (List Char)}
    {closing : List Char} (h : Laid tail stretches) (hclosing : IsClosing closing)
    (rest : List (List Char)) :
  ∃ made, List.Forall₂ Stretch.IsChunk stretches made
    ∧ cutFrom ⟨1, 0, false, [], chunks⟩
        ((stretches.flatMap Stretch.texts ++ tail).flatMap (fun text => rows .code (lines text))
          ++ rows .code (closing :: rest))
      = chunks.reverse ++ made
  := by
  induction stretches generalizing chunks with
  | nil =>
    obtain ⟨kept, -, -, -, hcut⟩ :=
      @exists_cutFrom_asides [] chunks (rows .code (closing :: rest)) tail h
    refine ⟨[], .nil, ?_⟩
    rw [List.flatMap_nil, List.nil_append, hcut, cutFrom_isClosing hclosing]
    simp [Cutter.finish]
  | cons s stretches ih =>
    obtain ⟨hs, hlaid, hend⟩ := h
    obtain ⟨chunk, hchunk, hcomplete, hopen⟩ := @Stretch.Fits.exists_cutFrom chunks
      ((stretches.flatMap Stretch.texts ++ tail).flatMap (fun text => rows .code (lines text))
        ++ rows .code (closing :: rest)) s hs
    rw [List.flatMap_cons, List.append_assoc, List.flatMap_append, List.append_assoc]
    obtain hends | ⟨hpassed, rfl, rfl⟩ := hend
    · obtain ⟨made, hmade, hcut⟩ := @ih (chunk :: chunks) hlaid
      refine ⟨chunk :: made, .cons hchunk hmade, ?_⟩
      rw [hcomplete hends, hcut]
      simp
    · -- nothing follows a declaration that does not end
      obtain ⟨pending, hne, hpending, hcut⟩ := hopen hpassed
      refine ⟨[chunk], .cons hchunk .nil, ?_⟩
      rw [hcut, List.flatMap_nil, List.append_nil, List.flatMap_nil, List.nil_append,
        cutFrom_isClosing hclosing]
      simp [Cutter.finish, Cutter.pendingText, hpending, hne]

end

/-! ### Decoding stretches -/

section

variable {text : List Char}

/-- The lines of an aside are masked on their own. -/
theorem declaration?_append_newline (h : Rests text) (rest : List Char) :
  declaration? (text ++ '\n' :: rest)
    = declarationFrom? 0 (lines (mask text) ++ lines (mask rest))
  := by
  have hsplit : lines (text ++ '\n' :: rest) = [text].flatMap lines ++ lines rest := by
    rw [List.flatMap_singleton, lines, Text.splitAt_append]
    rfl
  rw [declaration?, hsplit, maskLines_flatMap_lines (List.forall_mem_singleton.2 h),
    List.flatMap_singleton, Source.lines_mask rest]

theorem unlines_cons_append (texts : List (List Char)) (last : List Char) :
  unlines ((text :: texts) ++ [last]) = text ++ '\n' :: unlines (texts ++ [last])
  := by
  rw [List.cons_append, unlines]
  cases texts <;> rfl

/-- The first declaration is found. -/
theorem exists_declaration?_unlines {asides : List (List Char)}
    (h : ∀ text ∈ asides, IsAside text) {last name type : List Char}
    (hlast : declaration? last = some (name, type)) :
  ∃ type', declaration? (unlines (asides ++ [last]))
      = some ((asides.findSome? fun text => (declaration? text).map Prod.fst).getD name, type')
    ∧ ((asides.findSome? fun text => (declaration? text).map Prod.fst) = none → type' = type)
  := by
  induction asides with
  | nil => exact ⟨type, by simpa [unlines, Text.joinWith] using hlast, fun _ => rfl⟩
  | cons text asides ih =>
    obtain ⟨htext, hasides⟩ := List.forall_mem_cons.1 h
    obtain ⟨type', hrest, htype⟩ := ih hasides
    rw [unlines_cons_append, declaration?_append_newline htext.rests, List.findSome?_cons,
      declaration?_eq text]
    cases hfirst : declarationFrom? 0 (lines (mask text)) with
    | none =>
      refine ⟨type', ?_, htype⟩
      rw [declarationFrom?_append_of_none hfirst, htext.nested.sums_lines.2, Int.add_zero,
        ← declaration?_eq, hrest]
      rfl
    | some found =>
      obtain ⟨type', hfound⟩ := exists_declarationFrom?_append hfirst (lines (mask _))
      exact ⟨type', hfound, fun h => absurd h (by simp)⟩

/-- Constraints are read aside by aside. -/
theorem constraints_unlines {asides : List (List Char)} (h : ∀ text ∈ asides, IsAside text)
    (last : List Char) :
  constraints (unlines (asides ++ [last])) = (asides ++ [last]).flatMap constraints
  := by
  induction asides with
  | nil => simp [unlines, Text.joinWith]
  | cons text asides ih =>
    obtain ⟨htext, hasides⟩ := List.forall_mem_cons.1 h
    have hparted : Text.Parted attributeStart text ('\n' :: unlines (asides ++ [last])) := by
      right
      intro c hc
      obtain rfl := Option.some.inj hc
      decide
    rw [unlines_cons_append, constraints_append htext.closed hparted, ← List.singleton_append,
      constraints_blank_append rfl, ih hasides]
    rfl

theorem IsDeclared.exists_declaration? {name : List Char} (h : IsDeclared name text) :
  ∃ type, declaration? text = some (name, type)
  := by
  obtain ⟨line, rs, hrows, hline, -⟩ := h.exists_rows
  obtain ⟨hhash, hname⟩ := hline.declares
  rw [declaration?_eq, ← map_snd_rows, hrows, List.map_cons,
    declarationFrom?_cons_of_some hhash hname]
  exact ⟨_, rfl⟩

/-- The chunk of a stretch is decoded as its record. -/
theorem Stretch.Fits.exists_isRecord {s : Stretch} (h : s.Fits) {chunk : List Char}
    (hchunk : s.IsChunk chunk) :
  ∃ f, Field.ofText? chunk = some f ∧ s.IsRecord f
  := by
  obtain ⟨kept, hkept, hnames, hconstraints, rfl⟩ := hchunk
  have hasides : ∀ text ∈ kept, IsAside text := fun text htext => h.asides text (hkept htext)
  obtain ⟨type, htype⟩ := h.declared.exists_declaration?
  obtain ⟨type', hfound, hsame⟩ := exists_declaration?_unlines hasides htype
  refine ⟨.ofParts s.firstName (.ofText type') (s.texts.flatMap constraints), ?_, type', rfl, ?_⟩
  · rw [Field.ofText?_stripRight, Field.ofText?, hfound, constraints_unlines hasides, hnames,
      Stretch.texts, List.flatMap_append, hconstraints, ← List.flatMap_append]
    rfl
  · intro hnone
    have hno : (s.asides.findSome? fun text => (declaration? text).map Prod.fst) = none := by
      rw [List.findSome?_eq_none_iff]
      intro text htext
      rw [hnone text htext]
      rfl
    rw [hnames] at hsame
    rw [Stretch.firstName, hno, hsame hno]
    exact ⟨rfl, htype⟩

/-- What is on the line of an attribute is not found. -/
theorem isAside_of_hash (hline : '\n' ∉ text) (hrests : Rests text)
    (hnested : WellNested (mask text)) (hclosed : AttributesClosed text)
    (hhash : Text.headIs '#' (strip (mask text)) = true) :
  IsAside text ∧ declaration? text = none
  := by
  have hlines : lines (mask text) = [mask text] := by
    rw [← map_snd_rows, rows_of_line hline, List.map_singleton]
  have hcontinues : continues (0 + nestingStep (mask text)) (strip (mask text)) = true := by
    simp [continues, hhash]
  constructor
  · refine ⟨hrests, hnested, ?_, hclosed, .inl ?_⟩
    · rw [hlines]
      exact ⟨.inl hcontinues, trivial⟩
    · rw [hlines]
      intro line hmem
      obtain rfl := Option.some.inj hmem
      rw [← Bool.not_eq_true]
      intro hblank
      rw [Text.strip_eq_nil_iff.2 hblank] at hhash
      contradiction
  · rw [declaration?_eq, hlines, declarationFrom?_cons_of_none fun _ => .inl hhash]
    rfl

/-- Of the fields on a line the first one is found. -/
theorem isDeclared_of_line {name : List Char} (hline : IsFieldLine name text) (hrests : Rests text)
    (hnested : WellNested (mask text)) :
  IsDeclared name text
  where
  rests := hrests
  nested := hnested
  begins :=
    ⟨text, [], Text.splitAt_of_notMem hline.notMem, hline,
      (hnested.level countsBrackets_nestingStep).2⟩

end

theorem Laid.rests {tail : List (List Char)} {stretches : List Stretch} (h : Laid tail stretches) :
  ∀ text ∈ stretches.flatMap Stretch.texts ++ tail, Rests text
  := by
  induction stretches with
  | nil => exact fun text htext => (h text htext).rests
  | cons s stretches ih =>
    rw [List.flatMap_cons, List.append_assoc, Stretch.texts, List.append_assoc,
      List.forall_mem_append, List.singleton_append, List.forall_mem_cons]
    exact ⟨fun text htext => (h.1.asides text htext).rests, h.1.declared.rests, ih h.2.1⟩

theorem Laid.fits {tail : List (List Char)} {stretches : List Stretch} (h : Laid tail stretches) :
  ∀ s ∈ stretches, s.Fits
  := by
  induction stretches with
  | nil => exact List.forall_mem_nil _
  | cons s stretches ih => exact List.forall_mem_cons.2 ⟨h.1, ih h.2.1⟩

theorem exists_records {stretches : List Stretch} {made : List (List Char)}
    (hmade : List.Forall₂ Stretch.IsChunk stretches made) (hfits : ∀ s ∈ stretches, s.Fits) :
  ∃ records, List.Forall₂ (fun chunk f => Field.ofText? chunk = some f) made records
    ∧ List.Forall₂ Stretch.IsRecord stretches records
  := by
  induction hmade with
  | nil => exact ⟨[], .nil, .nil⟩
  | cons hchunk _ ih =>
    obtain ⟨hs, hstretches⟩ := List.forall_mem_cons.1 hfits
    obtain ⟨f, hf, hrecord⟩ := hs.exists_isRecord hchunk
    obtain ⟨records, hdecoded, hrecords⟩ := ih hstretches
    exact ⟨f :: records, .cons hf hdecoded, .cons hrecord hrecords⟩

/-- However fields are distributed over lines, there is one record for each declaration that begins
a line outside brackets, in their order. It has the constraints of all attributes behind the
declaration before it and up to its own end, those of fields that are not found included. -/
theorem fields_of_stretches {header closing : List Char} {stretches : List Stretch}
    {tail : List (List Char)} (hheader : IsHeader header) (hlaid : Laid tail stretches)
    (hclosing : IsClosing closing) (rest : List (List Char)) :
  ∃ records,
    fields (unlines (header :: (stretches.flatMap Stretch.texts ++ tail ++ closing :: rest)))
      = .ok records
    ∧ List.Forall₂ Stretch.IsRecord stretches records
  := by
  obtain ⟨made, hmade, hcut⟩ :=
    @exists_cutFrom_stretches [] stretches tail closing hlaid hclosing (rest.flatMap lines)
  obtain ⟨records, hdecoded, hrecords⟩ := exists_records hmade hlaid.fits
  refine ⟨records, ?_, hrecords⟩
  rw [fields_eq_ok_iff, chunks_of_texts hheader hlaid.rests hclosing, hcut]
  exact hdecoded

/-- A field behind its attribute, and one with a type that is broken over lines. -/
def brokenVault : Stretch where
  asides := ["  #[account(mut)] pub payer: Signer<'info>,".toList]
  name := "vault".toList
  declaration := "  pub vault: Account<\n    'info,".toList

/-- The rest of the type, and two fields on one line. -/
def crowdedMints : Stretch where
  asides := ["    Vault\n  >,".toList, "  #[account(init)]".toList]
  name := "mint".toList
  declaration := "  mint: Mint, other: Mint,".toList

theorem fits_brokenVault :
  brokenVault.Fits
  where
  asides := by
    have hnested : WellNested (mask "  #[account(mut)] pub payer: Signer<'info>,".toList) :=
      wellNested_of_nests (by decide +kernel)
    have hclosed : AttributesClosed "  #[account(mut)] pub payer: Signer<'info>,".toList :=
      .filled rfl rfl rfl (.none rfl)
    exact List.forall_mem_singleton.2
      (isAside_of_hash (by decide) (by decide +kernel) hnested hclosed (by decide +kernel)).1
  declared := by
    have hpub : IsVisibility "pub ".toList := @IsVisibility.pub [' '] rfl (by decide)
    have hline : IsFieldLine "vault".toList "  pub vault: Account<".toList :=
      @IsFieldLine.intro _ "  ".toList _ [] _ rfl hpub
        ⟨'v', "ault".toList, rfl, by decide, List.all_eq_true.1 (by decide)⟩ rfl (by decide)
          (by decide)
    exact ⟨by decide +kernel, wellNested_of_nests (by decide +kernel),
      _, ["    'info,".toList], by decide +kernel, hline, by decide +kernel⟩

theorem fits_crowdedMints :
  crowdedMints.Fits
  where
  asides := by
    have hrest : IsAside "    Vault\n  >,".toList :=
      ⟨by decide +kernel, wellNested_of_nests (by decide +kernel), by decide +kernel, .none rfl,
        .inl (by decide +kernel)⟩
    have hinit : IsAside "  #[account(init)]".toList :=
      (isAside_of_hash (by decide) (by decide +kernel) (wellNested_of_nests (by decide +kernel))
        (.filled rfl rfl rfl (.none rfl)) (by decide +kernel)).1
    exact List.forall_mem_cons.2 ⟨hrest, List.forall_mem_singleton.2 hinit⟩
  declared := by
    have hline : IsFieldLine "mint".toList "  mint: Mint, other: Mint,".toList :=
      @IsFieldLine.intro _ "  ".toList [] [] _ rfl .none
        ⟨'m', "int".toList, rfl, by decide, List.all_eq_true.1 (by decide)⟩ rfl (by decide)
          (by decide)
    exact isDeclared_of_line hline (by decide +kernel) (wellNested_of_nests (by decide +kernel))

/-- A struct with these fields. -/
theorem fields_of_stretches_vault_mint :
  let header := "pub struct Pool<'info> \x7b".toList
  let closing := "\x7d".toList
  let stretches := [brokenVault, crowdedMints]
  IsHeader header ∧ Laid [] stretches ∧ IsClosing closing
  ∧ ∃ records,
    fields (unlines (header :: (stretches.flatMap Stretch.texts ++ [] ++ [closing]))) = .ok records
    ∧ List.Forall₂ Stretch.IsRecord stretches records
  := by
  intro header closing stretches
  have hheader : IsHeader header :=
    ⟨by decide +kernel, "pub struct Pool<'info> ".toList, [], by decide +kernel,
      keep_of_all (by decide), by decide⟩
  have hvault : IsComplete brokenVault.declaration :=
    ⟨["  pub vault: Account<".toList], "    'info,".toList, by decide +kernel, by decide +kernel,
      by decide +kernel⟩
  have hmint : IsComplete crowdedMints.declaration :=
    ⟨[], "  mint: Mint, other: Mint,".toList, by decide +kernel, trivial, by decide +kernel⟩
  have hlaid : Laid [] stretches :=
    ⟨fits_brokenVault, ⟨fits_crowdedMints, List.forall_mem_nil _, .inl hmint⟩, .inl hvault⟩
  have hclosing : IsClosing closing := ⟨by decide, [], [], rfl, rfl, rfl⟩
  exact ⟨hheader, hlaid, hclosing, fields_of_stretches hheader hlaid hclosing []⟩

/-- A field behind its attribute is lost, and the next one is taken to be changed in its place. Of
two fields on one line the second is lost. A field whose line ends inside brackets is lost or takes
the place of the next one. -/
theorem fields_of_crowded :
  let read := fun content => (fields content).toOption.map (List.map fun f => (f.name, f.isMut))
  read "struct P<'info> \x7b\n    #[account(mut)] pub a: T,\n    pub b: T,\n\x7d".toList
      = some [("b", true)]
  ∧ read "struct P<'info> \x7b\n    pub a: T, pub b: T,\n\x7d".toList = some [("a", false)]
  ∧ read "struct P<'info> \x7b\n    pub a: Foo<[\n        u8; 3], T>,\n\x7d".toList = some []
  ∧ read ("struct P<'info> \x7b\n    pub a: Foo<[\n        u8; 3], T>,\n"
      ++ "    #[account(mut)]\n    pub b: T,\n\x7d").toList
      = some [("a", true)]
  := by
  decide +kernel

end AnchorIndex.Account

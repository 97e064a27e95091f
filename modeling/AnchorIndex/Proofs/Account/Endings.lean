import AnchorIndex.Account.Listing
import AnchorIndex.Proofs.Account.Comments
import AnchorIndex.Proofs.Account.Declarations

/-!
# The end of a field

Blanks at the end of the text of a field make no difference (`Field.ofText?_append_blank`), and
those that are trimmed off make none (`Field.ofText?_stripRight`). A text that declares a field with
a brace at its end declares one without it (`isSome_declaration?_of_brace`).
-/

namespace AnchorIndex.Account

open Source (mask)
open Text (allBlank isBlank lines strip)

section

variable {name line blanks cs ds tail : List Char}

/-! ### Names -/

theorem exists_of_nameBeforeColon? (h : nameBeforeColon? cs = some name) :
  IsName name ∧ ∃ gap rest, allBlank gap = true ∧ cs = name ++ (gap ++ ':' :: rest)
    ∧ rest.head? ≠ some ':'
  := by
  rw [nameBeforeColon?] at h
  split at h
  · contradiction
  next name' rest hname =>
    split at h
    · contradiction
    next rest' hnot heq =>
      cases h
      have hsplit : cs = name ++ rest ∧ IsName name := by
        rw [Text.name?.eq_def] at hname
        split at hname
        · contradiction
        next c cs =>
          split at hname
          next hc =>
            cases hname
            rw [List.cons_append, List.takeWhile_append_dropWhile]
            exact ⟨rfl, c, _, rfl, hc, fun d hd => List.mem_takeWhile_imp hd⟩
          next => contradiction
      refine ⟨hsplit.2, rest.takeWhile isBlank, rest', ?_, ?_, ?_⟩
      · exact Text.allBlank_iff.2 fun c hc => List.mem_takeWhile_imp hc
      · rw [← heq, Text.stripLeft, List.takeWhile_append_dropWhile, hsplit.1]
      · intro hcolon
        obtain ⟨more, rfl⟩ := List.head?_eq_some_iff.1 hcolon
        exact hnot more rfl
    next => contradiction

theorem mem_of_nameBeforeColon? (h : nameBeforeColon? cs = some name) :
  ':' ∈ cs
  := by
  obtain ⟨-, gap, rest, -, rfl, -⟩ := exists_of_nameBeforeColon? h
  simp

/-- A name is found without what stands behind its colon. -/
theorem nameBeforeColon?_of_append (hcolon : ':' ∉ tail)
    (h : nameBeforeColon? (cs ++ tail) = some name) :
  nameBeforeColon? cs = some name
  := by
  obtain ⟨hname, gap, rest, hgap, heq, hrest⟩ := exists_of_nameBeforeColon? h
  rw [← List.append_assoc] at heq
  obtain ⟨between, -, rfl⟩ | ⟨between, rfl, rfl⟩ := Text.before_or_after_of_append_eq heq
  · simp at hcolon
  · rw [List.append_assoc]
    apply hname.nameBeforeColon?_append hgap
    intro hhead
    obtain ⟨more, rfl⟩ := List.head?_eq_some_iff.1 hhead
    exact hrest rfl

/-! ### Visibilities -/

/-- The text behind what may narrow a visibility. -/
def afterNarrowing (rest : List Char) : List Char :=
  match Text.stripLeft rest with
  | '(' :: r =>
    match r.dropWhile (· != ')') with
    | ')' :: r => r
    | _ => rest
  | _ => rest

theorem skipVisibility_of_some {after : List Char}
    (h : Text.afterPiece? ['p', 'u', 'b'] cs = some after) :
  Source.skipVisibility cs = (Text.afterBlanks? (afterNarrowing after)).getD cs
  := by
  rw [Source.skipVisibility, h]
  rfl

theorem afterNarrowing_append (hopen : '(' ∉ tail) (hclose : ')' ∉ tail) (rest : List Char) :
  afterNarrowing (rest ++ tail) = afterNarrowing rest ++ tail
  := by
  have hother : ∀ {x : List Char} (y : List Char), x.head? ≠ some '(' →
      Text.stripLeft y = x → afterNarrowing y = y := by
    intro x y hx hy
    rw [afterNarrowing, hy]
    split
    · exact absurd rfl hx
    · rfl
  have hstrip := Text.stripLeft_append rest tail
  split at hstrip
  next hblank =>
    have htail : (Text.stripLeft tail).head? ≠ some '(' :=
      fun hhead => hopen (Text.mem_of_mem_stripLeft (List.mem_of_head? hhead))
    have hnil := Text.stripLeft_eq_nil_iff.2 hblank
    rw [hother _ htail hstrip, hother rest (by simp) hnil]
  next hsolid =>
    cases hrest : Text.stripLeft rest with
    | nil => exact absurd (Text.stripLeft_eq_nil_iff.1 hrest) hsolid
    | cons c r =>
      rw [hrest] at hstrip
      by_cases hc : c = '('
      · subst hc
        rw [afterNarrowing, hstrip, afterNarrowing, hrest]
        change (match (r ++ tail).dropWhile (· != ')') with
          | ')' :: r => r
          | _ => rest ++ tail) = (match r.dropWhile (· != ')') with
          | ')' :: r => r
          | _ => rest) ++ tail
        rw [List.dropWhile_append]
        cases hdrop : r.dropWhile (· != ')') with
        | nil =>
          have hmore : tail.dropWhile (· != ')') = [] := by
            rw [List.dropWhile_eq_nil_iff]
            intro d hd
            rw [bne_iff_ne]
            rintro rfl
            exact hclose hd
          rw [List.isEmpty_nil, if_pos rfl, hmore]
        | cons d r' =>
          have hd : d = ')' := by
            have hne : r.dropWhile (· != ')') ≠ [] := by
              rw [hdrop]
              exact List.cons_ne_nil d r'
            simpa [hdrop] using List.head_dropWhile_not (· != ')') hne
          subst hd
          rfl
      · have hne : (c :: r).head? ≠ some '(' := by simpa using hc
        rw [hother _ (by simpa using hc) hstrip, hother rest hne hrest]

theorem afterBlanks?_append_tail (hcolon : ':' ∉ tail) (cs : List Char) :
  Text.afterBlanks? (cs ++ tail) = (Text.afterBlanks? cs).map (· ++ tail)
    ∨ ∃ rest, Text.afterBlanks? (cs ++ tail) = some rest ∧ ':' ∉ rest
  := by
  have hmissing : ∀ rest, Text.afterBlanks? tail = some rest → ':' ∉ rest := by
    intro rest hrest hmem
    rw [Text.afterBlanks?.eq_def] at hrest
    split at hrest
    · contradiction
    · split at hrest
      · cases hrest
        exact hcolon (List.mem_cons_of_mem _ (Text.mem_of_mem_stripLeft hmem))
      · contradiction
  cases cs with
  | nil =>
    cases htail : Text.afterBlanks? tail with
    | none => exact .inl htail
    | some rest => exact .inr ⟨rest, htail, hmissing rest htail⟩
  | cons c cs =>
    rw [List.cons_append, Text.afterBlanks?, Text.afterBlanks?]
    by_cases hc : isBlank c = true
    · rw [if_pos hc, if_pos hc, Text.stripLeft_append]
      split
      · exact .inr ⟨_, rfl, fun hmem => hcolon (Text.mem_of_mem_stripLeft hmem)⟩
      · exact .inl rfl
    · rw [if_neg hc, if_neg hc]
      exact .inl rfl

/-- A visibility is left out whatever stands at the end, or no colon is left. -/
theorem skipVisibility_append (htail : ∀ c ∈ tail, c ∉ ['b', '(', ')', ':']) (cs : List Char) :
  Source.skipVisibility (cs ++ tail) = Source.skipVisibility cs ++ tail
    ∨ ':' ∉ Source.skipVisibility (cs ++ tail)
  := by
  have hnot : ∀ {c : Char}, c ∈ ['b', '(', ')', ':'] → c ∉ tail := fun hc hmem => htail _ hmem hc
  cases hwhole : Text.afterPiece? ['p', 'u', 'b'] (cs ++ tail) with
  | none =>
    have hcs : Text.afterPiece? ['p', 'u', 'b'] cs = none := by
      rw [Text.afterPiece?_eq_none_iff] at hwhole ⊢
      exact fun hstarts => hwhole (hstarts.trans (List.prefix_append cs tail))
    left
    rw [Source.skipVisibility, hwhole, Source.skipVisibility, hcs]
  | some after =>
    have hsplit : ∃ more, cs = ['p', 'u', 'b'] ++ more ∧ after = more ++ tail := by
      obtain ⟨more, hcs, hafter⟩ | ⟨more, hpub, htail⟩ :=
        List.append_eq_append_iff.1 (Text.afterPiece?_eq_some_iff.1 hwhole).symm
      · exact ⟨more, hcs, hafter⟩
      · have hmore : more = [] := by
          by_contra hne
          -- the last letter would stand in the tail
          have hlast : more.getLast hne = 'b' := by
            have heq := congrArg List.getLast? hpub
            rw [List.getLast?_append_of_ne_nil _ hne, List.getLast?_eq_some_getLast hne] at heq
            exact (Option.some.inj heq).symm
          apply hnot (c := 'b') (by simp)
          rw [htail, ← hlast]
          exact List.mem_append_left _ (List.getLast_mem hne)
        subst hmore
        exact ⟨[], by rw [hpub, List.append_nil, List.append_nil], by rw [htail]; rfl⟩
    obtain ⟨more, hcs, rfl⟩ := hsplit
    rw [skipVisibility_of_some hwhole, skipVisibility_of_some (Text.afterPiece?_eq_some_iff.2 hcs),
      afterNarrowing_append (hnot (by simp)) (hnot (by simp))]
    obtain hsame | ⟨rest, hrest, hcolon⟩ :=
      afterBlanks?_append_tail (hnot (by simp)) (afterNarrowing more)
    · left
      rw [hsame]
      cases Text.afterBlanks? (afterNarrowing more) <;> rfl
    · right
      rw [hrest]
      exact hcolon

/-- A declaration is one without the end of its line. -/
theorem fieldName?_of_append (htail : ∀ c ∈ tail, c ∉ ['b', '(', ')', ':'])
    (h : (fieldName? (cs ++ tail)).isSome) :
  (fieldName? cs).isSome
  := by
  have hcolon : ':' ∉ tail := fun hmem => htail ':' hmem (by simp)
  rw [fieldName?, Option.isSome_or, Bool.or_eq_true] at h ⊢
  obtain h | h := h
  · left
    obtain ⟨name, hname⟩ := Option.isSome_iff_exists.1 h
    obtain hsame | hnone := skipVisibility_append htail cs
    · rw [hsame] at hname
      rw [nameBeforeColon?_of_append hcolon hname]
      rfl
    · exact absurd (mem_of_nameBeforeColon? hname) hnone
  · right
    obtain ⟨name, hname⟩ := Option.isSome_iff_exists.1 h
    rw [nameBeforeColon?_of_append hcolon hname]
    rfl

theorem afterNarrowing_subset (rest : List Char) :
  afterNarrowing rest ⊆ rest
  := by
  rw [afterNarrowing]
  split
  next r hstrip =>
    split
    next r' hdrop =>
      intro c hc
      have hmem : c ∈ r.dropWhile (· != ')') := by
        rw [hdrop]
        exact List.mem_cons_of_mem _ hc
      apply Text.mem_of_mem_stripLeft
      rw [hstrip]
      exact List.mem_cons_of_mem _ ((List.dropWhile_sublist _).subset hmem)
    next => exact List.Subset.refl rest
  next => exact List.Subset.refl rest

/-- Without its visibility a text has no other characters. -/
theorem skipVisibility_subset (cs : List Char) :
  Source.skipVisibility cs ⊆ cs
  := by
  cases hpub : Text.afterPiece? ['p', 'u', 'b'] cs with
  | none =>
    rw [Source.skipVisibility, hpub]
    exact List.Subset.refl cs
  | some after =>
    rw [skipVisibility_of_some hpub]
    cases hblanks : Text.afterBlanks? (afterNarrowing after) with
    | none => exact List.Subset.refl cs
    | some rest =>
      intro c hc
      rw [Text.afterPiece?_eq_some_iff.1 hpub]
      apply List.mem_append_right
      apply afterNarrowing_subset
      rw [Text.afterBlanks?.eq_def] at hblanks
      split at hblanks
      · contradiction
      next heq =>
        split at hblanks
        · cases hblanks
          rw [heq]
          exact List.mem_cons_of_mem _ (Text.mem_of_mem_stripLeft hc)
        · contradiction

theorem mem_of_fieldName? (h : fieldName? cs = some name) :
  ':' ∈ cs
  := by
  rw [fieldName?, Option.or_eq_some_iff] at h
  obtain h | ⟨-, h⟩ := h
  · exact skipVisibility_subset cs (mem_of_nameBeforeColon? h)
  · exact mem_of_nameBeforeColon? h

/-! ### Where a field is declared -/

variable {depth : Int} {ls : List (List Char)}

/-- The line declares a field if no bracket is open in front of it. -/
def Declares (line : List Char) : Prop :=
  Text.headIs '#' (strip line) = false ∧ (fieldName? (strip line)).isSome

instance (line : List Char) : Decidable (Declares line) :=
  inferInstanceAs (Decidable (_ ∧ _))

/-- What a count that changes with each line changes by over some lines. -/
def changeOver (step : List Char → Int) : List (List Char) → Int
  | [] => 0
  | line :: ls => step line + changeOver step ls

theorem changeOver_singleton (step : List Char → Int) (line : List Char) :
  changeOver step [line] = step line
  := Int.add_zero _

theorem changeOver_append (step : List Char → Int) (ls more : List (List Char)) :
  changeOver step (ls ++ more) = changeOver step ls + changeOver step more
  := by
  induction ls with
  | nil => exact (Int.zero_add _).symm
  | cons line ls ih => rw [List.cons_append, changeOver, ih, changeOver, Int.add_assoc]

/-- The search goes on behind a line that declares no field there. -/
theorem declarationFrom?_cons_of_not {line : List Char} (h : ¬ (depth = 0 ∧ Declares line)) :
  declarationFrom? depth (line :: ls) = declarationFrom? (depth + nestingStep line) ls
  := by
  apply declarationFrom?_cons_of_none
  intro hdepth
  cases hhash : Text.headIs '#' (strip line) with
  | true => exact .inl rfl
  | false =>
    right
    rw [← Option.not_isSome_iff_eq_none]
    exact fun hname => h ⟨hdepth, hhash, hname⟩

/-- A field is declared exactly if a line declares it in front of which no bracket is open. -/
theorem isSome_declarationFrom?_iff :
  (declarationFrom? depth ls).isSome
    ↔ ∃ front line back, ls = front ++ line :: back ∧ depth + changeOver nestingStep front = 0
      ∧ Declares line
  := by
  induction ls generalizing depth with
  | nil => simp [declarationFrom?]
  | cons line ls ih =>
    by_cases hhere : depth = 0 ∧ Declares line
    · obtain ⟨rfl, hdeclares⟩ := hhere
      obtain ⟨name, hname⟩ := Option.isSome_iff_exists.1 hdeclares.2
      rw [declarationFrom?_cons_of_some hdeclares.1 hname]
      simp only [Option.isSome_some, true_iff]
      exact ⟨[], line, ls, rfl, rfl, hdeclares⟩
    · rw [declarationFrom?_cons_of_not hhere, ih]
      constructor
      · rintro ⟨front, line', back, rfl, hdepth, hdeclares⟩
        refine ⟨line :: front, line', back, rfl, ?_, hdeclares⟩
        rw [changeOver, ← Int.add_assoc]
        exact hdepth
      · rintro ⟨front, line', back, heq, hdepth, hdeclares⟩
        cases front with
        | nil =>
          cases heq
          exact absurd ⟨by simpa [changeOver] using hdepth, hdeclares⟩ hhere
        | cons first front =>
          cases heq
          refine ⟨front, line', back, rfl, ?_, hdeclares⟩
          rw [changeOver, ← Int.add_assoc] at hdepth
          exact hdepth

/-- What is declared in front of a line is found whatever follows. -/
theorem exists_declarationFrom?_append {type : List Char}
    (h : declarationFrom? depth ls = some (name, type)) (more : List (List Char)) :
  ∃ type', declarationFrom? depth (ls ++ more) = some (name, type')
  := by
  induction ls generalizing depth with
  | nil => contradiction
  | cons line ls ih =>
    by_cases hline : depth = 0 ∧ Declares line
    · obtain ⟨rfl, hhash, hsome⟩ := hline
      obtain ⟨name', hname⟩ := Option.isSome_iff_exists.1 hsome
      rw [declarationFrom?_cons_of_some hhash hname] at h
      obtain ⟨rfl, -⟩ := Prod.mk.inj (Option.some.inj h)
      exact ⟨_, declarationFrom?_cons_of_some hhash hname⟩
    · rw [declarationFrom?_cons_of_not hline] at h
      rw [List.cons_append, declarationFrom?_cons_of_not hline]
      exact ih h

/-- Behind lines that declare nothing the search goes on. -/
theorem declarationFrom?_append_of_none (h : declarationFrom? depth ls = none)
    (more : List (List Char)) :
  declarationFrom? depth (ls ++ more) = declarationFrom? (depth + changeOver nestingStep ls) more
  := by
  induction ls generalizing depth with
  | nil => simp [changeOver]
  | cons line ls ih =>
    by_cases hline : depth = 0 ∧ Declares line
    · obtain ⟨rfl, hhash, hsome⟩ := hline
      obtain ⟨name', hname⟩ := Option.isSome_iff_exists.1 hsome
      rw [declarationFrom?_cons_of_some hhash hname] at h
      contradiction
    · rw [declarationFrom?_cons_of_not hline] at h
      rw [List.cons_append, declarationFrom?_cons_of_not hline, ih h]
      simp [changeOver, Int.add_assoc]

/-! ### Blanks at the end -/

theorem afterColon_append_of_mem (h : ':' ∈ cs) (ds : List Char) :
  afterColon (cs ++ ds) = afterColon cs ++ ds
  := by
  obtain ⟨front, back, rfl, hfront⟩ := List.eq_append_cons_of_mem h
  rw [List.append_assoc, List.cons_append, afterColon_append hfront, afterColon_append hfront]

theorem strip_append_of_allBlank (h : allBlank blanks = true) (cs : List Char) :
  strip (cs ++ blanks) = strip cs
  := Text.strip_append_blank (a := []) rfl h cs

/-- The type goes up to the end of the text, but for the blanks. -/
theorem strip_afterColon_append (h : allBlank blanks = true) (hcolon : ':' ∈ cs) :
  strip (afterColon (Text.joinWith ' ' (lines (cs ++ blanks))))
    = strip (afterColon (Text.joinWith ' ' (lines cs)))
  := by
  have hmem : ':' ∈ cs.map spaced := List.mem_map.2 ⟨':', hcolon, rfl⟩
  rw [joinWith_lines, joinWith_lines, List.map_append, afterColon_append_of_mem hmem,
    strip_append_of_allBlank (allBlank_map_spaced h)]

theorem declarationFrom?_of_allBlank (h : allBlank blanks = true) (depth : Int) :
  declarationFrom? depth (lines blanks) = none
  := by
  have hrest := declarationFrom?_blank_append h depth []
  rw [List.append_nil] at hrest
  rw [hrest, lines, Text.splitAt_nil,
    declarationFrom?_cons_of_none fun _ => .inr fieldName?_strip_nil, declarationFrom?]

/-- What is declared does not depend on blanks at the end. -/
theorem declarationFrom?_append_blank (h : allBlank blanks = true) (depth : Int) (cs : List Char) :
  declarationFrom? depth (lines (cs ++ blanks)) = declarationFrom? depth (lines cs)
  := by
  induction hlength : cs.length using Nat.strong_induction_on generalizing cs depth with
  | h length ih =>
    -- the first line of both texts
    obtain ⟨line, line', more, more', hlines, hlines', hline, hsub, hstep, hmore⟩ :
        ∃ line line' more more', lines cs = line :: more ∧ lines (cs ++ blanks) = line' :: more'
          ∧ strip line' = strip line ∧ (∀ c ∈ line, c ∈ cs)
          ∧ nestingStep line' = nestingStep line
          ∧ ∀ depth, declarationFrom? depth more' = declarationFrom? depth more := by
      by_cases hnewline : '\n' ∈ cs
      · obtain ⟨line, rest, rfl, hline⟩ := List.eq_append_cons_of_mem hnewline
        refine ⟨line, line, lines rest, lines (rest ++ blanks), lines_append_newline hline rest,
          ?_, rfl, fun c hc => List.mem_append_left _ hc, rfl, ?_⟩
        · rw [List.append_assoc, List.cons_append, lines_append_newline hline]
        · intro depth
          exact ih rest.length (by rw [← hlength]; simp; omega) depth rest rfl
      · obtain ⟨blank, more', hblanks, hwhole⟩ := exists_lines_append hnewline blanks
        have hblank : allBlank blank = true := by
          rw [Text.allBlank_iff] at h ⊢
          intro c hc
          have hmem : blank ∈ lines blanks := by
            rw [hblanks]
            exact List.mem_cons_self
          exact h c (Text.mem_of_mem_splitAt hmem hc)
        refine ⟨cs, cs ++ blank, [], more', Text.splitAt_of_notMem hnewline, hwhole,
          strip_append_of_allBlank hblank cs, fun c hc => hc, ?_, ?_⟩
        · rw [nestingStep_append, nestingStep_of_allBlank hblank, Int.add_zero]
        · intro depth
          have hnone := declarationFrom?_of_allBlank h depth
          rw [hblanks, declarationFrom?_cons_of_none fun _ => .inr (by
            rw [Text.strip_eq_nil_iff.2 hblank]; rfl), nestingStep_of_allBlank hblank,
            Int.add_zero] at hnone
          rw [hnone, declarationFrom?]
    by_cases hhere : depth = 0 ∧ Declares line
    · obtain ⟨rfl, hhash, hname⟩ := hhere
      obtain ⟨name, hname⟩ := Option.isSome_iff_exists.1 hname
      have hcolon : ':' ∈ cs := hsub _ (Text.mem_of_mem_strip (mem_of_fieldName? hname))
      have htype := strip_afterColon_append h hcolon
      rw [hlines, hlines'] at htype ⊢
      rw [declarationFrom?_cons_of_some hhash hname]
      rw [← hline] at hhash hname
      rw [declarationFrom?_cons_of_some hhash hname, htype]
    · have hhere' : ¬ (depth = 0 ∧ Declares line') := by
        rw [Declares, hline]
        exact hhere
      rw [hlines, hlines', declarationFrom?_cons_of_not hhere, declarationFrom?_cons_of_not hhere',
        hstep, hmore]

theorem declaration?_append_blank (h : allBlank blanks = true) (cs : List Char) :
  declaration? (cs ++ blanks) = declaration? cs
  := by
  obtain ⟨blanks', hblanks', hmask⟩ := Source.exists_maskPass_append_blank h .code [] [] cs
  rw [declaration?_eq, declaration?_eq, Source.mask_eq_maskPass, hmask,
    declarationFrom?_append_blank hblanks', Source.mask_eq_maskPass]

theorem mem_of_cutAtClosing? {opening closing : Char} {depth : Int}
    {parts : List Char × List Char}
    (h : Source.cutAtClosing? opening closing depth cs = some parts) :
  closing ∈ cs
  := by
  induction cs generalizing depth parts with
  | nil => contradiction
  | cons c cs ih =>
    rw [Source.cutAtClosing?_cons] at h
    split at h
    next hclosed =>
      rw [hclosed.1]
      exact List.mem_cons_self
    next =>
      obtain ⟨parts', hparts, -⟩ := Option.map_eq_some_iff.1 h
      exact List.mem_cons_of_mem c (ih hparts)

/-- No parenthesis is closed by blanks. -/
theorem cutAtClosing?_append_blank (h : allBlank blanks = true) {depth : Int}
    (hnone : Source.cutAtClosing? '(' ')' depth cs = none) :
  Source.cutAtClosing? '(' ')' depth (cs ++ blanks) = none
  := by
  induction cs generalizing depth with
  | nil =>
    cases hblanks : Source.cutAtClosing? '(' ')' depth blanks with
    | none => exact hblanks
    | some parts => exact absurd (mem_of_cutAtClosing? hblanks) (notMem_of_allBlank (by decide) h)
  | cons c cs ih =>
    rw [Source.cutAtClosing?_cons] at hnone
    rw [List.cons_append, Source.cutAtClosing?_cons]
    split at hnone
    · contradiction
    next hopen =>
      rw [if_neg hopen, ih (Option.map_eq_none_iff.1 hnone)]
      rfl

theorem attributeContent?_append_blank (h : allBlank blanks = true)
    (hnone : attributeContent? cs = none) :
  attributeContent? (cs ++ blanks) = none
  := by
  rw [Option.eq_none_iff_forall_ne_some] at hnone ⊢
  intro inner hsome
  obtain ⟨mid, heq, hmid⟩ := attributeContent?_eq_some_iff.1 hsome
  obtain ⟨between, -, rfl⟩ | ⟨between, rfl, -⟩ := Text.before_or_after_of_append_eq heq
  · exact notMem_of_allBlank (d := '(') (by decide) h (by simp)
  · exact hnone between (attributeContent?_eq_some_iff.2 ⟨mid, rfl, hmid⟩)

/-- Behind the last attribute blanks make no difference, whether or not it is closed. -/
theorem attributeBodies_append_blank (h : allBlank blanks = true) (cs : List Char) :
  attributeBodies (cs ++ blanks) = attributeBodies cs
  := by
  induction hlength : cs.length using Nat.strong_induction_on generalizing cs with
  | h length ih =>
    cases hcut : Text.cutAt? attributeStart cs with
    | none =>
      have hparted : Text.Parted attributeStart cs blanks :=
        .inr fun c hc => notMem_attributeStart_of_isBlank
          (Text.allBlank_iff.1 h c (List.mem_of_head? hc))
      have hblanks : Text.cutAt? attributeStart blanks = none := by
        rw [Text.cutAt?_eq_none_iff]
        intro hoccurs
        exact notMem_of_allBlank (d := '#') (by decide) h (hoccurs.subset (by decide))
      have hwhole := Text.cutAt?_append_of_none hcut hparted
      rw [hblanks] at hwhole
      rw [attributeBodies_of_none hcut, attributeBodies_of_none hwhole]
    | some parts =>
      obtain ⟨front, rest⟩ := parts
      have hrest := length_of_cutAt? hcut
      have hwhole := Text.cutAt?_append_of_some hcut blanks
      cases hcontent : attributeContent? rest with
      | none =>
        rw [attributeBodies_of_bare hcut hcontent,
          attributeBodies_of_bare hwhole (attributeContent?_append_blank h hcontent),
          ih rest.length (by omega) rest rfl]
      | some inner =>
        have hcontent' := attributeContent?_append_of_some hcontent blanks
        cases hclosing : Source.cutAtClosing? '(' ')' 1 inner with
        | none =>
          rw [attributeBodies_of_unclosed hcut hcontent hclosing,
            attributeBodies_of_unclosed hwhole hcontent' (cutAtClosing?_append_blank h hclosing)]
        | some parts =>
          obtain ⟨body, after⟩ := parts
          have hafter : after.length < cs.length := by
            have hinner := length_of_attributeContent? hcontent
            have hsplit := congrArg List.length (Source.eq_of_cutAtClosing? hclosing)
            rw [List.length_append] at hsplit
            omega
          rw [attributeBodies_of_filled hcut hcontent hclosing,
            attributeBodies_of_filled hwhole hcontent'
              (Source.cutAtClosing?_append hclosing blanks),
            ih after.length (by omega) after rfl]

theorem constraints_append_blank (h : allBlank blanks = true) (cs : List Char) :
  constraints (cs ++ blanks) = constraints cs
  := by
  rw [constraints, attributeBodies_append_blank h, constraints]

/-- Blanks at the end make no difference to a field. -/
theorem Field.ofText?_append_blank (h : allBlank blanks = true) (cs : List Char) :
  Field.ofText? (cs ++ blanks) = Field.ofText? cs
  := by
  rw [Field.ofText?, Field.ofText?, declaration?_append_blank h, constraints_append_blank h]

theorem exists_eq_stripRight_append (cs : List Char) :
  ∃ blanks, allBlank blanks = true ∧ cs = Text.stripRight cs ++ blanks
  := by
  refine ⟨(cs.reverse.takeWhile isBlank).reverse, ?_, ?_⟩
  · rw [allBlank, List.all_reverse]
    exact List.all_takeWhile
  · rw [Text.stripRight, ← List.reverse_append, List.takeWhile_append_dropWhile,
      List.reverse_reverse]

theorem Field.ofText?_stripRight (cs : List Char) :
  Field.ofText? (Text.stripRight cs) = Field.ofText? cs
  := by
  obtain ⟨blanks, hblanks, hcs⟩ := exists_eq_stripRight_append cs
  conv_rhs => rw [hcs]
  rw [Field.ofText?_append_blank hblanks]

theorem declaration?_stripRight (cs : List Char) :
  declaration? (Text.stripRight cs) = declaration? cs
  := by
  obtain ⟨blanks, hblanks, hcs⟩ := exists_eq_stripRight_append cs
  conv_rhs => rw [hcs]
  rw [declaration?_append_blank hblanks]

/-! ### A brace at the end -/

/-- What a character at the end adds to a trimmed text. -/
theorem exists_strip_append_singleton (cs : List Char) (c : Char) :
  ∃ tail, (∀ d ∈ tail, isBlank d = true ∨ d = c) ∧ strip (cs ++ [c]) = strip cs ++ tail
  := by
  by_cases hc : isBlank c = true
  · have hblank : allBlank [c] = true := by simp [allBlank, hc]
    exact ⟨[], by simp, by rw [strip_append_of_allBlank hblank, List.append_nil]⟩
  have hsolid : allBlank [c] = false := by simpa [allBlank] using hc
  obtain ⟨blanks, hblanks, hcs⟩ := exists_eq_stripRight_append (Text.stripLeft cs)
  refine ⟨blanks ++ [c], ?_, ?_⟩
  · intro d hd
    obtain hd | hd := List.mem_append.1 hd
    · exact .inl (Text.allBlank_iff.1 hblanks d hd)
    · exact .inr (List.mem_singleton.1 hd)
  · have hright : Text.stripRight [c] = [c] := by
      rw [Text.stripRight_cons, hsolid, if_neg Bool.false_ne_true]
      rfl
    rw [strip, Text.stripLeft_append]
    split
    next hblank =>
      have hnil := Text.stripLeft_eq_nil_iff.2 hblank
      have hleft : Text.stripLeft [c] = [c] := Text.stripLeft_cons_solid (by simpa using hc) []
      rw [hnil] at hcs
      obtain ⟨-, rfl⟩ := List.append_eq_nil_iff.1 hcs.symm
      rw [hleft, hright, strip, hnil]
      rfl
    next =>
      rw [Text.stripRight_append, hsolid, if_neg Bool.false_ne_true, hright, strip,
        ← List.append_assoc, ← hcs]

/-- What is put behind a text on its last line. -/
theorem exists_lines_concat (hds : '\n' ∉ ds) (cs : List Char) :
  ∃ init last, lines cs = init ++ [last] ∧ lines (cs ++ ds) = init ++ [last ++ ds]
  := by
  induction cs with
  | nil => exact ⟨[], [], rfl, Text.splitAt_of_notMem hds⟩
  | cons c cs ih =>
    obtain ⟨init, last, hlines, hwhole⟩ := ih
    by_cases hc : c = '\n'
    · subst hc
      refine ⟨[] :: init, last, ?_, ?_⟩
      · rw [lines_newline, hlines, List.cons_append]
      · rw [List.cons_append, lines_newline, hwhole, List.cons_append]
    · obtain ⟨line, more, hcs, hcons⟩ := exists_lines_cons hc cs
      obtain ⟨line', more', hcs', hcons'⟩ := exists_lines_cons hc (cs ++ ds)
      rw [List.cons_append, hcons, hcons']
      rw [hlines] at hcs
      rw [hwhole] at hcs'
      cases init with
      | nil =>
        cases hcs
        cases hcs'
        exact ⟨[], c :: last, rfl, rfl⟩
      | cons _ init =>
        cases hcs
        cases hcs'
        exact ⟨(c :: line) :: init, last, rfl, rfl⟩

/-- A line that declares a field declares one without its last character if this is a brace or a
blank. -/
theorem Declares.of_concat {c : Char} (hc : c = '}' ∨ c = ' ') (h : Declares (line ++ [c])) :
  Declares line
  := by
  obtain ⟨tail, htail, hstrip⟩ := exists_strip_append_singleton line c
  obtain ⟨hhash, hname⟩ := h
  rw [hstrip] at hhash hname
  constructor
  · cases hline : strip line with
    | nil => rfl
    | cons d ds =>
      rw [hline] at hhash
      exact hhash
  · apply fieldName?_of_append _ hname
    intro d hd
    obtain hblank | rfl := htail d hd
    · exact notMem_of_all (by decide) hblank
    · obtain rfl | rfl := hc <;> decide

theorem isSome_declaration?_of_brace (h : (declaration? (cs ++ ['}'])).isSome) :
  (declaration? cs).isSome
  := by
  have hinert : Source.Inert ['}'] := by
    intro c hc
    rw [List.mem_singleton.1 hc]
    decide
  obtain ⟨m, hm, hmask⟩ := hinert.exists_maskPass_append .code [] [] cs
  obtain ⟨c, hc, rfl⟩ : ∃ c, (c = '}' ∨ c = ' ') ∧ m = [c] := by
    cases hm with
    | cons hc hnil =>
      cases hnil
      exact ⟨_, hc, rfl⟩
  have hnewline : '\n' ∉ [c] := by obtain rfl | rfl := hc <;> decide
  obtain ⟨init, last, hlines, hwhole⟩ := exists_lines_concat hnewline (mask cs)
  rw [declaration?_eq, Source.mask_eq_maskPass, hmask, ← Source.mask_eq_maskPass, hwhole,
    isSome_declarationFrom?_iff] at h
  rw [declaration?_eq, hlines, isSome_declarationFrom?_iff]
  obtain ⟨front, line, back, heq, hdepth, hdeclares⟩ := h
  cases back using List.reverseRecOn with
  | nil =>
    obtain ⟨rfl, hline⟩ := List.append_inj' heq rfl
    cases hline
    exact ⟨init, last, [], rfl, hdepth, hdeclares.of_concat hc⟩
  | append_singleton back _ =>
    rw [← List.cons_append, ← List.append_assoc] at heq
    obtain ⟨rfl, -⟩ := List.append_inj' heq rfl
    exact ⟨front, line, back ++ [last], by simp, hdepth, hdeclares⟩

/-- Without a brace at its end a text declares a field if it does with it. -/
theorem isSome_declaration?_withoutBrace (h : (declaration? cs).isSome) :
  (declaration? (withoutBrace cs)).isSome
  := by
  rw [withoutBrace, declaration?_stripRight]
  rw [← declaration?_stripRight] at h
  split
  next hbrace =>
    have hconcat := List.dropLast_append_getLast? '}' (by simpa [Text.lastIs] using hbrace)
    rw [← hconcat] at h
    exact isSome_declaration?_of_brace h
  next => exact h

end

end AnchorIndex.Account

import AnchorIndex.Proofs.Account.Skipping
import AnchorIndex.Proofs.Account.Types

/-!
# Reading declarations

On the line of its name a field is declared, whether or not a visibility stands in front of the name
(`IsVisibility.fieldName?_append`). The type goes from the colon to the end of the text but for a
comma (`IsDeclaration.exists_declaration?`).
-/

namespace AnchorIndex.Account

open Source (mask)
open Text (allBlank isBlank lines squeeze strip)

/-! ### Names -/

section

variable {name gap rest visibility : List Char}

theorem IsName.forall_isNameChar (h : IsName name) :
  ∀ c ∈ name, Text.isNameChar c = true
  := by
  obtain ⟨c, cs, rfl, hc, hcs⟩ := h
  exact List.forall_mem_cons.2 ⟨Text.isNameChar_of_isNameStart hc, hcs⟩

theorem IsName.name?_append (h : IsName name)
    (hrest : ∀ c ∈ rest.head?, Text.isNameChar c = false) :
  Text.name? (name ++ rest) = some (name, rest)
  := by
  obtain ⟨c, cs, rfl, hc, hcs⟩ := h
  have hends : rest.takeWhile Text.isNameChar = [] ∧ rest.dropWhile Text.isNameChar = rest := by
    cases rest with
    | nil => exact ⟨rfl, rfl⟩
    | cons d rest => simp [hrest d rfl]
  rw [List.cons_append, Text.name?, if_pos hc, List.takeWhile_append_of_pos hcs,
    List.dropWhile_append_of_pos hcs, hends.1, hends.2, List.append_nil]

theorem isNameChar_of_isBlank {c : Char} (h : isBlank c = true) :
  Text.isNameChar c = false
  := by
  cases hname : Text.isNameChar c with
  | false => rfl
  | true =>
    rw [Text.isBlank_of_isNameChar hname] at h
    contradiction

theorem head?_gap (hgap : allBlank gap = true) (rest : List Char) :
  ∀ c ∈ (gap ++ ':' :: rest).head?, Text.isNameChar c = false
  := by
  intro c hc
  cases gap with
  | nil =>
    cases hc
    decide
  | cons d gap =>
    cases hc
    exact isNameChar_of_isBlank (Text.allBlank_iff.1 hgap _ List.mem_cons_self)

/-- A name before a colon. -/
theorem IsName.nameBeforeColon?_append (h : IsName name) (hgap : allBlank gap = true)
    (hrest : rest.head? ≠ some ':') :
  nameBeforeColon? (name ++ (gap ++ ':' :: rest)) = some name
  := by
  rw [nameBeforeColon?, h.name?_append (head?_gap hgap rest)]
  dsimp only
  rw [Text.stripLeft_append_blank hgap, Text.stripLeft_cons_solid (by decide)]
  split
  next heq =>
    cases heq
    exact absurd rfl hrest
  next => rfl
  next hnot => exact absurd rfl (hnot rest)

theorem IsName.stripLeft_append (h : IsName name) (rest : List Char) :
  Text.stripLeft (name ++ rest) = name ++ rest
  := by
  obtain ⟨c, cs, rfl, hc, -⟩ := h
  exact Text.stripLeft_cons_solid (Text.isBlank_of_isNameChar (Text.isNameChar_of_isNameStart hc)) _

theorem IsName.head?_ne (h : IsName name) (rest : List Char) {d : Char}
    (hd : Text.isNameStart d = false) :
  (name ++ rest).head? ≠ some d
  := by
  obtain ⟨c, cs, rfl, hc, -⟩ := h
  intro heq
  cases heq
  rw [hd] at hc
  contradiction

theorem afterBlanks?_append (hgap : allBlank gap = true) (hne : gap ≠ []) (cs : List Char) :
  Text.afterBlanks? (gap ++ cs) = some (Text.stripLeft cs)
  := by
  cases gap with
  | nil => contradiction
  | cons c gap =>
    rw [allBlank, List.all_cons, Bool.and_eq_true] at hgap
    rw [List.cons_append, Text.afterBlanks?, if_pos hgap.1, Text.stripLeft_append_blank hgap.2]

theorem skipVisibility_eq {cs after : List Char}
    (h : Text.afterPiece? ['p', 'u', 'b'] cs = some after)
    (hround : (Text.stripLeft after).head? ≠ some '(') :
  Source.skipVisibility cs = (Text.afterBlanks? after).getD cs
  := by
  rw [Source.skipVisibility, h]
  dsimp only
  split
  next heq =>
    rw [heq] at hround
    exact absurd rfl hround
  next => rfl

/-- A visibility is left out in front of a name. -/
theorem IsVisibility.skipVisibility_append (h : IsVisibility visibility) (hname : IsName name)
    (hne : visibility ≠ []) (rest : List Char) :
  Source.skipVisibility (visibility ++ (name ++ rest)) = name ++ rest
  := by
  cases h with
  | none => contradiction
  | @pub gap hgap hgap_ne =>
    have hpub : Text.afterPiece? ['p', 'u', 'b'] ("pub".toList ++ gap ++ (name ++ rest))
        = some (gap ++ (name ++ rest)) := by
      rw [Text.afterPiece?_eq_some_iff, List.append_assoc]
      rfl
    have hround : (Text.stripLeft (gap ++ (name ++ rest))).head? ≠ some '(' := by
      rw [Text.stripLeft_append_blank hgap, hname.stripLeft_append]
      exact hname.head?_ne rest (by decide)
    rw [skipVisibility_eq hpub hround, afterBlanks?_append hgap hgap_ne, hname.stripLeft_append]
    rfl
  | @crate gap hgap hgap_ne =>
    have hpub : Text.afterPiece? ['p', 'u', 'b'] ("pub(crate)".toList ++ gap ++ (name ++ rest))
        = some ("(crate)".toList ++ (gap ++ (name ++ rest))) := by
      rw [Text.afterPiece?_eq_some_iff, List.append_assoc]
      rfl
    rw [Source.skipVisibility, hpub]
    change (Text.afterBlanks? (gap ++ (name ++ rest))).getD _ = _
    rw [afterBlanks?_append hgap hgap_ne, hname.stripLeft_append]
    rfl

/-- A name that begins like a visibility goes on with name characters, up to its end. -/
theorem IsName.exists_behind_pub (h : IsName name) (hgap : allBlank gap = true)
    {rest after : List Char}
    (hpub : Text.afterPiece? ['p', 'u', 'b'] (name ++ (gap ++ ':' :: rest)) = some after) :
  ∃ more, (∀ c ∈ more, Text.isNameChar c = true) ∧ after = more ++ (gap ++ ':' :: rest)
  := by
  obtain ⟨more, hname, hafter⟩ | ⟨more, hpiece, hmore⟩ :=
    List.append_eq_append_iff.1 (Text.afterPiece?_eq_some_iff.1 hpub).symm
  · refine ⟨more, ?_, hafter⟩
    intro c hc
    apply h.forall_isNameChar
    rw [hname]
    exact List.mem_append_right _ hc
  · cases more with
    | nil => exact ⟨[], by simp, hmore.symm⟩
    | cons c more =>
      -- the name would end in front of a name character
      have hc : Text.isNameChar c = true := by
        have hall : ∀ c ∈ ['p', 'u', 'b'], Text.isNameChar c = true := by simp; decide
        apply hall
        rw [hpiece]
        simp
      have hends := head?_gap hgap rest c (by rw [hmore]; rfl)
      rw [hc] at hends
      contradiction

/-- A name is not taken for a visibility, or what is behind it begins with no name. -/
theorem IsName.skipVisibility_append (h : IsName name) (hgap : allBlank gap = true)
    (rest : List Char) :
  Source.skipVisibility (name ++ (gap ++ ':' :: rest)) = name ++ (gap ++ ':' :: rest)
    ∨ nameBeforeColon? (Source.skipVisibility (name ++ (gap ++ ':' :: rest))) = none
  := by
  cases hpub : Text.afterPiece? ['p', 'u', 'b'] (name ++ (gap ++ ':' :: rest)) with
  | none =>
    left
    rw [Source.skipVisibility, hpub]
  | some after =>
    obtain ⟨more, hmore, rfl⟩ := h.exists_behind_pub hgap hpub
    cases more with
    | nil =>
      rw [List.nil_append] at hpub
      have hround : (Text.stripLeft (gap ++ ':' :: rest)).head? ≠ some '(' := by
        rw [Text.stripLeft_append_blank hgap, Text.stripLeft_cons_solid (by decide)]
        simp
      rw [skipVisibility_eq hpub hround]
      by_cases hne : gap = []
      · left
        rw [hne]
        rfl
      · right
        rw [afterBlanks?_append hgap hne, Text.stripLeft_cons_solid (by decide)]
        rfl
    | cons c more =>
      left
      have hc := hmore c List.mem_cons_self
      have hsolid := Text.isBlank_of_isNameChar hc
      have hround : (Text.stripLeft (c :: more ++ (gap ++ ':' :: rest))).head? ≠ some '(' := by
        rw [List.cons_append, Text.stripLeft_cons_solid hsolid]
        intro heq
        cases heq
        contradiction
      rw [skipVisibility_eq hpub hround, List.cons_append, Text.afterBlanks?,
        if_neg (by simp [hsolid])]
      rfl

/-- The name of the field is the one before the colon. -/
theorem IsVisibility.fieldName?_append (h : IsVisibility visibility) (hname : IsName name)
    (hgap : allBlank gap = true) (hrest : rest.head? ≠ some ':') :
  fieldName? (visibility ++ (name ++ (gap ++ ':' :: rest))) = some name
  := by
  have hbefore := hname.nameBeforeColon?_append hgap hrest
  by_cases hne : visibility = []
  · rw [hne, List.nil_append, fieldName?, hbefore]
    obtain hsame | hnone := hname.skipVisibility_append hgap rest
    · rw [hsame, hbefore]
      rfl
    · rw [hnone]
      rfl
  · rw [fieldName?, h.skipVisibility_append hname hne, hbefore]
    rfl

end

/-! ### The text of a type -/

section

variable {cs text : List Char} {type : AccountType}

/-- A newline as a space. -/
def spaced (c : Char) : Char :=
  if c = '\n' then ' ' else c

/-- Lines on one line. -/
theorem joinWith_lines (cs : List Char) :
  Text.joinWith ' ' (lines cs) = cs.map spaced
  := by
  induction cs with
  | nil => rfl
  | cons c cs ih =>
    by_cases hc : c = '\n'
    · have hne := Text.splitAt_ne_nil '\n' cs
      obtain ⟨line, more, hlines⟩ := List.exists_cons_of_ne_nil hne
      rw [hc, lines_newline, List.map_cons, ← ih, lines, hlines, Text.joinWith_cons_cons]
      rfl
    · obtain ⟨line, more, hlines, hcons⟩ := exists_lines_cons hc cs
      have hspaced : spaced c = c := if_neg hc
      rw [hcons, List.map_cons, ← ih, hlines, hspaced]
      cases more with
      | nil => simp [Text.joinWith]
      | cons next more =>
        rw [Text.joinWith_cons_cons, Text.joinWith_cons_cons]
        rfl

theorem spaced_of_solid {c : Char} (hc : isBlank c = false) :
  spaced c = c
  := by
  apply if_neg
  rintro rfl
  contradiction

theorem mem_of_mem_map_spaced {c : Char} (hc : c ≠ ' ') (h : c ∈ cs.map spaced) :
  c ∈ cs
  := by
  obtain ⟨d, hd, rfl⟩ := List.mem_map.1 h
  rw [spaced] at hc ⊢
  split at hc
  · contradiction
  next hne =>
    rw [if_neg hne]
    exact hd

theorem isBlank_spaced (c : Char) :
  isBlank (spaced c) = isBlank c
  := by
  rw [spaced]
  split
  next heq =>
    rw [heq]
    rfl
  next => rfl

theorem allBlank_map_spaced (h : allBlank cs = true) :
  allBlank (cs.map spaced) = true
  := by
  rw [Text.allBlank_iff] at h ⊢
  intro c hc
  obtain ⟨d, hd, rfl⟩ := List.mem_map.1 hc
  rw [isBlank_spaced, h d hd]

theorem squeeze_map_spaced (cs : List Char) :
  squeeze (cs.map spaced) = squeeze cs
  := by
  apply Text.squeeze_congr
  rw [List.forall₂_map_left_iff, List.forall₂_same]
  intro c _
  by_cases hc : isBlank c = true
  · right
    rw [isBlank_spaced]
    exact ⟨hc, hc⟩
  · left
    exact spaced_of_solid (by simpa using hc)

theorem afterColon_append {front : List Char} (h : ':' ∉ front) (rest : List Char) :
  afterColon (front ++ ':' :: rest) = rest
  := by
  rw [afterColon, List.dropWhile_append_of_pos]
  · simp
  · intro c hc
    rw [bne_iff_ne]
    rintro rfl
    contradiction

/-- A trimmed text that ends with a solid character. -/
theorem exists_strip_concat {c : Char} (hc : isBlank c = false) (cs : List Char) :
  ∃ a b, allBlank a = true ∧ cs = a ++ b ∧ strip (cs ++ [c]) = b ++ [c]
  := by
  have hright : Text.stripRight (cs ++ [c]) = cs ++ [c] := by
    rw [Text.stripRight_eq_rdropWhile, List.rdropWhile_concat_neg]
    simp [hc]
  rw [strip, ← Text.stripLeft_stripRight, hright]
  refine ⟨cs.takeWhile isBlank, cs.dropWhile isBlank, ?_,
    (List.takeWhile_append_dropWhile).symm, ?_⟩
  · rw [Text.allBlank_iff]
    intro d hd
    exact List.mem_takeWhile_imp hd
  · rw [Text.stripLeft, List.dropWhile_append]
    split
    next hnil =>
      rw [List.isEmpty_iff.1 hnil]
      simp [hc]
    next => rfl

theorem stripLast_eq_self {mark : Char} (h : cs.getLast? ≠ some mark) :
  Text.stripLast mark cs = cs
  := by
  change cs.rdropWhile (· == mark) = cs
  rw [List.rdropWhile_eq_self_iff]
  intro hne heq
  apply h
  rw [List.getLast?_eq_some_getLast hne, eq_of_beq heq]

theorem stripLast_concat (mark : Char) (cs : List Char) :
  Text.stripLast mark (cs ++ [mark]) = Text.stripLast mark cs
  := by
  change (cs ++ [mark]).rdropWhile (· == mark) = cs.rdropWhile (· == mark)
  apply List.rdropWhile_concat_pos
  exact beq_self_eq_true mark

/-- Of a text with blanks around it and maybe a comma behind it, the text is left. -/
theorem squeeze_stripLast {c : Char} (hc : isBlank c = false) (hcomma : c ≠ ',')
    {before comma after : List Char} (hbefore : allBlank before = true)
    (hcases : comma = [] ∨ ∃ blanks, allBlank blanks = true ∧ comma = blanks ++ [','])
    (hafter : allBlank after = true) :
  squeeze (Text.stripLast ',' (strip (before ++ ((cs ++ [c]) ++ (comma ++ after)))))
    = squeeze (cs ++ [c])
  := by
  obtain rfl | ⟨blanks, hblanks, rfl⟩ := hcases
  · obtain ⟨a, b, ha, rfl, hstrip⟩ := exists_strip_concat hc cs
    have hlast : (b ++ [c]).getLast? ≠ some ',' := by simpa using hcomma
    rw [List.nil_append, Text.strip_append_blank hbefore hafter, hstrip, stripLast_eq_self hlast,
      List.append_assoc, Text.squeeze_blank_append ha]
  · obtain ⟨a, b, ha, hsplit, hstrip⟩ :=
      @exists_strip_concat ',' (by decide) ((cs ++ [c]) ++ blanks)
    have htext : (cs ++ [c]) ++ ((blanks ++ [',']) ++ after)
        = (((cs ++ [c]) ++ blanks) ++ [',']) ++ after := by simp
    have hlast : b.getLast? ≠ some ',' := by
      intro heq
      have hwhole : (a ++ b).getLast? = some ',' := by
        rw [List.getLast?_append, heq, Option.some_or]
      rw [← hsplit, List.getLast?_append, List.getLast?_concat] at hwhole
      cases hend : blanks.getLast? with
      | none =>
        rw [hend] at hwhole
        cases hwhole
        contradiction
      | some d =>
        rw [hend] at hwhole
        cases hwhole
        exact notMem_of_allBlank (by decide) hblanks (List.mem_of_getLast? hend)
    rw [htext, Text.strip_append_blank hbefore hafter, hstrip, stripLast_concat,
      stripLast_eq_self hlast, ← Text.squeeze_append_blank hblanks (cs ++ [c]), hsplit,
      Text.squeeze_blank_append ha]

end

/-! ### Declarations -/

section

variable {text name visibility gap : List Char} {type : AccountType}

theorem IsName.isNested (h : IsName name) :
  IsNested true true name ∧ Ends name
  := by
  refine ⟨isNested_of_forall h.isKey.isPlain, ?_⟩
  obtain ⟨c, cs, rfl, hc, -⟩ := h
  exact ends_cons (notMem_of_all (by decide) hc) cs

theorem IsVisibility.isNested (h : IsVisibility visibility) :
  IsNested true true visibility
  := by
  have hpub : IsNested true true "pub".toList := isNested_of_all (by decide)
  cases h with
  | none => exact .nil
  | pub hgap _ =>
    exact hpub.append (isNested_of_allBlank hgap) (ends_of_allBlank hgap)
  | @crate gap hgap _ =>
    have hcrate : IsNested true true "crate".toList := isNested_of_all (by decide)
    have hgroup : IsNested true true ('(' :: ("crate".toList ++ ')' :: gap)) :=
      .group .round nofun hcrate nofun (isNested_of_allBlank hgap)
    exact hpub.append hgroup (ends_cons (by decide) _)

/-- A declaration is masked by itself. -/
theorem IsDeclaration.mask_eq (h : IsDeclaration text name type) :
  mask text = text
  := by
  cases h with
  | @intro indent visibility name gap before cs comma after type hindent hvisibility _ hname hgap _
      hbefore _ htype _ hcomma hafter =>
    have hback : ∀ c ∈ comma ++ after, c ∉ ['"', '\'', '/', 'r'] := by
      rw [List.forall_mem_append]
      refine ⟨?_, keep_of_allBlank hafter⟩
      obtain rfl | ⟨blanks, hblanks, rfl⟩ := hcomma
      · simp
      · rw [List.forall_mem_append]
        exact ⟨keep_of_allBlank hblanks, List.forall_mem_singleton.2 (by decide)⟩
    have hends : Ends (comma ++ after) := by
      refine Ends.append ?_ (ends_of_allBlank hafter)
      obtain rfl | ⟨blanks, hblanks, rfl⟩ := hcomma
      · nofun
      · exact (ends_of_allBlank hblanks).append (ends_cons (by decide) [])
    have htail : Kept (before ++ (cs ++ (comma ++ after))) :=
      (htype.kept.append (kept_of_forall hback) hends).keep_append (keep_of_allBlank hbefore)
    have hcolon : Kept (':' :: (before ++ (cs ++ (comma ++ after)))) :=
      htail.keep_append (List.forall_mem_singleton.2 (by decide : ':' ∉ ['"', '\'', '/', 'r']))
    have hfront : IsNested true true (visibility ++ (name ++ gap)) := by
      have hnested : IsNested true true (name ++ gap) :=
        hname.isNested.1.append (isNested_of_allBlank hgap)
          (ends_of_allBlank hgap)
      exact hvisibility.isNested.append hnested (hname.isNested.2.append (ends_of_allBlank hgap))
    have hwhole := ((hfront.kept.append hcolon (ends_cons (by decide) _)).keep_append
      (keep_of_allBlank hindent)) [] [] nofun
    rw [Source.mask_eq_maskPass]
    simpa [Source.maskPass] using hwhole

theorem exists_lines_append {cs : List Char} (h : '\n' ∉ cs) (rest : List Char) :
  ∃ line more, lines rest = line :: more ∧ lines (cs ++ rest) = (cs ++ line) :: more
  := by
  induction cs with
  | nil =>
    obtain ⟨line, more, hlines⟩ := List.exists_cons_of_ne_nil (Text.splitAt_ne_nil '\n' rest)
    exact ⟨line, more, hlines, hlines⟩
  | cons c cs ih =>
    rw [List.mem_cons, not_or] at h
    obtain ⟨line, more, hrest, hlines⟩ := ih h.2
    obtain ⟨_, _, hcs, hcons⟩ := exists_lines_cons (Ne.symm h.1) (cs ++ rest)
    rw [hlines] at hcs
    cases hcs
    exact ⟨line, more, hrest, hcons⟩

/-- In front of a name and behind the blanks stands a name character. -/
theorem IsVisibility.exists_cons (h : IsVisibility visibility) (hname : IsName name)
    (rest : List Char) :
  ∃ c cs, visibility ++ (name ++ rest) = c :: cs ∧ Text.isNameStart c = true
  := by
  cases h with
  | none =>
    obtain ⟨c, cs, rfl, hc, -⟩ := hname
    exact ⟨c, cs ++ rest, rfl, hc⟩
  | pub => exact ⟨'p', _, rfl, by decide⟩
  | crate => exact ⟨'p', _, rfl, by decide⟩

theorem head?_of_prefix {cs ds : List Char} (h : cs <+: ds) {c : Char} (hc : cs.head? = some c) :
  ds.head? = some c
  := by
  obtain ⟨more, rfl⟩ := h
  obtain ⟨cs, rfl⟩ := List.head?_eq_some_iff.1 hc
  rfl

/-- No blanks stand in front of a declaration, and those behind it are left out. -/
theorem IsVisibility.strip_append (h : IsVisibility visibility) (hname : IsName name)
    (gap rest : List Char) :
  strip (visibility ++ (name ++ (gap ++ ':' :: rest)))
    = visibility ++ (name ++ (gap ++ ':' :: Text.stripRight rest))
  := by
  have hsolid : allBlank (':' :: rest) = false := rfl
  obtain ⟨c, cs, hcons, hc⟩ := h.exists_cons hname (gap ++ ':' :: rest)
  have hleft : Text.stripLeft (c :: cs) = c :: cs :=
    Text.stripLeft_cons_solid (Text.isBlank_of_isNameChar (Text.isNameChar_of_isNameStart hc)) cs
  rw [strip, hcons, hleft, ← hcons, ← List.append_assoc, ← List.append_assoc,
    Text.stripRight_append, hsolid, if_neg Bool.false_ne_true, Text.stripRight_cons, hsolid,
    if_neg Bool.false_ne_true]
  simp

/-- A declaration does not begin like an attribute. -/
theorem IsVisibility.headIs_append (h : IsVisibility visibility) (hname : IsName name)
    (rest : List Char) :
  Text.headIs '#' (visibility ++ (name ++ rest)) = false
  := by
  obtain ⟨c, cs, hcons, hc⟩ := h.exists_cons hname rest
  rw [hcons, Text.headIs, List.head?_cons, beq_eq_false_iff_ne]
  rintro heq
  cases heq
  contradiction

/-- The line of a name declares it, and the type is read from the rest of the text. -/
theorem IsVisibility.declarationFrom?_eq (h : IsVisibility visibility) (hname : IsName name)
    (hgap : allBlank gap = true) (hline : '\n' ∉ visibility ++ (name ++ gap)) {rest : List Char}
    (hrest : rest.head? ≠ some ':') :
  declarationFrom? 0 (lines (visibility ++ (name ++ (gap ++ ':' :: rest))))
    = some (name, strip (Text.stripLast ',' (strip (rest.map spaced))))
  := by
  have htext : visibility ++ (name ++ (gap ++ ':' :: rest))
      = (visibility ++ (name ++ gap) ++ [':']) ++ rest := by simp
  have hfront : '\n' ∉ visibility ++ (name ++ gap) ++ [':'] := by
    rw [List.mem_append, not_or]
    exact ⟨hline, by decide⟩
  obtain ⟨line, more, hlines, hwhole⟩ := exists_lines_append hfront rest
  have hread : Text.joinWith ' ' ((visibility ++ (name ++ gap) ++ [':'] ++ line) :: more)
      = (visibility ++ (name ++ gap)).map spaced ++ ':' :: rest.map spaced := by
    rw [← hwhole, joinWith_lines]
    simp [spaced]
  have hcolon : ':' ∉ (visibility ++ (name ++ gap)).map spaced := by
    intro hmem
    have hfront := mem_of_mem_map_spaced (by decide) hmem
    rw [List.mem_append, List.mem_append] at hfront
    obtain hcolon | hcolon | hcolon := hfront
    · exact h.notMem (by decide) (by decide) hcolon
    · exact absurd (hname.forall_isNameChar ':' hcolon) (by decide)
    · exact notMem_of_allBlank (by decide) hgap hcolon
  have hstrip : strip (visibility ++ (name ++ gap) ++ [':'] ++ line)
      = visibility ++ (name ++ (gap ++ ':' :: Text.stripRight line)) := by
    rw [← h.strip_append hname]
    simp
  have hstart : (Text.stripRight line).head? ≠ some ':' := by
    intro heq
    apply hrest
    have hfirst : line <+: rest := by
      rw [Source.eq_restOfLine_of_lines hlines]
      exact List.takeWhile_prefix _
    exact head?_of_prefix ((List.rdropWhile_prefix isBlank line).trans hfirst) heq
  have hhash : Text.headIs '#' (strip (visibility ++ (name ++ gap) ++ [':'] ++ line)) = false := by
    rw [hstrip, h.headIs_append hname]
  have hfield : fieldName? (strip (visibility ++ (name ++ gap) ++ [':'] ++ line)) = some name := by
    rw [hstrip]
    exact h.fieldName?_append hname hgap hstart
  rw [htext, hwhole, declarationFrom?_cons_of_some hhash hfield, hread, afterColon_append hcolon]

/-- A declaration declares its name and a type that is read as its type. -/
theorem IsDeclaration.exists_declaration? (h : IsDeclaration text name type) :
  ∃ read, declaration? text = some (name, read) ∧ AccountType.ofText read = type
  := by
  have hmask := h.mask_eq
  cases h with
  | @intro indent visibility name gap before cs comma after type hindent hvisibility hline hname
      hgap hgap_line hbefore hpath htype _ hcomma hafter =>
    have hfront : '\n' ∉ visibility ++ (name ++ gap) := by
      rw [List.mem_append, List.mem_append, not_or, not_or]
      refine ⟨hline, ?_, hgap_line⟩
      intro hmem
      exact absurd (hname.forall_isNameChar '\n' hmem) (by decide)
    obtain ⟨front, c, rfl, hc, hcomma_ne⟩ := htype.exists_concat
    have hrest : (before ++ (front ++ [c] ++ (comma ++ after))).head? ≠ some ':' := by
      intro heq
      apply hpath
      rw [← List.append_assoc, List.head?_append] at heq
      cases hhead : (before ++ (front ++ [c])).head? with
      | none => simp at hhead
      | some d =>
        rw [hhead] at heq
        exact heq
    rw [declaration?_eq, hmask, declarationFrom?_blank_append hindent,
      hvisibility.declarationFrom?_eq hname hgap hfront hrest]
    refine ⟨_, rfl, htype.ofText_eq ?_⟩
    have hmap : (before ++ (front ++ [c] ++ (comma ++ after))).map spaced
        = before.map spaced
          ++ ((front.map spaced ++ [c]) ++ (comma.map spaced ++ after.map spaced)) := by
      simp [spaced_of_solid hc]
    have hcases : comma.map spaced = []
        ∨ ∃ blanks, allBlank blanks = true ∧ comma.map spaced = blanks ++ [','] := by
      obtain rfl | ⟨blanks, hblanks, rfl⟩ := hcomma
      · exact .inl rfl
      · exact .inr ⟨_, allBlank_map_spaced hblanks, by simp [spaced]⟩
    have htext : front.map spaced ++ [c] = (front ++ [c]).map spaced := by
      simp [spaced_of_solid hc]
    rw [Text.squeeze_strip, hmap, squeeze_stripLast hc hcomma_ne (allBlank_map_spaced hbefore)
      hcases (allBlank_map_spaced hafter), htext, squeeze_map_spaced]

end

end AnchorIndex.Account

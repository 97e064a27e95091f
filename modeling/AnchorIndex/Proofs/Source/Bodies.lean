import AnchorIndex.Source.Split
import AnchorIndex.Proofs.Source.Fragments
import AnchorIndex.Proofs.Source.Hiding
import AnchorIndex.Proofs.Source.Nesting

/-!
# Bodies of functions

The range of a function has a first brace in the masked text and a brace that closes it, at which
the range ends (`Braced`, `exists_braced`). Between the two the masked text is that of the text
between them, masked on its own (`Braced.mask_inner`).

What counts as the body of a function is cut out of the unmasked text, from its first brace to one
at its end. So if a brace in a comment or a literal is in front of the body, or something is behind
it on its last line, another text than the one between the braces may be taken
(`body_beyond_braces`). If there is no such brace, the body is the text between the braces if and
only if nothing but blanks is behind them (`mask_body_iff`).
-/

namespace AnchorIndex.Source

/-! ### Endings in lines -/

/-- Up to the first ending a construct is open. -/
theorem exists_of_firstEnding? {read : List Char} (hread : IsOpen read) {cs : List (Nat × Char)}
    {ending : Ending} {stop : Nat} (h : firstEnding? read cs = some (ending, stop)) :
  ∃ a c b, cs = a ++ (stop, c) :: b ∧ ending? (read ++ a.map Prod.snd) c = some ending
    ∧ ∀ p, p <+: a.map Prod.snd → IsOpen (read ++ p)
  := by
  induction cs generalizing read with
  | nil => contradiction
  | cons q cs ih =>
    obtain ⟨index, d⟩ := q
    rw [firstEnding?] at h
    split at h
    next ending' hending =>
      cases h
      refine ⟨[], d, cs, rfl, by simpa using hending, ?_⟩
      intro p hp
      rw [List.prefix_nil.1 hp, List.append_nil]
      exact hread
    next hnone =>
      obtain ⟨a, c, b, rfl, hending, hopen⟩ := ih (hread.concat hnone) h
      refine ⟨(index, d) :: a, c, b, rfl, ?_, ?_⟩
      · rw [List.map_cons, List.append_cons]
        exact hending
      · intro p hp
        cases p with
        | nil =>
          rw [List.append_nil]
          exact hread
        | cons e p =>
          rw [List.map_cons, List.cons_prefix_cons] at hp
          obtain ⟨rfl, hp⟩ := hp
          rw [List.append_cons]
          exact hopen p hp

/-- A character of lines stands in one of them, behind the lines before it. -/
theorem exists_of_charsFrom_eq {index : Nat} {lines : List (List Char)} {a b : List (Nat × Char)}
    {stop : Nat} {c : Char} (h : charsFrom index lines = a ++ (stop, c) :: b) :
  ∃ front x y back, lines = front ++ (x ++ c :: y) :: back ∧ stop = index + front.length
    ∧ a.map Prod.snd = front.flatten ++ x
  := by
  induction lines generalizing index a with
  | nil => simp [charsFrom] at h
  | cons line rest ih =>
    rw [charsFrom] at h
    obtain ⟨between, ha, hrest⟩ | ⟨between, hline, -⟩ := Text.before_or_after_of_append_eq h
    · obtain ⟨front, x, y, back, rfl, hstop, hmap⟩ := ih hrest
      refine ⟨line :: front, x, y, back, rfl, ?_, ?_⟩
      · rw [hstop, List.length_cons]
        omega
      · rw [ha, List.map_append, hmap, List.map_map, List.flatten_cons, List.append_assoc]
        congr 1
        exact List.map_id line
    · obtain ⟨x, y', rfl, hx, hy'⟩ := List.map_eq_append_iff.1 hline
      obtain ⟨d, y, rfl, hd, -⟩ := List.map_eq_cons_iff.1 hy'
      cases hd
      refine ⟨[], x, y, rest, rfl, rfl, ?_⟩
      rw [← hx, List.map_map]
      exact List.map_id x

/-! ### Braces in texts -/

/-- What is put behind the last line is put behind the text. -/
theorem unlines_append_last (front : List (List Char)) (x z : List Char) :
  Text.unlines (front ++ [x ++ z]) = Text.unlines (front ++ [x]) ++ z
  := by
  induction front with
  | nil => simp [Text.unlines, Text.joinWith]
  | cons line front ih =>
    have hcons : ∀ last, Text.unlines (line :: (front ++ [last]))
        = line ++ '\n' :: Text.unlines (front ++ [last]) := by
      intro last
      cases front with
      | nil => exact Text.joinWith_cons_cons '\n' line last []
      | cons next front => exact Text.joinWith_cons_cons '\n' line next (front ++ [last])
    rw [List.cons_append, List.cons_append, hcons, hcons, ih, List.append_assoc]
    rfl

/-- Line feeds aside, a text is its lines. -/
theorem filter_unlines {lines : List (List Char)} (h : ∀ line ∈ lines, '\n' ∉ line) :
  (Text.unlines lines).filter (· != '\n') = lines.flatten
  := by
  induction lines with
  | nil => rfl
  | cons line rest ih =>
    have hline : line.filter (· != '\n') = line := by
      rw [List.filter_eq_self]
      intro c hc
      rw [bne_iff_ne]
      rintro rfl
      exact h line List.mem_cons_self hc
    have hrest := ih fun line' hline' => h line' (List.mem_cons_of_mem line hline')
    cases rest with
    | nil => simpa [Text.unlines, Text.joinWith] using hline
    | cons next rest =>
      rw [Text.unlines, Text.joinWith_cons_cons, List.filter_append, hline,
        List.filter_cons_of_neg (by simp)]
      exact congrArg _ hrest

theorem count_filter_newline {c : Char} (hc : c ≠ '\n') (cs : List Char) :
  (cs.filter (· != '\n')).count c = cs.count c
  := by
  rw [List.count_filter]
  simpa using hc

/-- Each start of the text closes no more braces than it opens, and all of it closes as many. -/
structure Balanced (cs : List Char) : Prop where
  count_le : ∀ p, p <+: cs → p.count '}' ≤ p.count '{'
  count_eq : cs.count '}' = cs.count '{'

theorem balanced_of_notMem {cs : List Char} (hopen : '{' ∉ cs) (hclose : '}' ∉ cs) :
  Balanced cs
  where
  count_le := by
    intro p hp
    rw [List.count_eq_zero.2 fun hmem => hclose (hp.subset hmem)]
    apply Nat.zero_le
  count_eq := by
    rw [List.count_eq_zero.2 hclose, List.count_eq_zero.2 hopen]

/-- The text in front of the brace that closes a construct has a first brace, and what is behind
this one is balanced. -/
theorem exists_balanced {cs : List Char}
    (hopen : ∀ p, p <+: cs → IsOpen (p.filter (· != '\n')))
    (hclosed : ending? (cs.filter (· != '\n')) '}' = some .closed) :
  ∃ head inner, cs = head ++ '{' :: inner ∧ '{' ∉ head ∧ '}' ∉ head ∧ Balanced inner
  := by
  have hcount : cs.count '{' = cs.count '}' + 1 := by
    rw [ending?] at hclosed
    split at hclosed
    · contradiction
    · split at hclosed
      · contradiction
      · split at hclosed
        next heq =>
          have := heq.2
          rw [List.count_append, List.count_append, count_filter_newline (by decide),
            count_filter_newline (by decide)] at this
          simpa using this
        · contradiction
  have hmem : '{' ∈ cs := by
    rw [← List.count_pos_iff]
    omega
  obtain ⟨head, inner, rfl, hhead⟩ := List.eq_append_cons_of_mem hmem
  have hclose : '}' ∉ head := by
    obtain ⟨-, hnone⟩ | hlt := hopen head (List.prefix_append head _)
    · intro hhead'
      apply hnone
      rw [List.mem_filter]
      exact ⟨hhead', by decide⟩
    · rw [count_filter_newline (by decide), count_filter_newline (by decide),
        List.count_eq_zero.2 hhead] at hlt
      omega
  refine ⟨head, inner, rfl, hhead, hclose, ?_, ?_⟩
  · intro p hp
    have hprefix : head ++ '{' :: p <+: head ++ '{' :: inner := by
      rw [List.prefix_append_right_inj, List.cons_prefix_cons]
      exact ⟨rfl, hp⟩
    have hbrace : '{' ∈ (head ++ '{' :: p).filter (· != '\n') := by
      rw [List.mem_filter]
      exact ⟨by simp, by decide⟩
    have hlt := (hopen _ hprefix).lt hbrace
    rw [count_filter_newline (by decide), count_filter_newline (by decide)] at hlt
    simp [List.count_append, List.count_eq_zero.2 hhead, List.count_eq_zero.2 hclose] at hlt
    omega
  · simp [List.count_append, List.count_eq_zero.2 hhead, List.count_eq_zero.2 hclose] at hcount
    omega

/-! ### The braces of a range -/

/-- The text of a range, and its part of the masked text, are cut at the first brace of the masked
text, with `head` before it, and at the brace that closes it, with `tail` behind it on the last
line. -/
structure Braced (text : String) (r : Range) (head inner tail head' inner' tail' : List Char) :
    Prop where
  content : r.content.toList = head ++ '{' :: (inner ++ '}' :: tail)
  masked : sliceLines (maskedLines text) (r.first - 1) (r.last - 1)
    = head' ++ '{' :: (inner' ++ '}' :: tail')
  length_head : head'.length = head.length
  length_inner : inner'.length = inner.length
  unbraced : '{' ∉ head' ∧ '}' ∉ head'
  balanced : Balanced inner'
  last : '\n' ∉ tail'

theorem eq_of_ending?_closed {read : List Char} {c : Char} (h : ending? read c = some .closed) :
  c = '}'
  := by
  rw [ending?] at h
  split at h
  · contradiction
  · split at h
    · contradiction
    · split at h
      next heq => exact heq.1
      · contradiction

/-- A scanned range is what the lines of the text from its first to its last one are. -/
theorem content_of_mem_scan {kind : Kind} {text : String} {r : Range} (h : r ∈ scan kind text) :
  r.content.toList = sliceLines (Text.lines text.toList) (r.first - 1) (r.last - 1)
  := by
  obtain ⟨f, -, hr⟩ := List.mem_filterMap.1 h
  cases f with
  | gap name start => contradiction
  | block name start stop =>
    cases hr
    exact String.toList_ofList

theorem notMem_of_mem_maskedLines {text : String} {line : List Char}
    (h : line ∈ maskedLines text) :
  '\n' ∉ line
  := by
  apply notMem_of_mem_maskLinesFrom _ h
  intro line' hline'
  apply Text.notMem_of_mem_splitAt hline'

/-- The masked lines of a range are its text, masked from the region in which it starts. -/
theorem sliceLines_maskedLines {kind : Kind} {text : String} {r : Range} (h : r ∈ scan kind text) :
  sliceLines (maskedLines text) (r.first - 1) (r.last - 1)
    = maskPass (regionAfter .code ((Text.lines text.toList).take (r.first - 1))) [] []
        r.content.toList
  := by
  have hbounds := bounds_of_mem_scan h
  rw [content_of_mem_scan h, maskedLines]
  have hnewline : ∀ line ∈ Text.lines text.toList, '\n' ∉ line :=
    fun line => Text.notMem_of_mem_splitAt
  generalize Text.lines text.toList = lines at hbounds hnewline
  rw [sliceLines, sliceLines, maskLines, drop_maskLinesFrom, take_maskLinesFrom]
  cases hcut : (lines.drop (r.first - 1)).take (r.last - 1 + 1 - (r.first - 1)) with
  | nil =>
    have := congrArg List.length hcut
    rw [List.length_take, List.length_drop, List.length_nil] at this
    omega
  | cons line more =>
    apply unlines_maskFrom_maskLinesFrom
    apply Text.lines_unlines (List.cons_ne_nil line more)
    intro line' hline'
    rw [← hcut] at hline'
    apply hnewline
    apply List.mem_of_mem_drop (List.mem_of_mem_take hline')

/-- The masked text of a function is cut at its first brace and at the one that closes it. -/
theorem exists_masked_eq {text : String} {r : Range} (h : r ∈ scan .function text) :
  ∃ head inner tail, sliceLines (maskedLines text) (r.first - 1) (r.last - 1)
      = head ++ '{' :: (inner ++ '}' :: tail)
    ∧ ('{' ∉ head ∧ '}' ∉ head) ∧ Balanced inner ∧ '\n' ∉ tail
  := by
  have hbounds := bounds_of_mem_scan h
  have hclosed := endsAt_closed_of_mem_scan h (by decide)
  obtain ⟨a, c, b, hchars, hending, hopen⟩ :=
    exists_of_firstEnding? (.inl ⟨List.not_mem_nil, List.not_mem_nil⟩) hclosed
  obtain rfl := eq_of_ending?_closed hending
  obtain ⟨front, x, tail, back, hlines, hstop, hread⟩ := exists_of_charsFrom_eq hchars
  have hnewline : ∀ line ∈ front ++ [x ++ '}' :: tail], '\n' ∉ line := by
    intro line hline
    have hmem : line ∈ (maskedLines text).drop (r.first - 1) := by
      rw [hlines, List.append_cons]
      apply List.mem_append_left _ hline
    apply notMem_of_mem_maskedLines (List.mem_of_mem_drop hmem)
  have hlast := hnewline (x ++ '}' :: tail) (by simp)
  rw [List.mem_append, List.mem_cons, not_or, not_or] at hlast
  have hfilter : (Text.unlines (front ++ [x])).filter (· != '\n') = a.map Prod.snd := by
    rw [hread, filter_unlines]
    · simp
    · intro line hline
      obtain hline | hline := List.mem_append.1 hline
      · apply hnewline line (List.mem_append_left _ hline)
      · rw [List.mem_singleton.1 hline]
        exact hlast.1
  -- up to the brace at the end the masked lines are open, and balanced behind their first brace
  have hopen' : ∀ p, p <+: Text.unlines (front ++ [x]) → IsOpen (p.filter (· != '\n')) := by
    intro p hp
    have hprefix := hp.filter (· != '\n')
    rw [hfilter] at hprefix
    exact hopen _ hprefix
  have hclosed' : ending? ((Text.unlines (front ++ [x])).filter (· != '\n')) '}' = some .closed := by
    rw [hfilter]
    exact hending
  obtain ⟨head, inner, hcut, hopens, hcloses, hbalanced⟩ := exists_balanced hopen' hclosed'
  refine ⟨head, inner, tail, ?_, ⟨hopens, hcloses⟩, hbalanced, hlast.2.2⟩
  have htake : r.last - 1 + 1 - (r.first - 1) = (front ++ [x ++ '}' :: tail]).length := by
    rw [List.length_append, List.length_singleton]
    omega
  rw [sliceLines, hlines, List.append_cons, htake, List.take_left, unlines_append_last, hcut,
    List.append_assoc, List.cons_append]

/-- Where braces stand in a masked text, they stand in the text itself. -/
theorem exists_eq_of_maskPass_braces {region : Region} {cs head' inner' tail' : List Char}
    (h : maskPass region [] [] cs = head' ++ '{' :: (inner' ++ '}' :: tail')) :
  ∃ head inner tail, cs = head ++ '{' :: (inner ++ '}' :: tail)
    ∧ head'.length = head.length ∧ inner'.length = inner.length
  := by
  obtain ⟨head, rest, hhead, hlength⟩ := exists_of_maskPass_eq h (by decide)
  rw [← List.cons_append, ← List.append_assoc] at h
  obtain ⟨before, tail, hbefore, hlength'⟩ := exists_of_maskPass_eq h (by decide)
  rw [hhead, List.append_cons] at hbefore
  rw [List.length_append, List.length_cons, ← hlength] at hlength'
  obtain ⟨inner, rfl, rfl⟩ | ⟨between, hcontra, -⟩ := Text.before_or_after_of_append_eq hbefore
  · refine ⟨head, inner, tail, hhead, hlength.symm, ?_⟩
    rw [List.length_append, List.length_append, List.length_singleton] at hlength'
    omega
  · have := congrArg List.length hcontra
    simp only [List.length_append, List.length_cons, List.length_nil] at this
    omega

/-- A function is cut at the first brace of its masked text and at the one that closes it. -/
theorem exists_braced {text : String} {r : Range} (h : r ∈ scan .function text) :
  ∃ head inner tail head' inner' tail', Braced text r head inner tail head' inner' tail'
  := by
  obtain ⟨head', inner', tail', hmasked, hunbraced, hbalanced, hlast⟩ := exists_masked_eq h
  have hpass := sliceLines_maskedLines h
  rw [hmasked] at hpass
  obtain ⟨head, inner, tail, hcontent, hhead, hinner⟩ := exists_eq_of_maskPass_braces hpass.symm
  exact ⟨head, inner, tail, head', inner', tail', hcontent, hmasked, hhead, hinner, hunbraced,
    hbalanced, hlast⟩

section

variable {text : String} {r : Range} {head inner tail head' inner' tail' : List Char}

/-- The text of a function between its braces is masked as it is in the text as a whole; and so is
it if some of what is behind the braces is put behind it. -/
theorem Braced.mask_inner (h : Braced text r head inner tail head' inner' tail')
    (hr : r ∈ scan .function text) :
  mask inner = inner'
    ∧ ∀ rest, rest <+: tail → ∃ rest', mask (inner ++ '}' :: rest) = inner' ++ '}' :: rest'
  := by
  have hpass := sliceLines_maskedLines hr
  rw [h.masked, h.content] at hpass
  apply mask_eq_of_between hpass.symm h.length_head h.length_inner

/-- A body goes up to the brace that closes it, or over this one and some of the text behind it. -/
theorem Braced.body_eq (h : Braced text r head inner tail head' inner' tail')
    (hhead : '{' ∉ head) :
  (Text.allBlank tail = true ∧ Function.body r.content.toList = Text.strip inner)
  ∨ Text.allBlank tail = false
    ∧ ∃ rest, rest <+: tail
      ∧ Function.body r.content.toList = Text.strip (inner ++ '}' :: rest)
  := by
  have hdrop : r.content.toList.dropWhile (· != '{') = '{' :: (inner ++ '}' :: tail) := by
    rw [h.content, List.dropWhile_append_of_pos]
    · rfl
    · intro c hc
      rw [bne_iff_ne]
      rintro rfl
      contradiction
  simp only [Function.body, hdrop]
  rw [List.append_cons inner '}' tail]
  by_cases htail : Text.allBlank tail = true
  · left
    use htail
    have hsolid : Text.stripRight (inner ++ ['}']) = inner ++ ['}'] := by
      rw [Text.stripRight_append, if_neg (by decide +kernel)]
      congr 1
    rw [Text.stripRight_append_blank htail, hsolid, if_pos (by simp [Text.lastIs]),
      List.dropLast_concat]
  · right
    refine ⟨Bool.eq_false_iff.2 htail, ?_⟩
    have hne : Text.stripRight tail ≠ [] := by
      rw [ne_eq, Text.stripRight_eq_nil_iff]
      exact htail
    have hprefix : Text.stripRight tail <+: tail := List.rdropWhile_prefix Text.isBlank tail
    rw [Text.stripRight_append, if_neg htail, List.append_assoc, List.singleton_append]
    split
    · refine ⟨_, (List.dropLast_prefix _).trans hprefix, ?_⟩
      rw [List.dropLast_append_of_ne_nil (List.cons_ne_nil _ _), List.dropLast_cons_of_ne_nil hne]
    · exact ⟨_, hprefix, rfl⟩

end

/-- In every text, each function that is found is cut at the first brace of its masked text and at
the one that closes it. Unless a comment or a literal has a brace in front of this, its body is,
masked and trimmed, what is between the two in the masked text, if and only if nothing but blanks
is behind the second. -/
theorem mask_body_iff {text : String} {r : Range} (h : r ∈ scan .function text) :
  ∃ head inner tail head' inner' tail',
    Braced text r head inner tail head' inner' tail'
    ∧ ('{' ∉ head →
      (Text.strip (mask (Function.body r.content.toList)) = Text.strip inner'
        ↔ Text.allBlank tail = true))
  := by
  obtain ⟨head, inner, tail, head', inner', tail', hbraced⟩ := exists_braced h
  refine ⟨head, inner, tail, head', inner', tail', hbraced, ?_⟩
  intro hhead
  obtain ⟨hmask, hbeyond⟩ := hbraced.mask_inner h
  obtain ⟨htail, hbody⟩ | ⟨htail, rest, hrest, hbody⟩ := hbraced.body_eq hhead
  · rw [hbody, strip_mask_strip, hmask]
    exact ⟨fun _ => htail, fun _ => rfl⟩
  · obtain ⟨rest', hmask'⟩ := hbeyond rest hrest
    have hlt := Text.length_strip_lt (c := '}') (by decide +kernel) inner' rest'
    rw [hbody, strip_mask_strip, hmask', htail]
    constructor
    · intro heq
      rw [heq] at hlt
      exact absurd hlt (lt_irrefl _)
    · intro hfalse
      contradiction

theorem mask_body_iff_oneFunction :
  let text := "fn a() \x7b b(); \x7d // \x7d\nfn c() \x7b\x7d\n"
  ∃ r ∈ scan .function text, ∃ head inner tail head' inner' tail',
    Braced text r head inner tail head' inner' tail'
    ∧ '{' ∉ head
    ∧ (Text.strip (mask (Function.body r.content.toList)) = Text.strip inner'
      ↔ Text.allBlank tail = true)
  := by
  intro text
  have hrange : ∃ r ∈ scan .function text, r.content = "fn a() \x7b b(); \x7d // \x7d" := by
    decide +kernel
  obtain ⟨r, hr, hcontent⟩ := hrange
  refine ⟨r, hr, ?_⟩
  obtain ⟨head, inner, tail, head', inner', tail', hbraced, hbody⟩ := mask_body_iff hr
  have hhead : '{' ∉ head := by
    have hcount := congrArg (List.count '{') hbraced.content
    have hone : "fn a() \x7b b(); \x7d // \x7d".toList.count '{' = 1 := by decide
    rw [hcontent, hone, List.count_append, List.count_cons_self] at hcount
    rw [← List.count_eq_zero]
    omega
  exact ⟨head, inner, tail, head', inner', tail', hbraced, hhead, hbody hhead⟩

/-- Of two functions on one line the first one has the second one in its body, and what it calls:
the body goes on behind the brace that closes it. -/
theorem body_beyond_braces :
  let text := "fn a() \x7b b(); \x7d fn c() \x7b d(); \x7d\n"
  ∃ r ∈ scan .function text, ∃ head inner tail head' inner' tail',
    Braced text r head inner tail head' inner' tail'
    ∧ Text.strip (mask (Function.body r.content.toList)) ≠ Text.strip inner'
    ∧ Function.body r.content.toList = "b(); \x7d fn c() \x7b d();".toList
    ∧ Text.strip inner' = "b();".toList
  := by
  intro text
  have hrange : ∃ r ∈ scan .function text,
      r.first = 1 ∧ r.last = 1 ∧ r.content = "fn a() \x7b b(); \x7d fn c() \x7b d(); \x7d" := by
    decide +kernel
  obtain ⟨r, hr, hfirst, hlast, hcontent⟩ := hrange
  refine ⟨r, hr, "fn a() ".toList, " b(); ".toList, " fn c() \x7b d(); \x7d".toList, "fn a() ".toList,
    " b(); ".toList, " fn c() \x7b d(); \x7d".toList, ?_, ?_, ?_, by decide +kernel⟩
  · refine ⟨?_, ?_, rfl, rfl, by decide, ?_, by decide⟩
    · rw [hcontent]
      decide
    · rw [hfirst, hlast]
      decide +kernel
    · apply balanced_of_notMem <;> decide
  · rw [hcontent]
    decide +kernel
  · rw [hcontent]
    decide +kernel

end AnchorIndex.Source

import AnchorIndex.Proofs.Source.Fragments
import AnchorIndex.Proofs.Text.Searching
import AnchorIndex.Proofs.Text.Squeezing
import AnchorIndex.Source.Header

/-!
# Names of implementations

An implementation is named by its header without the list of its generic parameters. The list is
skipped if no arrow stands in it, since the tip of an arrow counts as the end of a bracket, and a
header that begins with a bracket itself loses what the bracket holds
(`implementationName?_iff_of_isAngled`).
-/

namespace AnchorIndex.Source

/-! ### Generic parameters -/

/-- The angle brackets of the text are well nested. The tip of an arrow is none. -/
inductive IsAngled : List Char → Prop
  | nil : IsAngled []
  | plain {c : Char} {cs : List Char} (ne_opening : c ≠ '<') (ne_closing : c ≠ '>')
    (more : IsAngled cs) : IsAngled (c :: cs)
  | arrow {cs : List Char} (more : IsAngled cs) : IsAngled ('-' :: '>' :: cs)
  | group {inner cs : List Char} (isAngled : IsAngled inner)
    (no_shaft : inner.getLast? ≠ some '-') (more : IsAngled cs) :
    IsAngled ('<' :: (inner ++ '>' :: cs))

section

variable {cs rest : List Char} {depth : Int}

theorem isAngled_of_all (cs : List Char) (h : cs.all (fun c => c != '<' && c != '>') = true) :
  IsAngled cs
  := by
  induction cs with
  | nil => exact .nil
  | cons c cs ih =>
    rw [List.all_cons, Bool.and_eq_true, Bool.and_eq_true, bne_iff_ne, bne_iff_ne] at h
    exact .plain h.1.1 h.1.2 (ih h.2)

theorem IsAngled.append {ds : List Char} (h : IsAngled cs) (hds : IsAngled ds) :
  IsAngled (cs ++ ds)
  := by
  induction h with
  | nil => exact hds
  | plain hopening hclosing _ ih => exact .plain hopening hclosing ih
  | arrow _ ih => exact .arrow ih
  | @group inner cs hinner hshaft _ _ ih =>
    have htext : '<' :: (inner ++ '>' :: cs) ++ ds = '<' :: (inner ++ '>' :: (cs ++ ds)) := by simp
    rw [htext]
    exact .group hinner hshaft ih

theorem IsAngled.head?_ne (h : IsAngled cs) :
  cs.head? ≠ some '>'
  := by
  cases h <;> simp_all

/-- Without arrows the brackets are closed where they end. -/
theorem IsAngled.afterAngles?_append (h : IsAngled cs) (no_arrow : ¬ ['-', '>'] <:+: cs)
    (hdepth : 1 ≤ depth) (rest : List Char) :
  afterAngles? depth (cs ++ rest) = afterAngles? depth rest
  := by
  induction h generalizing depth rest with
  | nil => rfl
  | @plain c cs hopening hclosing _ ih =>
    rw [List.infix_cons_iff, not_or] at no_arrow
    rw [List.cons_append, afterAngles?, if_neg hopening, if_neg hclosing,
      ih no_arrow.2 hdepth]
  | arrow _ _ => exact absurd (List.prefix_append ['-', '>'] _).isInfix no_arrow
  | @group inner cs _ _ _ ihinner ih =>
    rw [List.infix_cons_iff, not_or, Text.pair_infix_append_iff, not_or, not_or,
      List.infix_cons_iff, not_or] at no_arrow
    obtain ⟨-, hinner, ⟨-, hcs⟩, -⟩ := no_arrow
    have htext : '<' :: (inner ++ '>' :: cs) ++ rest
        = '<' :: (inner ++ '>' :: (cs ++ rest)) := by simp
    rw [htext, afterAngles?, if_pos rfl, ihinner hinner (by omega), afterAngles?,
      if_neg (by decide), if_pos rfl, if_neg (by omega), Int.add_sub_cancel, ih hcs hdepth]

/-- Arrows are all that makes up for more closing brackets than opening ones. -/
theorem IsAngled.count_le (h : IsAngled cs) :
  cs.count '<' ≤ cs.count '>'
    ∧ (['-', '>'] <:+: cs → cs.count '<' < cs.count '>')
  := by
  induction h with
  | nil => simp
  | @plain c cs hopening hclosing hcs ih =>
    rw [List.count_cons_of_ne hopening, List.count_cons_of_ne hclosing, List.infix_cons_iff,
      Text.pair_prefix_iff]
    refine ⟨ih.1, ?_⟩
    rintro (⟨-, hhead⟩ | hinfix)
    · exact absurd hhead hcs.head?_ne
    · exact ih.2 hinfix
  | arrow _ ih =>
    simp only [List.count_cons]
    simp
    omega
  | @group inner cs _ hshaft hcs ihinner ih =>
    rw [List.infix_cons_iff, Text.pair_prefix_iff, Text.pair_infix_append_iff, List.infix_cons_iff,
      Text.pair_prefix_iff]
    simp only [List.count_cons, List.count_append]
    simp
    grind

/-- What is left behind a bracket is an end of the text, whatever follows. -/
theorem eq_of_afterAngles? (h : afterAngles? depth cs = some rest) :
  (∃ front, cs = front ++ '>' :: rest)
    ∧ ∀ more, afterAngles? depth (cs ++ more) = some (rest ++ more)
  := by
  induction cs generalizing depth with
  | nil => contradiction
  | cons c cs ih =>
    rw [afterAngles?] at h
    simp only [List.cons_append, afterAngles?]
    split at h
    next hopening =>
      obtain ⟨⟨front, rfl⟩, hmore⟩ := ih h
      simp only [if_pos hopening]
      exact ⟨⟨c :: front, rfl⟩, hmore⟩
    next hopening =>
      simp only [if_neg hopening]
      split at h
      next hclosing =>
        simp only [if_pos hclosing]
        split at h
        next hdepth =>
          cases h
          exact ⟨⟨[], by rw [hclosing]; rfl⟩, fun more => if_pos hdepth⟩
        next hdepth =>
          obtain ⟨⟨front, rfl⟩, hmore⟩ := ih h
          simp only [if_neg hdepth]
          exact ⟨⟨c :: front, rfl⟩, hmore⟩
      next hclosing =>
        obtain ⟨⟨front, rfl⟩, hmore⟩ := ih h
        simp only [if_neg hclosing]
        exact ⟨⟨c :: front, rfl⟩, hmore⟩

/-- Brackets that are not closed outnumber those that close. -/
theorem count_lt_of_afterAngles? (h : afterAngles? depth cs = none) (hdepth : 1 ≤ depth) :
  (cs.count '>' : Int) < cs.count '<' + depth
  := by
  induction cs generalizing depth with
  | nil => simp; omega
  | cons c cs ih =>
    rw [afterAngles?] at h
    split at h
    next hopening =>
      subst hopening
      have := ih h (by omega)
      simp
      omega
    next hopening =>
      split at h
      next hclosing =>
        subst hclosing
        split at h
        next => contradiction
        next hne =>
          have := ih h (by omega)
          simp
          omega
      next hclosing =>
        rw [List.count_cons_of_ne hopening, List.count_cons_of_ne hclosing]
        exact ih h hdepth

theorem afterAngles?_append_of_none (h : afterAngles? depth cs = none) {more : List Char}
    (hmore : '>' ∉ more) :
  afterAngles? depth (cs ++ more) = none
  := by
  induction cs generalizing depth with
  | nil =>
    rw [List.nil_append, Option.eq_none_iff_forall_ne_some]
    intro left hleft
    obtain ⟨⟨front, rfl⟩, -⟩ := eq_of_afterAngles? hleft
    simp at hmore
  | cons c cs ih =>
    rw [afterAngles?] at h
    rw [List.cons_append, afterAngles?]
    split at h
    next hopening => rw [if_pos hopening, ih h]
    next hopening =>
      rw [if_neg hopening]
      split at h
      next hclosing =>
        split at h
        next => contradiction
        next hdepth => rw [if_pos hclosing, if_neg hdepth, ih h]
      next hclosing => rw [if_neg hclosing, ih h]

/-- With an arrow in it the list of parameters is taken to end before its last bracket. -/
theorem IsAngled.exists_afterAngles? (h : IsAngled cs) (arrow : ['-', '>'] <:+: cs) :
  ∃ front left, cs = front ++ '>' :: left
    ∧ ∀ more, afterAngles? 1 (cs ++ more) = some (left ++ more)
  := by
  have hcount := h.count_le.2 arrow
  cases hafter : afterAngles? 1 cs with
  | none =>
    have := count_lt_of_afterAngles? hafter (by decide)
    omega
  | some left =>
    obtain ⟨⟨front, hcs⟩, hmore⟩ := eq_of_afterAngles? hafter
    exact ⟨front, left, hcs, hmore⟩

end

/-! ### Words of a header -/

/-- The word occurs in the text and is no part of a longer one. -/
def HasWord (word cs : List Char) : Prop :=
  ∃ front back, cs = front ++ (word ++ back) ∧ ¬ EndsInWord front
    ∧ ∀ c ∈ back.head?, Text.isWordChar c = false

section

variable {word cs ds : List Char} {c : Char}

theorem endsInWord_concat {front : List Char} :
  EndsInWord (front ++ [c]) ↔ Text.isWordChar c = true
  := by
  simp [EndsInWord]

theorem startsWithWord_iff :
  startsWithWord word cs = true
    ↔ ∃ back, cs = word ++ back ∧ ∀ c ∈ back.head?, Text.isWordChar c = false
  := by
  rw [startsWithWord]
  cases hafter : Text.afterPiece? word cs with
  | none =>
    have hnot := Text.afterPiece?_eq_none_iff.1 hafter
    simp only [Bool.false_eq_true, false_iff]
    rintro ⟨back, rfl, -⟩
    exact hnot (List.prefix_append _ _)
  | some back =>
    obtain rfl := Text.afterPiece?_eq_some_iff.1 hafter
    cases back with
    | nil => simp
    | cons d back => simp

theorem endsInWord_append_cons (hc : Text.isWordChar c = false) :
  EndsInWord (cs ++ c :: ds) ↔ EndsInWord ds
  := by
  cases ds using List.reverseRecOn with
  | nil =>
    rw [endsInWord_concat, hc]
    simp [EndsInWord]
  | append_singleton ds d =>
    rw [← List.cons_append, ← List.append_assoc, endsInWord_concat, endsInWord_concat]

/-- A text behind a character of no word has the words that it has by itself. -/
theorem HasWord.behind (h : HasWord word ds) (hc : Text.isWordChar c = false) (cs : List Char) :
  HasWord word (cs ++ c :: ds)
  := by
  obtain ⟨front, back, rfl, hfront, hback⟩ := h
  refine ⟨cs ++ c :: front, back, by simp, ?_, hback⟩
  rwa [endsInWord_append_cons hc]

/-- A word at the start of a text ends in front of a character of no word. -/
theorem exists_of_word_append_eq (hword : ∀ d ∈ word, Text.isWordChar d = true)
    (hc : Text.isWordChar c = false) {back : List Char} (h : word ++ back = cs ++ c :: ds)
    (hback : ∀ d ∈ back.head?, Text.isWordChar d = false) :
  ∃ between, cs = word ++ between ∧ ∀ d ∈ between.head?, Text.isWordChar d = false
  := by
  obtain ⟨between, hcs, rfl⟩ | ⟨between, rfl, -⟩ := Text.before_or_after_of_append_eq h
  · refine ⟨between, hcs, ?_⟩
    cases between with
    | nil => simp
    | cons d between => exact hback
  · have := hword c (by simp)
    rw [hc] at this
    contradiction

/-- A word in two texts that meet at a character of no word is one of either. -/
theorem HasWord.or_of_append_cons (hword : ∀ d ∈ word, Text.isWordChar d = true)
    (hc : Text.isWordChar c = false) (h : HasWord word (cs ++ c :: ds)) :
  HasWord word cs ∨ HasWord word ds
  := by
  obtain ⟨front, back, heq, hfront, hback⟩ := h
  obtain ⟨between, rfl, hrest⟩ | ⟨between, rfl, rfl⟩ :=
    Text.before_or_after_of_append_eq heq.symm
  · obtain ⟨between, rfl, hbetween⟩ := exists_of_word_append_eq hword hc hrest hback
    exact .inl ⟨front, between, rfl, hfront, hbetween⟩
  · rw [endsInWord_append_cons hc] at hfront
    exact .inr ⟨between, back, rfl, hfront, hback⟩

theorem not_hasWord_of_not_isInfix (h : ¬ word <:+: cs) :
  ¬ HasWord word cs
  := by
  rintro ⟨front, back, rfl, -, -⟩
  exact h ⟨front, back, by simp⟩

/-- Text without the word is passed over up to a character of no word. -/
theorem beforeWord_append (hword : ∀ d ∈ word, Text.isWordChar d = true)
    (hc : Text.isWordChar c = false) {front : List Char} (h : ¬ HasWord word (front ++ cs)) :
  beforeWord word (decide (EndsInWord front)) (cs ++ c :: ds)
    = cs ++ beforeWord word (decide (EndsInWord (front ++ cs))) (c :: ds)
  := by
  induction cs generalizing front with
  | nil => simp
  | cons d cs ih =>
    have hpass : ¬ (!decide (EndsInWord front) && startsWithWord word (d :: (cs ++ c :: ds))) := by
      rw [Bool.and_eq_true, Bool.not_eq_true', decide_eq_false_iff_not, startsWithWord_iff]
      rintro ⟨hfront, back, heq, hback⟩
      rw [← List.cons_append] at heq
      obtain ⟨between, hcs, hbetween⟩ := exists_of_word_append_eq hword hc heq.symm hback
      exact h ⟨front, between, by rw [hcs], hfront, hbetween⟩
    have hflag : Text.isWordChar d = decide (EndsInWord (front ++ [d])) := by
      rw [Bool.eq_iff_iff, decide_eq_true_iff, endsInWord_concat]
    rw [List.append_cons] at h
    rw [List.cons_append, beforeWord, if_neg hpass, hflag, ih h, List.append_cons front d cs]
    rfl

end

/-! ### Names -/

/-- A text as a name: on one line, and none if it is blank. -/
def nameOf? (cs : List Char) : Option String :=
  if (Text.squeeze cs).isEmpty then none else some (String.ofList (Text.squeeze cs))

theorem nameOf?_eq_iff {cs ds : List Char} :
  nameOf? cs = nameOf? ds ↔ Text.squeeze cs = Text.squeeze ds
  := by
  rw [nameOf?, nameOf?]
  cases hcs : Text.squeeze cs with
  | nil => cases hds : Text.squeeze ds <;> simp
  | cons c cs =>
    cases hds : Text.squeeze ds with
    | nil => simp
    | cons d ds => simp [-String.ofList_cons, String.ofList_inj]

theorem nameOf?_blank_append {a : List Char} (ha : Text.allBlank a = true) (cs : List Char) :
  nameOf? (a ++ cs) = nameOf? cs
  := by
  rw [nameOf?_eq_iff, Text.squeeze_blank_append ha]

theorem nameOf?_cons_blank {c : Char} (hc : Text.isBlank c = true) (cs : List Char) :
  nameOf? (c :: cs) = nameOf? cs
  := by
  rw [nameOf?_eq_iff, Text.squeeze_cons_blank hc]

/-- A text has another name behind a character that is not blank. -/
theorem nameOf?_ne_append_cons {c : Char} (hc : Text.isBlank c = false) (cs ds : List Char) :
  nameOf? ds ≠ nameOf? (cs ++ c :: ds)
  := by
  rw [Ne, nameOf?_eq_iff]
  obtain ⟨a, b, -, -, -, hsqueeze⟩ := Text.squeeze_append_cons hc cs ds
  intro heq
  have hlength := congrArg List.length (heq.trans hsqueeze)
  simp only [List.length_append, List.length_cons] at hlength
  omega

/-- The text in front of the body and of the bounds. -/
def beforeBounds (cs : List Char) : List Char :=
  beforeWord "where".toList false (cs.takeWhile (· != '{'))

theorem implementationName?_eq (rest : List Char) :
  implementationName? rest = nameOf? (beforeBounds (skipGenerics rest))
  := rfl

section

variable {cs : List Char}

theorem isWordChar_of_mem_where :
  ∀ c ∈ "where".toList, Text.isWordChar c = true
  := List.all_eq_true.1 (by decide +kernel)

theorem beforeWord_cons_blank {c : Char} (hc : Text.isBlank c = true) (inWord : Bool)
    (cs : List Char) :
  beforeWord "where".toList inWord (c :: cs) = c :: beforeWord "where".toList false cs
  := by
  have hstart : ¬ (!inWord && startsWithWord "where".toList (c :: cs)) := by
    rw [Bool.and_eq_true, startsWithWord_iff]
    rintro ⟨-, back, heq, -⟩
    cases heq
    contradiction
  rw [beforeWord, if_neg hstart, Text.isWordChar_of_isBlank hc]

theorem beforeBounds_cons_blank {c : Char} (hc : Text.isBlank c = true) (cs : List Char) :
  beforeBounds (c :: cs) = c :: beforeBounds cs
  := by
  have htake : (c :: cs).takeWhile (· != '{') = c :: cs.takeWhile (· != '{') := by
    rw [List.takeWhile_cons_of_pos]
    rw [bne_iff_ne]
    rintro rfl
    contradiction
  rw [beforeBounds, htake, beforeWord_cons_blank hc]
  rfl

/-- Blanks in front of a header do not matter for its name. -/
theorem nameOf?_beforeBounds_stripLeft (cs : List Char) :
  nameOf? (beforeBounds (Text.stripLeft cs)) = nameOf? (beforeBounds cs)
  := by
  induction cs with
  | nil => rfl
  | cons c cs ih =>
    by_cases hc : Text.isBlank c = true
    · rw [Text.stripLeft_cons_blank hc, ih, beforeBounds_cons_blank hc, nameOf?_cons_blank hc]
    · rw [Text.stripLeft_cons_solid (by simpa using hc)]

/-- Behind a list of parameters and in front of bounds or a body stands the name. -/
theorem nameOf?_beforeBounds_append (hbrace : '{' ∉ cs) (hwhere : ¬ HasWord "where".toList cs)
    {rest : List Char} (hrest : beforeBounds rest = []) :
  nameOf? (beforeBounds (cs ++ ' ' :: rest)) = nameOf? cs
  := by
  have htake : (cs ++ ' ' :: rest).takeWhile (· != '{')
      = cs ++ ' ' :: rest.takeWhile (· != '{') := by
    rw [Text.takeWhile_ne_append hbrace]
    rfl
  have hpass := @beforeWord_append "where".toList cs (rest.takeWhile (· != '{')) ' '
    isWordChar_of_mem_where (Text.isWordChar_of_isBlank (by decide)) [] hwhere
  have hstart : decide (EndsInWord []) = false := rfl
  rw [hstart, beforeWord_cons_blank (by decide)] at hpass
  rw [beforeBounds] at hrest
  rw [beforeBounds, htake, hpass, hrest, nameOf?_eq_iff, Text.squeeze_append_blank (by decide)]

theorem beforeBounds_where (cs : List Char) :
  beforeBounds ("where ".toList ++ cs) = []
  := by
  have htake : ("where ".toList ++ cs).takeWhile (· != '{')
      = 'w' :: ("here ".toList ++ cs.takeWhile (· != '{')) := rfl
  have hstart : startsWithWord "where".toList ('w' :: ("here ".toList ++ cs.takeWhile (· != '{')))
      = true := by
    rw [startsWithWord_iff]
    refine ⟨' ' :: cs.takeWhile (· != '{'), rfl, ?_⟩
    rintro c ⟨⟩
    exact Text.isWordChar_of_isBlank (by decide)
  rw [beforeBounds, htake, beforeWord, hstart]
  rfl

theorem implementationName?_of_angle (rest : List Char) :
  implementationName? ('<' :: rest) = nameOf? (beforeBounds ((afterAngles? 1 rest).getD []))
  := by
  have hskip : skipGenerics ('<' :: rest) = Text.stripLeft ((afterAngles? 1 rest).getD []) := rfl
  rw [implementationName?_eq, hskip, nameOf?_beforeBounds_stripLeft]

theorem implementationName?_of_head?_ne (hcs : (Text.stripLeft cs).head? ≠ some '<') :
  implementationName? cs = nameOf? (beforeBounds cs)
  := by
  have hskip : skipGenerics cs = Text.stripLeft cs := by
    rw [skipGenerics]
    split
    next heq =>
      rw [heq] at hcs
      simp at hcs
    next => rfl
  rw [implementationName?_eq, hskip, nameOf?_beforeBounds_stripLeft]

theorem implementationName?_blank_append {a : List Char} (ha : Text.allBlank a = true)
    (cs : List Char) :
  implementationName? (a ++ cs) = implementationName? cs
  := by
  rw [implementationName?, skipGenerics, Text.stripLeft_append_blank ha]
  rfl

end

/-! ### Headers with and without parameters -/

section

variable {g h : List Char}

/-- The name that a header begins with is the whole header but for a list of parameters in which
there is no arrow. -/
theorem implementationName?_generics (hg : IsAngled g) (no_arrow : ¬ ['-', '>'] <:+: g)
    (hbrace : '{' ∉ h) (hwhere : ¬ HasWord "where".toList h) (w : List Char) :
  implementationName? ('<' :: (g ++ '>' :: ' ' :: (h ++ " where ".toList ++ w))) = nameOf? h
  := by
  have hafter : afterAngles? 1 (g ++ '>' :: ' ' :: (h ++ " where ".toList ++ w))
      = some (' ' :: (h ++ " where ".toList ++ w)) := by
    rw [hg.afterAngles?_append no_arrow (by decide)]
    rfl
  have htext : h ++ " where ".toList ++ w = h ++ ' ' :: ("where ".toList ++ w) := by simp
  rw [implementationName?_of_angle, hafter, Option.getD_some, beforeBounds_cons_blank (by decide),
    nameOf?_cons_blank (by decide), htext,
    nameOf?_beforeBounds_append hbrace hwhere (beforeBounds_where w)]

/-- The rest of a list of parameters with an arrow in it becomes a part of the name. -/
theorem implementationName?_generics_ne (hg : IsAngled g) (arrow : ['-', '>'] <:+: g)
    (no_brace : '{' ∉ g) (no_where : ¬ HasWord "where".toList g) (hbrace : '{' ∉ h)
    (hwhere : ¬ HasWord "where".toList h) (w : List Char) :
  implementationName? ('<' :: (g ++ '>' :: ' ' :: (h ++ " where ".toList ++ w))) ≠ nameOf? h
  := by
  obtain ⟨front, left, rfl, hafter⟩ := hg.exists_afterAngles? arrow
  have hname : '{' ∉ left ++ '>' :: ' ' :: h := by
    simp_all
  have hword : ¬ HasWord "where".toList (left ++ '>' :: ' ' :: h) := by
    intro hword
    obtain hleft | hword := hword.or_of_append_cons isWordChar_of_mem_where (by decide)
    · exact no_where (hleft.behind (by decide) front)
    · obtain hnil | hh := @HasWord.or_of_append_cons _ [] _ _ isWordChar_of_mem_where
        (Text.isWordChar_of_isBlank (by decide)) hword
      · exact not_hasWord_of_not_isInfix (by decide) hnil
      · exact hwhere hh
  have htext : left ++ '>' :: ' ' :: (h ++ " where ".toList ++ w)
      = (left ++ '>' :: ' ' :: h) ++ ' ' :: ("where ".toList ++ w) := by simp
  rw [implementationName?_of_angle, hafter, Option.getD_some, htext,
    nameOf?_beforeBounds_append hname hword (beforeBounds_where w),
    ← @nameOf?_cons_blank ' ' (by decide) h]
  exact (nameOf?_ne_append_cons (by decide) left (' ' :: h)).symm

/-- A header that begins with a bracket is not named after the text up to the end of it. -/
theorem implementationName?_angle_ne {t : List Char} (hbrace : '{' ∉ t)
    (hwhere : ¬ HasWord "where".toList t) :
  implementationName? ('<' :: (t ++ " \x7b".toList)) ≠ nameOf? ('<' :: t)
  := by
  rw [implementationName?_of_angle]
  cases hafter : afterAngles? 1 t with
  | none =>
    rw [afterAngles?_append_of_none hafter (by decide), Option.getD_none, Ne, nameOf?_eq_iff]
    intro heq
    have hblank := Text.squeeze_eq_nil_iff.1 heq.symm
    rw [Text.allBlank_iff] at hblank
    have := hblank '<' (by simp)
    contradiction
  | some left =>
    obtain ⟨⟨front, rfl⟩, hmore⟩ := eq_of_afterAngles? hafter
    have hleft : '{' ∉ left := by
      simp_all
    have hword : ¬ HasWord "where".toList left :=
      fun hword => hwhere (hword.behind (by decide) front)
    have hname : nameOf? (beforeBounds (left ++ " \x7b".toList)) = nameOf? left :=
      @nameOf?_beforeBounds_append left hleft hword ['{'] (by decide)
    rw [hmore, Option.getD_some, hname]
    exact nameOf?_ne_append_cons (by decide) ('<' :: front) left

/-- A header without parameters names the implementation unless it begins with a bracket. -/
theorem implementationName?_header_iff (hbrace : '{' ∉ h) (hwhere : ¬ HasWord "where".toList h) :
  implementationName? (' ' :: (h ++ " \x7b".toList)) = nameOf? h
    ↔ (Text.stripLeft h).head? ≠ some '<'
  := by
  have hgap : implementationName? (' ' :: (h ++ " \x7b".toList))
      = implementationName? (h ++ " \x7b".toList) :=
    implementationName?_blank_append (a := [' ']) (by decide) _
  rw [hgap]
  constructor
  · intro hname hhead
    obtain ⟨a, t, ha, rfl⟩ := Text.exists_of_head?_stripLeft hhead
    rw [List.append_assoc, implementationName?_blank_append ha, nameOf?_blank_append ha] at hname
    have hbrace : '{' ∉ t := by
      simp_all
    have hwhere : ¬ HasWord "where".toList t :=
      fun hword => hwhere (hword.behind (by decide) a)
    exact implementationName?_angle_ne hbrace hwhere hname
  · intro hhead
    rw [implementationName?_of_head?_ne]
    · exact nameOf?_beforeBounds_append hbrace hwhere (by decide)
    · rw [Text.stripLeft_append]
      split
      next => decide
      next hblank =>
        rw [← Text.stripLeft_eq_nil_iff] at hblank
        rwa [List.head?_append_of_ne_nil _ hblank]

/-- An implementation with generic parameters has the name that its header has without them, unless
an arrow stands in the parameters, and a header that begins with a bracket has another name. -/
theorem implementationName?_iff_of_isAngled (hg : IsAngled g) (hbrace : '{' ∉ h)
    (hwhere : ¬ HasWord "where".toList h) (w : List Char) :
  (¬ ['-', '>'] <:+: g →
      implementationName? ('<' :: (g ++ '>' :: ' ' :: (h ++ " where ".toList ++ w))) = nameOf? h)
    ∧ (['-', '>'] <:+: g → '{' ∉ g → ¬ HasWord "where".toList g →
      implementationName? ('<' :: (g ++ '>' :: ' ' :: (h ++ " where ".toList ++ w))) ≠ nameOf? h)
    ∧ (implementationName? (' ' :: (h ++ " \x7b".toList)) = nameOf? h
      ↔ (Text.stripLeft h).head? ≠ some '<')
  := by
  refine ⟨fun no_arrow => ?_, fun arrow no_brace no_where => ?_, ?_⟩
  · exact implementationName?_generics hg no_arrow hbrace hwhere w
  · exact implementationName?_generics_ne hg arrow no_brace no_where hbrace hwhere w
  · exact implementationName?_header_iff hbrace hwhere

end

/-- Parameters with brackets inside brackets. -/
def boundedParameters : List Char :=
  "T: Into<Vec<u8>>, const N: usize".toList

theorem isAngled_boundedParameters :
  IsAngled boundedParameters
  := by
  have hvec : IsAngled "Vec<u8>".toList :=
    (isAngled_of_all "Vec".toList (by decide)).append
      (.group (isAngled_of_all "u8".toList (by decide)) (by decide) .nil)
  exact (isAngled_of_all "T: Into".toList (by decide)).append
    (.group hvec (by decide) (isAngled_of_all ", const N: usize".toList (by decide)))

theorem implementationName?_boundedParameters :
  IsAngled boundedParameters
    ∧ '{' ∉ "Sum<T> for  Wrapper<T, N>".toList
    ∧ ¬ HasWord "where".toList "Sum<T> for  Wrapper<T, N>".toList
    ∧ implementationName?
        "<T: Into<Vec<u8>>, const N: usize> Sum<T> for  Wrapper<T, N> where T: Copy \x7b".toList
      = some "Sum<T> for Wrapper<T, N>"
    ∧ implementationName? " Sum<T> for  Wrapper<T, N> \x7b".toList
      = some "Sum<T> for Wrapper<T, N>"
  := by
  have hbrace : '{' ∉ "Sum<T> for  Wrapper<T, N>".toList := by decide
  have hwhere : ¬ HasWord "where".toList "Sum<T> for  Wrapper<T, N>".toList :=
    not_hasWord_of_not_isInfix (by decide +kernel)
  have hname : nameOf? "Sum<T> for  Wrapper<T, N>".toList = some "Sum<T> for Wrapper<T, N>" := by
    decide +kernel
  obtain ⟨hplain, -, hheader⟩ := implementationName?_iff_of_isAngled isAngled_boundedParameters
    hbrace hwhere "T: Copy \x7b".toList
  refine ⟨isAngled_boundedParameters, hbrace, hwhere, ?_, ?_⟩
  · exact (hplain (by decide +kernel)).trans hname
  · exact (hheader.2 (by decide +kernel)).trans hname

/-- The bound of a parameter is a function type, and what follows its arrow is named as well. -/
theorem implementationName?_arrow :
  IsAngled "F: Fn(u8) -> u8".toList
    ∧ implementationName? "<F: Fn(u8) -> u8> Run for Job<F> where F: Copy \x7b".toList
      = some "u8> Run for Job<F>"
    ∧ implementationName? " Run for Job<F> \x7b".toList = some "Run for Job<F>"
  := by
  refine ⟨?_, by decide +kernel, by decide +kernel⟩
  exact (isAngled_of_all "F: Fn(u8) ".toList (by decide)).append
    (.arrow (isAngled_of_all " u8".toList (by decide)))

end AnchorIndex.Source

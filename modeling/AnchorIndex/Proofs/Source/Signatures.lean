import AnchorIndex.Proofs.Account.Items
import AnchorIndex.Proofs.Text.Searching
import AnchorIndex.Source.Split

/-!
# Signatures of functions

A signature ends at the first brace or arrow, and its parameters are looked for behind its first
parenthesis. They are found as they are written if neither a brace nor an arrow stands in them or in
front of them, and no parenthesis in front. Otherwise they are missed: none is found if one of them
ends the signature, and nothing in them matters if the text in front of them ends it or has a
parenthesis of its own (`parameters_eq_iff`).
-/

namespace AnchorIndex.Source.Function

open Account (IsNested IsSeparated ends_cons isNested_of_all)
open Text (allBlank squeeze strip stripLeft stripRight)

/-! ### Ends of a signature -/

/-- Neither a brace nor an arrow stands in the text, so that no signature ends in it. -/
def Endless (cs : List Char) : Prop :=
  '{' ∉ cs ∧ ¬ ['-', '>'] <:+: cs

instance (cs : List Char) : Decidable (Endless cs) :=
  inferInstanceAs (Decidable (_ ∧ _))

/-- The text up to the first brace and the first arrow. -/
def head (cs : List Char) : List Char :=
  Text.before ['-', '>'] (cs.takeWhile (· != '{'))

theorem signature_eq (content : List Char) :
  signature content = strip (head content)
  := rfl

section

variable {c : Char} {cs ds : List Char}

/-- No arrow goes across a character that belongs to none. -/
theorem endless_append_cons (hc : c ∉ ['{', '-', '>']) :
  Endless (cs ++ c :: ds) ↔ Endless cs ∧ Endless ds
  := by
  simp only [List.mem_cons, List.not_mem_nil, or_false, not_or] at hc
  obtain ⟨hbrace, hshaft, htip⟩ := hc
  rw [Endless, Text.pair_infix_append_iff, List.infix_cons_iff, Text.pair_prefix_iff, Endless,
    Endless, List.mem_append, List.mem_cons, List.head?_cons, Option.some.injEq]
  grind

theorem endless_of_allBlank (h : allBlank cs = true) :
  Endless cs
  := by
  refine ⟨Account.notMem_of_allBlank (by decide) h, fun harrow => ?_⟩
  have hmem : '-' ∈ cs := harrow.subset (by simp)
  exact Account.notMem_of_allBlank (by decide) h hmem

/-- A list of texts has no end of a signature if none of the texts has. -/
theorem endless_joinWith {ps : List (List Char)} :
  Endless (Text.joinWith ',' ps) ↔ ∀ p ∈ ps, Endless p
  := by
  induction ps with
  | nil => simp [Endless, Text.joinWith]
  | cons p ps ih =>
    cases ps with
    | nil => simp [Text.joinWith]
    | cons p' ps =>
      rw [Text.joinWith_cons_cons, endless_append_cons (by decide), ih]
      exact List.forall_mem_cons.symm

/-- The signature goes on behind a text in which it does not end. -/
theorem head_append_cons (hc : c ∉ ['{', '-', '>']) (h : Endless cs) (ds : List Char) :
  head (cs ++ c :: ds) = cs ++ c :: head ds
  := by
  have hconcat : Endless (cs ++ [c]) :=
    (endless_append_cons hc).2 ⟨h, endless_of_allBlank Text.allBlank_nil⟩
  have hparted : Text.Parted ['-', '>'] (cs ++ [c]) (ds.takeWhile (· != '{')) := by
    left
    intro d hd
    simp at hd hc
    simp [← hd, hc]
  have hcut := Text.cutAt?_append_of_none (Text.cutAt?_eq_none_iff.2 hconcat.2) hparted
  rw [List.append_cons, head, Text.takeWhile_ne_append hconcat.1, Text.before, hcut, head,
    Text.before]
  cases Text.cutAt? ['-', '>'] (ds.takeWhile (· != '{')) <;> simp

/-- A signature that ends in a text does not have all of it, and nothing behind it. -/
theorem exists_head_append_eq (h : ¬ Endless cs) :
  ∃ front rest, rest ≠ [] ∧ cs = front ++ rest ∧ ∀ ds, head (cs ++ ds) = front
  := by
  by_cases hbrace : '{' ∈ cs
  · obtain ⟨front, back, rfl, hfront⟩ := List.eq_append_cons_of_mem hbrace
    obtain ⟨rest, hrest⟩ := Text.before_prefix ['-', '>'] front
    refine ⟨Text.before ['-', '>'] front, rest ++ '{' :: back, by simp, ?_, fun ds => ?_⟩
    · rw [← List.append_assoc, hrest]
    · rw [List.append_assoc, head, Text.takeWhile_ne_append hfront]
      simp
  · rw [Endless, not_and, not_not] at h
    cases hcut : Text.cutAt? ['-', '>'] cs with
    | none => exact absurd (h hbrace) (Text.cutAt?_eq_none_iff.1 hcut)
    | some parts =>
      obtain ⟨front, after⟩ := parts
      refine ⟨front, '-' :: '>' :: after, by simp, ?_, fun ds => ?_⟩
      · rw [Text.eq_of_cutAt? hcut]
        simp
      · rw [head, Text.takeWhile_ne_append hbrace, Text.before, Text.cutAt?_append_of_some hcut]

/-- Nothing behind the end of a signature matters for the parameters. -/
theorem parameters_append_of_not_endless (h : ¬ Endless cs) (ds : List Char) :
  parameters (cs ++ ds) = parameters cs
  := by
  obtain ⟨front, -, -, -, hhead⟩ := exists_head_append_eq h
  have hnil := hhead []
  rw [List.append_nil] at hnil
  rw [parameters, signature_eq, hhead, ← hnil]
  rfl

end

/-! ### Parentheses -/

section

variable {inside : Bool} {cs front inner rest : List Char}

/-- The first parenthesis of the text has a nested text inside. -/
def Encloses (cs : List Char) : Prop :=
  ∃ front inner rest, cs = front ++ '(' :: (inner ++ ')' :: rest) ∧ '(' ∉ front
    ∧ IsNested true true inner

theorem Encloses.behind (h : Encloses cs) (hfront : '(' ∉ front) :
  Encloses (front ++ cs)
  := by
  obtain ⟨before, inner, rest, rfl, hbefore, hinner⟩ := h
  refine ⟨front ++ before, inner, rest, by simp, ?_, hinner⟩
  rw [List.mem_append, not_or]
  exact ⟨hfront, hbefore⟩

theorem Encloses.append (h : Encloses cs) (ds : List Char) :
  Encloses (cs ++ ds)
  := by
  obtain ⟨front, inner, rest, rfl, hfront, hinner⟩ := h
  exact ⟨front, inner, rest ++ ds, by simp, hfront, hinner⟩

/-- The parentheses of a nested text are closed in it. -/
theorem encloses_of_isNested (h : IsNested true inside cs) (hmem : '(' ∈ cs) :
  Encloses cs
  := by
  induction h with
  | nil => contradiction
  | @plain _ c cs hplain _ _ _ ih =>
    have hc : '(' ∉ [c] := by
      rw [List.mem_singleton]
      rintro rfl
      exact hplain.1 (by simp)
    exact (ih (by simp_all)).behind hc
  | comma _ ih =>
    have hcomma : '(' ∉ [','] := by decide
    exact (ih (by simp_all)).behind hcomma
  | @group _ inner cs b _ hinner _ _ ihinner ih =>
    by_cases hround : b = .round
    · subst hround
      exact ⟨[], inner, cs, rfl, by simp, hinner⟩
    · have hopening : '(' ∉ [b.opening] := by
        cases b <;> simp_all [Account.Bracket.opening]
      have hclosing : '(' ∉ [b.closing] := by
        cases b <;> simp_all [Account.Bracket.closing]
      by_cases hmemInner : '(' ∈ inner
      · exact ((ihinner hmemInner).append (b.closing :: cs)).behind hopening
      · have hcs : '(' ∈ cs := by
          simp_all
        have hpassed : '(' ∉ [b.opening] ++ inner ++ [b.closing] := by
          simp_all
        have htext : b.opening :: (inner ++ b.closing :: cs)
            = [b.opening] ++ inner ++ [b.closing] ++ cs := by simp
        rw [htext]
        exact (ih hcs).behind hpassed
  | literal hangles => contradiction
  | rawLiteral hangles => contradiction
  | lifetime _ _ _ _ ih =>
    have hquote : '(' ∉ ['\''] := by decide
    exact (ih (by simp_all)).behind hquote
  | @arrow _ c cs _ hshaft _ ih =>
    have htip : '(' ∉ [c, '>'] := by
      obtain rfl | rfl := hshaft <;> decide
    exact (ih (by simp_all)).behind htip

/-- A parenthesis stays open in a beginning of the nested text behind it. -/
theorem cutAtClosing?_eq_none (h : IsNested true inside (front ++ rest)) (hrest : rest ≠ []) :
  cutAtClosing? '(' ')' 1 front = none
  := by
  cases hcut : cutAtClosing? '(' ')' 1 front with
  | none => rfl
  | some parts =>
    obtain ⟨closed, more⟩ := parts
    have hmore := cutAtClosing?_append hcut (rest ++ [')'])
    rw [← List.append_assoc, h.cutAtClosing?_append []] at hmore
    have hclosed : front ++ rest = closed := congrArg Prod.fst (Option.some.inj hmore)
    have hlength := congrArg List.length (eq_of_cutAtClosing? hcut)
    have hpos := List.length_pos_of_ne_nil hrest
    rw [← hclosed] at hlength
    simp only [List.length_append] at hlength
    omega

/-- The parameters are looked for behind the first parenthesis, if the signature has not ended. -/
theorem parameters_append_cons (hfront : Endless front) (hparen : '(' ∉ front)
    (rest : List Char) :
  parameters (front ++ '(' :: rest)
    = (cutAtClosing? '(' ')' 1 (stripRight (head rest))).elim []
        fun parts => (splitCommas true parts.1).map squeeze
  := by
  have hsignature : signature (front ++ '(' :: rest)
      = stripLeft front ++ '(' :: stripRight (head rest) := by
    rw [signature_eq, head_append_cons (by decide) hfront, strip,
      Text.stripLeft_append_cons (by decide), Text.stripRight_append_cons (by decide)]
  have hdrop : (stripLeft front ++ '(' :: stripRight (head rest)).dropWhile (· != '(')
      = '(' :: stripRight (head rest) := by
    rw [Text.dropWhile_ne_append fun hmem => hparen (Text.mem_of_mem_stripLeft hmem)]
    rfl
  rw [parameters, hsignature, hdrop]
  cases hcut : cutAtClosing? '(' ')' 1 (stripRight (head rest)) with
  | none => simp only [hcut, Option.elim_none]
  | some parts => simp only [hcut, Option.elim_some]

/-- A nested text in the first parentheses is the list of the parameters. -/
theorem parameters_parenthesis (hfront : Endless front) (hparen : '(' ∉ front)
    (hinner : IsNested true inside inner) (hend : Endless inner) (rest : List Char) :
  parameters (front ++ '(' :: (inner ++ ')' :: rest)) = (splitCommas true inner).map squeeze
  := by
  rw [parameters_append_cons hfront hparen, head_append_cons (by decide) hend,
    Text.stripRight_append_cons (by decide), hinner.cutAtClosing?_append, Option.elim_some]

/-- There are no parameters if the signature ends among them. -/
theorem parameters_eq_nil (hfront : Endless front) (hparen : '(' ∉ front)
    (hinner : IsNested true inside inner) (hend : ¬ Endless inner) (rest : List Char) :
  parameters (front ++ '(' :: (inner ++ rest)) = []
  := by
  obtain ⟨before, after, hafter, rfl, hhead⟩ := exists_head_append_eq hend
  have hprefix : stripRight before <+: before := by
    rw [Text.stripRight_eq_rdropWhile]
    exact List.rdropWhile_prefix Text.isBlank before
  obtain ⟨blanks, hblanks⟩ := hprefix
  rw [parameters_append_cons hfront hparen, hhead]
  have hnested : IsNested true inside (stripRight before ++ (blanks ++ after)) := by
    rwa [← List.append_assoc, hblanks]
  rw [cutAtClosing?_eq_none hnested (by simp [hafter]), Option.elim_none]

end

/-! ### Parameters -/

section

variable {front list : List Char} {params : List (List Char)}

theorem endless_iff_of_isSeparated (h : IsSeparated params list) :
  Endless list ↔ ∀ p ∈ params, Endless p
  := by
  obtain ⟨blanks, hblanks, rfl⟩ := h.exists_joinWith
  rw [endless_joinWith, List.forall_mem_append, and_iff_left]
  exact fun b hb => endless_of_allBlank (hblanks b hb)

/-- The parameters are found if none of them ends the signature, and only then. If the text in front
of them ends it, or has a parenthesis itself, they are not looked for. -/
theorem parameters_eq_iff (hfront : IsNested true false front)
    (hparams : ∀ p ∈ params, IsNested true false p ∧ allBlank p = false)
    (hlist : IsSeparated params list) (rest : List Char) :
  (Endless front ∧ '(' ∉ front →
      (parameters (front ++ '(' :: (list ++ ')' :: rest)) = params.map squeeze
        ↔ ∀ p ∈ params, Endless p))
    ∧ (¬ (Endless front ∧ '(' ∉ front) →
      parameters (front ++ '(' :: (list ++ ')' :: rest)) = parameters front)
  := by
  have hnested := hlist.isNested fun p hp => (hparams p hp).1
  constructor
  · rintro ⟨hend, hparen⟩
    rw [← endless_iff_of_isSeparated hlist]
    constructor
    · intro heq
      by_contra hnot
      rw [parameters_eq_nil hend hparen hnested hnot, eq_comm, List.map_eq_nil_iff] at heq
      subst heq
      rw [endless_iff_of_isSeparated hlist] at hnot
      simp at hnot
    · intro hlistEnd
      rw [parameters_parenthesis hend hparen hnested hlistEnd, hlist.splitCommas hparams,
        List.map_map]
      apply List.map_congr_left
      intro p _
      exact Text.squeeze_strip p
  · intro hnot
    by_cases hend : Endless front
    · obtain ⟨before, inner, after, rfl, hparen, hinner⟩ :=
        encloses_of_isNested hfront (by_contra fun hparen => hnot ⟨hend, hparen⟩)
      rw [endless_append_cons (by decide), endless_append_cons (by decide)] at hend
      obtain ⟨hbefore, hinnerEnd, -⟩ := hend
      have htext : before ++ '(' :: (inner ++ ')' :: after) ++ '(' :: (list ++ ')' :: rest)
          = before ++ '(' :: (inner ++ ')' :: (after ++ '(' :: (list ++ ')' :: rest))) := by simp
      rw [htext, parameters_parenthesis hbefore hparen hinner hinnerEnd,
        parameters_parenthesis hbefore hparen hinner hinnerEnd]
    · exact parameters_append_of_not_endless hend _

end

/-- Parameters with brackets inside brackets, each on a line of its own. -/
def payParameters : List (List Char) :=
  ["\n  &mut self".toList, "\n  pairs: Vec<(u8, [u8; 4])>".toList]

theorem isNested_payParameters :
  ∀ p ∈ payParameters, IsNested true false p ∧ allBlank p = false
  := by
  have hself : IsNested true false "\n  &mut self".toList := isNested_of_all (by decide)
  have hsquare : IsNested true true "[u8; 4]".toList :=
    .group .square nofun (@isNested_of_all true true "u8; 4".toList (by decide)) nofun .nil
  have hspace : IsNested true true " [u8; 4]".toList :=
    (@isNested_of_all true true " ".toList (by decide)).append hsquare (ends_cons (by decide) _)
  have hpair : IsNested true true "u8, [u8; 4]".toList :=
    (@isNested_of_all true true "u8".toList (by decide)).append (.comma hspace)
      (ends_cons (by decide) _)
  have hround : IsNested true true "(u8, [u8; 4])".toList := .group .round nofun hpair nofun .nil
  have hlast : ∀ c ∈ "(u8, [u8; 4])".toList.getLast?, c ≠ '-' ∧ c ≠ '=' := by
    rintro c ⟨⟩
    decide
  have hpairs : IsNested true false "\n  pairs: Vec<(u8, [u8; 4])>".toList :=
    (@isNested_of_all true false "\n  pairs: Vec".toList (by decide)).append
      (.group .angle (fun _ => rfl) hround (fun _ => hlast) .nil) (ends_cons (by decide) _)
  simp only [payParameters, List.forall_mem_cons]
  exact ⟨⟨hself, by decide⟩, ⟨hpairs, by decide⟩, by simp⟩

theorem parameters_pay :
  IsNested true false "pub fn pay<T: Copy>".toList
    ∧ (∀ p ∈ payParameters, IsNested true false p ∧ allBlank p = false)
    ∧ IsSeparated payParameters "\n  &mut self,\n  pairs: Vec<(u8, [u8; 4])>,\n".toList
    ∧ parameters
        "pub fn pay<T: Copy>(\n  &mut self,\n  pairs: Vec<(u8, [u8; 4])>,\n) -> u8 \x7b\x7d".toList
      = ["&mut self".toList, "pairs: Vec<(u8, [u8; 4])>".toList]
  := by
  have hcopy : IsNested true true "T: Copy".toList := isNested_of_all (by decide)
  have hlast : ∀ c ∈ "T: Copy".toList.getLast?, c ≠ '-' ∧ c ≠ '=' := by
    rintro c ⟨⟩
    decide
  have hfront : IsNested true false "pub fn pay<T: Copy>".toList :=
    (@isNested_of_all true false "pub fn pay".toList (by decide)).append
      (.group .angle (fun _ => rfl) hcopy (fun _ => hlast) .nil) (ends_cons (by decide) _)
  have hlist : IsSeparated payParameters
      "\n  &mut self,\n  pairs: Vec<(u8, [u8; 4])>,\n".toList :=
    .inr ⟨['\n'], by decide, rfl⟩
  have hfound := (parameters_eq_iff hfront isNested_payParameters hlist
    " -> u8 \x7b\x7d".toList).1 (by decide)
  exact ⟨hfront, isNested_payParameters, hlist, (hfound.2 (by decide)).trans (by decide)⟩

/-- The first signature ends among its parameters, and the second in front of them. -/
theorem parameters_arrow :
  parameters "fn f(g: impl Fn(u8) -> u8, x: u8) \x7b\x7d".toList = []
    ∧ parameters "fn f<F: Fn(u8) -> u8>(g: F, x: u8) \x7b\x7d".toList = ["u8".toList]
  := by
  decide +kernel

end AnchorIndex.Source.Function

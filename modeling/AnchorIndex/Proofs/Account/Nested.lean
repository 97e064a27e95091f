import AnchorIndex.Proofs.Account.Grammar
import AnchorIndex.Proofs.Source.Fragments
import AnchorIndex.Proofs.Text.Splitting

/-!
# Joined nested texts

Nested texts make up a nested text if nothing that begins in one ends in the next
(`IsNested.append`). So the items of an attribute are nested texts (`IsItem.isNested`), and so are
lists of nested texts (`IsSeparated.isNested`).
-/

namespace AnchorIndex.Account

open Text (allBlank isBlank isNameChar isNameStart)

/-! ### Joined texts -/

/-- No construct of a source text goes on in what begins so. -/
def Ends (rest : List Char) : Prop :=
  ∀ c ∈ rest.head?, c ∉ ['/', '*', '#', '"', '\'']

theorem ends_cons {c : Char} (h : c ∉ ['/', '*', '#', '"', '\'']) (rest : List Char) :
  Ends (c :: rest)
  := by
  intro d hd
  cases hd
  exact h

/-- No raw literal is opened across the end of a text. -/
theorem Ends.no_opening {cs rest : List Char} (h : Ends rest)
    (hcs : ∀ hashes rest, cs ≠ List.replicate hashes '#' ++ '"' :: rest) (hashes : Nat)
    (more : List Char) :
  cs ++ rest ≠ List.replicate hashes '#' ++ '"' :: more
  := by
  intro heq
  obtain ⟨between, hhashes, hrest⟩ | ⟨between, hbetween, -⟩ :=
    Text.before_or_after_of_append_eq heq
  · cases between with
    | nil =>
      have hnot := h '"' (by rw [hrest]; rfl)
      simp at hnot
    | cons c between =>
      have hc : c = '#' := by
        apply List.eq_of_mem_replicate
        rw [hhashes]
        simp
      have hnot := h c (by rw [hrest]; rfl)
      simp [hc] at hnot
  · exact hcs hashes between hbetween

/-- No comment is opened there either. -/
theorem Ends.no_comment {cs rest : List Char} (h : Ends rest)
    (hcs : ∀ d ∈ cs.head?, d ≠ '/' ∧ d ≠ '*') :
  ∀ d ∈ (cs ++ rest).head?, d ≠ '/' ∧ d ≠ '*'
  := by
  cases cs with
  | nil =>
    intro d hd
    have hnot := h d hd
    simp only [List.mem_cons, List.not_mem_nil, or_false, not_or] at hnot
    exact ⟨hnot.1, hnot.2.1⟩
  | cons c cs => exact hcs

section

variable {angles inside : Bool} {cs ds : List Char}

/-- Nested texts make up a nested text. -/
theorem IsNested.append (hcs : IsNested angles inside cs) (hds : IsNested angles inside ds)
    (hends : Ends ds) :
  IsNested angles inside (cs ++ ds)
  := by
  induction hcs with
  | nil => exact hds
  | plain hplain hslash hraw _ ih =>
    exact .plain hplain (fun heq => hends.no_comment (hslash heq))
      (fun heq => hends.no_opening (hraw heq)) (ih hds)
  | comma _ ih => exact .comma (ih hds)
  | group b counts hinner harrow _ _ ih =>
    rw [List.cons_append, List.append_assoc, List.cons_append]
    exact .group b counts hinner harrow (ih hds)
  | literal hangles hcontent _ ih =>
    rw [List.cons_append, List.append_assoc, List.cons_append]
    exact .literal hangles hcontent (ih hds)
  | rawLiteral hangles hashes hcontent _ ih =>
    have hmore := IsNested.rawLiteral hangles hashes hcontent (ih hds)
    simpa using hmore
  | @lifetime _ cs hangles hstart hliteral _ ih =>
    -- the second text may begin where the first decides that the lifetime is no literal
    obtain ⟨c, hc, hname⟩ := hstart
    obtain ⟨cs, rfl⟩ := List.head?_eq_some_iff.1 hc
    apply IsNested.lifetime hangles ⟨c, rfl, hname⟩ _ (ih hds)
    cases cs with
    | nil =>
      intro hquote
      have hnot := hends '\'' (by simpa [List.head?_eq_getElem?] using hquote)
      simp at hnot
    | cons d cs => exact hliteral
  | arrow hangles hshaft _ ih => exact .arrow hangles hshaft (ih hds)

/-- A text without commas outside of brackets may stand in brackets. -/
theorem IsNested.in_brackets (h : IsNested angles inside cs) :
  IsNested angles true cs
  := by
  induction h with
  | nil => exact .nil
  | plain hplain hslash hraw _ ih => exact .plain hplain hslash hraw ih
  | comma _ ih => exact .comma ih
  | group b counts hinner harrow _ _ ih => exact .group b counts hinner harrow ih
  | literal hangles hcontent _ ih => exact .literal hangles hcontent ih
  | rawLiteral hangles hashes hcontent _ ih => exact .rawLiteral hangles hashes hcontent ih
  | lifetime hangles hstart hliteral _ ih => exact .lifetime hangles hstart hliteral ih
  | arrow hangles hshaft _ ih => exact .arrow hangles hshaft ih

/-- Plain characters make up a nested text, if none begins a comment. -/
theorem isNested_of_forall (h : ∀ c ∈ cs, IsPlain angles c ∧ c ≠ '/') :
  IsNested angles inside cs
  := by
  induction cs with
  | nil => exact .nil
  | cons c cs ih =>
    obtain ⟨⟨hplain, hslash⟩, hcs⟩ := List.forall_mem_cons.1 h
    apply IsNested.plain hplain (fun heq => absurd heq hslash) _ (ih hcs)
    intro _ hashes rest heq
    obtain ⟨⟨hquote, -⟩, -⟩ := hcs '"' (by rw [heq]; simp)
    simp at hquote

theorem isNested_of_all (h : cs.all (fun c =>
      !(['"', '\'', ',', '(', ')', '[', ']', '{', '}', '<', '>', '/'].contains c)) = true) :
  IsNested angles inside cs
  := by
  apply isNested_of_forall
  intro c hc
  have hother := List.all_eq_true.1 h c hc
  simp only [List.contains_iff_mem, Bool.not_eq_true', List.mem_cons,
    List.not_mem_nil, or_false, not_or, ← Bool.not_eq_true] at hother
  simp [IsPlain, hother]

/-- Behind a mark anything may stand. -/
theorem isNested_cons {c : Char} (hplain : IsPlain angles c) (hc : c ≠ '/' ∧ c ≠ 'r')
    (hcs : IsNested angles inside cs) :
  IsNested angles inside (c :: cs)
  := .plain hplain (fun heq => absurd heq hc.1) (fun heq => absurd heq hc.2) hcs

/-! ### Blanks and names -/

/-- A character of one kind is none of some marks if none of them is of this kind. -/
theorem notMem_of_all {p : Char → Bool} {marks : List Char} (hmarks : marks.all (!p ·) = true)
    {c : Char} (hc : p c = true) :
  c ∉ marks
  := by
  intro hmem
  have hother := List.all_eq_true.1 hmarks c hmem
  rw [hc] at hother
  contradiction

theorem isPlain_of_isBlank {c : Char} (h : isBlank c = true) :
  IsPlain angles c ∧ c ≠ '/'
  := by
  have hne : ∀ {d : Char}, isBlank d = false → c ≠ d := Source.ne_of_isBlank h
  exact ⟨⟨notMem_of_all (by decide) h, fun _ => ⟨hne (by decide), hne (by decide)⟩⟩,
    hne (by decide)⟩

theorem isPlain_of_isKeyChar {c : Char} (h : isKeyChar c = true) :
  IsPlain angles c ∧ c ≠ '/'
  := by
  have hne : ∀ {d : Char}, isKeyChar d = false → c ≠ d := by
    rintro d hd rfl
    rw [h] at hd
    contradiction
  exact ⟨⟨notMem_of_all (by decide) h, fun _ => ⟨hne (by decide), hne (by decide)⟩⟩,
    hne (by decide)⟩

theorem isPlain_of_allBlank (h : allBlank cs = true) :
  ∀ c ∈ cs, IsPlain angles c ∧ c ≠ '/'
  := fun c hc => isPlain_of_isBlank (Text.allBlank_iff.1 h c hc)

theorem isNested_of_allBlank (h : allBlank cs = true) :
  IsNested angles inside cs
  := isNested_of_forall (isPlain_of_allBlank h)

theorem notMem_of_allBlank {d : Char} (hd : isBlank d = false) (h : allBlank cs = true) :
  d ∉ cs
  := by
  intro hmem
  rw [Text.allBlank_iff.1 h d hmem] at hd
  contradiction

/-- A visibility has no other characters than its own and blanks. -/
theorem IsVisibility.notMem {visibility : List Char} (h : IsVisibility visibility) {d : Char}
    (hd : isBlank d = false) (hpub : d ∉ "pub(crate)".toList) :
  d ∉ visibility
  := by
  cases h with
  | none => simp
  | pub hgap _ =>
    rw [List.mem_append, not_or]
    exact ⟨fun hmem => hpub (List.mem_append_left "(crate)".toList hmem),
      notMem_of_allBlank hd hgap⟩
  | crate hgap _ =>
    rw [List.mem_append, not_or]
    exact ⟨hpub, notMem_of_allBlank hd hgap⟩

theorem isKeyChar_of_isNameChar {c : Char} (h : isNameChar c = true) :
  isKeyChar c = true
  := by
  rw [isKeyChar, h, Bool.true_or]

theorem isBlank_of_isKeyChar {c : Char} (h : isKeyChar c = true) :
  isBlank c = false
  := by
  rw [isKeyChar, Bool.or_eq_true] at h
  obtain hname | hcolon := h
  · exact Text.isBlank_of_isNameChar hname
  · rw [eq_of_beq hcolon]
    decide

theorem IsName.isKey (h : IsName cs) :
  IsKey cs
  := by
  obtain ⟨c, rest, rfl, hc, hrest⟩ := h
  exact ⟨c, rest, rfl, hc, fun d hd => isKeyChar_of_isNameChar (hrest d hd)⟩

theorem IsKey.forall_isKeyChar (h : IsKey cs) :
  ∀ c ∈ cs, isKeyChar c = true
  := by
  obtain ⟨c, rest, rfl, hc, hrest⟩ := h
  exact List.forall_mem_cons.2
    ⟨isKeyChar_of_isNameChar (Text.isNameChar_of_isNameStart hc), hrest⟩

theorem IsKey.isPlain (h : IsKey cs) :
  ∀ c ∈ cs, IsPlain angles c ∧ c ≠ '/'
  := fun c hc => isPlain_of_isKeyChar (h.forall_isKeyChar c hc)

theorem ends_of_allBlank (h : allBlank cs = true) :
  Ends cs
  := by
  intro c hc
  exact notMem_of_all (by decide) (Text.allBlank_iff.1 h c (List.mem_of_head? hc))

theorem Ends.append (hcs : Ends cs) (hds : Ends ds) :
  Ends (cs ++ ds)
  := by
  cases cs with
  | nil => exact hds
  | cons c cs => exact hcs

/-! ### Lists -/

/-- A list of nested texts may stand in brackets. -/
theorem isNested_joinWith {ps : List (List Char)} (h : ∀ p ∈ ps, IsNested angles inside p) :
  IsNested angles true (Text.joinWith ',' ps)
  := by
  induction ps with
  | nil => exact .nil
  | cons p ps ih =>
    obtain ⟨hp, hps⟩ := List.forall_mem_cons.1 h
    cases ps with
    | nil =>
      have hjoin : Text.joinWith ',' [p] = p := by simp [Text.joinWith]
      rw [hjoin]
      exact hp.in_brackets
    | cons p' ps =>
      rw [Text.joinWith_cons_cons]
      exact hp.in_brackets.append (.comma (ih hps)) (ends_cons (by decide) _)

/-- The parts of a list, and maybe one that is blank. -/
theorem IsSeparated.exists_joinWith {parts : List (List Char)} {text : List Char}
    (h : IsSeparated parts text) :
  ∃ blanks, (∀ b ∈ blanks, allBlank b = true) ∧ text = Text.joinWith ',' (parts ++ blanks)
  := by
  obtain rfl | ⟨b, hb, rfl⟩ := h
  · exact ⟨[], by simp, by rw [List.append_nil]⟩
  · exact ⟨[b], by simpa using hb, rfl⟩

theorem IsSeparated.isNested {parts : List (List Char)} {text : List Char}
    (h : IsSeparated parts text) (hparts : ∀ p ∈ parts, IsNested angles false p) :
  IsNested angles true text
  := by
  obtain ⟨blanks, hblanks, rfl⟩ := h.exists_joinWith
  have hall : ∀ p ∈ parts ++ blanks, IsNested angles false p := by
    intro p hp
    obtain hp | hp := List.mem_append.1 hp
    · exact hparts p hp
    · exact isNested_of_allBlank (hblanks p hp)
  exact isNested_joinWith hall

end

end AnchorIndex.Account

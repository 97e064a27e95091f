import AnchorIndex.Proofs.Text.Words

/-!
# Squeezing

A text is squeezed character by character: blanks at its start go (`squeeze_cons_blank`), and behind
a solid character the rest is squeezed, with a space in front of it if it begins with blanks
(`squeeze_cons_solid`, `squeeze_cons_gap`). So a solid character cuts the squeezed text into the
squeezed parts, with blanks between them at most (`squeeze_append_cons`).
-/

namespace AnchorIndex.Text

theorem squeeze_eq_joinWith (cs : List Char) :
  squeeze cs = joinWith ' ' (words cs)
  := rfl

/-! ### Words -/

theorem words_cons_blank {c : Char} (h : isBlank c = true) (cs : List Char) :
  words (c :: cs) = words cs
  := by
  rw [words, words, List.foldr_cons]
  generalize cs.foldr consWord (false, []) = state
  obtain ⟨joined, ws⟩ := state
  simp only [consWord, h, if_true]

/-- The words of a text that begins with a solid character. -/
theorem exists_foldr_consWord {c : Char} (h : isBlank c = false) (cs : List Char) :
  ∃ w ws, (c :: cs).foldr consWord (false, []) = (true, w :: ws)
  := by
  rw [List.foldr_cons]
  generalize cs.foldr consWord (false, []) = state
  obtain ⟨joined, ws⟩ := state
  simp only [consWord, h]
  cases joined with
  | false => exact ⟨[c], ws, rfl⟩
  | true =>
    cases ws with
    | nil => exact ⟨[c], [], rfl⟩
    | cons w ws => exact ⟨c :: w, ws, rfl⟩

/-- A solid character in front of another one belongs to its word. -/
theorem exists_words_cons_solid {c d : Char} (hc : isBlank c = false) (hd : isBlank d = false)
    (cs : List Char) :
  ∃ w ws, words (d :: cs) = w :: ws ∧ words (c :: d :: cs) = (c :: w) :: ws
  := by
  obtain ⟨w, ws, hwords⟩ := exists_foldr_consWord hd cs
  refine ⟨w, ws, by rw [words, hwords], ?_⟩
  rw [words, List.foldr_cons, hwords]
  simp only [consWord, hc, Bool.false_eq_true, if_false, if_true]

/-- A solid character in front of a blank is a word. -/
theorem words_cons_gap {c d : Char} (hc : isBlank c = false) (hd : isBlank d = true)
    (cs : List Char) :
  words (c :: d :: cs) = [c] :: words cs
  := by
  rw [words, words, List.foldr_cons, List.foldr_cons]
  generalize cs.foldr consWord (false, []) = state
  obtain ⟨joined, ws⟩ := state
  simp only [consWord, hc, hd, if_true, Bool.false_eq_true, if_false]

theorem words_eq_nil_iff {cs : List Char} :
  words cs = [] ↔ allBlank cs = true
  := by
  induction cs with
  | nil => exact ⟨fun _ => rfl, fun _ => rfl⟩
  | cons c cs ih =>
    rw [allBlank, List.all_cons]
    by_cases hc : isBlank c = true
    · rw [words_cons_blank hc, ih, hc, Bool.true_and, allBlank]
    · have hc : isBlank c = false := by simpa using hc
      obtain ⟨w, ws, hwords⟩ := exists_foldr_consWord hc cs
      rw [words, hwords, hc]
      simp

/-! ### Character by character -/

theorem squeeze_cons_blank {c : Char} (h : isBlank c = true) (cs : List Char) :
  squeeze (c :: cs) = squeeze cs
  := by
  rw [squeeze, words_cons_blank h, squeeze]

theorem squeeze_eq_nil_iff {cs : List Char} :
  squeeze cs = [] ↔ allBlank cs = true
  := by
  rw [← words_eq_nil_iff, squeeze_eq_joinWith]
  cases hwords : words cs with
  | nil => exact ⟨fun _ => rfl, fun _ => rfl⟩
  | cons w ws =>
    have hw : w ∈ words cs := by
      rw [hwords]
      apply List.mem_cons_self
    obtain ⟨c, rest, hjoin, -⟩ := exists_joinWith_eq_cons (solid_of_mem_words hw) ws
    rw [hjoin]
    simp

/-- A solid character stands alone at the end of a text. -/
theorem squeeze_singleton {c : Char} (hc : isBlank c = false) :
  squeeze [c] = [c]
  := by
  simp [squeeze, words, consWord, hc, List.intercalate]

/-- A solid character stays in front of another one. -/
theorem squeeze_cons_solid {c d : Char} (hc : isBlank c = false) (hd : isBlank d = false)
    (cs : List Char) :
  squeeze (c :: d :: cs) = c :: squeeze (d :: cs)
  := by
  obtain ⟨w, ws, hwords, hwords'⟩ := exists_words_cons_solid hc hd cs
  rw [squeeze_eq_joinWith, squeeze_eq_joinWith, hwords, hwords']
  cases ws with
  | nil => rfl
  | cons w' ws =>
    rw [joinWith_cons_cons, joinWith_cons_cons, List.cons_append]

/-- Blanks behind a solid character are one space, unless nothing follows them. -/
theorem squeeze_cons_gap {c d : Char} (hc : isBlank c = false) (hd : isBlank d = true)
    (cs : List Char) :
  squeeze (c :: d :: cs) = c :: if allBlank cs then [] else ' ' :: squeeze cs
  := by
  rw [squeeze_eq_joinWith, words_cons_gap hc hd, squeeze_eq_joinWith]
  split
  next hblank =>
    rw [words_eq_nil_iff.2 hblank]
    rfl
  next hsolid =>
    cases hwords : words cs with
    | nil => exact absurd (words_eq_nil_iff.1 hwords) hsolid
    | cons w ws => rw [joinWith_cons_cons, List.singleton_append]

/-- Behind a solid character the rest is squeezed, with blanks in front of it at most, and nothing
is left of a blank rest. -/
theorem exists_squeeze_cons {c : Char} (hc : isBlank c = false) (cs : List Char) :
  ∃ a, allBlank a = true ∧ (allBlank cs = true → a = [])
    ∧ squeeze (c :: cs) = c :: (a ++ squeeze cs)
  := by
  cases cs with
  | nil => exact ⟨[], rfl, fun _ => rfl, squeeze_singleton hc⟩
  | cons d cs =>
    by_cases hd : isBlank d = true
    · rw [squeeze_cons_gap hc hd, squeeze_cons_blank hd]
      split
      next hblank => exact ⟨[], rfl, fun _ => rfl, by rw [squeeze_eq_nil_iff.2 hblank]; rfl⟩
      next hsolid =>
        refine ⟨[' '], rfl, ?_, rfl⟩
        rw [allBlank, List.all_cons, hd, Bool.true_and]
        exact fun hall => absurd hall hsolid
    · have hd : isBlank d = false := by simpa using hd
      exact ⟨[], rfl, fun _ => rfl, squeeze_cons_solid hc hd cs⟩

/-! ### Solid characters -/

/-- In front of a solid character a text is squeezed, with blanks behind it at most, whatever
follows the character. -/
theorem exists_squeeze_append {c : Char} (hc : isBlank c = false) (cs : List Char) :
  ∃ a, allBlank a = true
    ∧ ∀ ds, squeeze (cs ++ c :: ds) = squeeze cs ++ (a ++ squeeze (c :: ds))
  := by
  induction cs with
  | nil => exact ⟨[], rfl, fun ds => rfl⟩
  | cons e cs ih =>
    obtain ⟨a, ha, hsqueeze⟩ := ih
    by_cases he : isBlank e = true
    · refine ⟨a, ha, fun ds => ?_⟩
      rw [List.cons_append, squeeze_cons_blank he, squeeze_cons_blank he, hsqueeze]
    · have he : isBlank e = false := by simpa using he
      cases cs with
      | nil =>
        refine ⟨[], rfl, fun ds => ?_⟩
        rw [List.singleton_append, squeeze_cons_solid he hc, squeeze_singleton he]
        rfl
      | cons d cs =>
        by_cases hd : isBlank d = true
        · rw [squeeze_cons_gap he hd]
          rw [squeeze_cons_blank hd] at hsqueeze
          have hgap : ∀ ds, squeeze (e :: d :: cs ++ c :: ds)
              = e :: ' ' :: squeeze (d :: cs ++ c :: ds) := by
            intro ds
            have hsolid : allBlank (cs ++ c :: ds) = false := by
              rw [allBlank_append, allBlank, allBlank, List.all_cons, hc, Bool.false_and,
                Bool.and_false]
            rw [List.cons_append, List.cons_append, squeeze_cons_gap he hd, hsolid,
              if_neg Bool.false_ne_true, squeeze_cons_blank hd]
          split
          next hblank =>
            refine ⟨' ' :: a, ?_, fun ds => ?_⟩
            · rw [allBlank, List.all_cons]
              exact ha
            · rw [hgap, hsqueeze, squeeze_eq_nil_iff.2 hblank]
              rfl
          next => exact ⟨a, ha, fun ds => by rw [hgap, hsqueeze]; rfl⟩
        · have hd : isBlank d = false := by simpa using hd
          refine ⟨a, ha, fun ds => ?_⟩
          rw [List.cons_append, List.cons_append, squeeze_cons_solid he hd,
            squeeze_cons_solid he hd, ← List.cons_append, hsqueeze]
          rfl

/-- A solid character cuts a squeezed text into the squeezed parts, with blanks around it at most,
and nothing is left of a blank text behind it. -/
theorem squeeze_append_cons {c : Char} (hc : isBlank c = false) (cs ds : List Char) :
  ∃ a b, allBlank a = true ∧ allBlank b = true ∧ (allBlank ds = true → b = [])
    ∧ squeeze (cs ++ c :: ds) = squeeze cs ++ (a ++ c :: (b ++ squeeze ds))
  := by
  obtain ⟨a, ha, hfront⟩ := exists_squeeze_append hc cs
  obtain ⟨b, hb, hds, hback⟩ := exists_squeeze_cons hc ds
  exact ⟨a, b, ha, hb, hds, by rw [hfront, hback]⟩

/-- Solid characters stay in front of a solid one. -/
theorem squeeze_solid_append {cs : List Char} (h : ∀ c ∈ cs, isBlank c = false) {d : Char}
    (hd : isBlank d = false) (ds : List Char) :
  squeeze (cs ++ d :: ds) = cs ++ squeeze (d :: ds)
  := by
  induction cs with
  | nil => rfl
  | cons c cs ih =>
    obtain ⟨hc, hcs⟩ := List.forall_mem_cons.1 h
    have ih := ih hcs
    cases cs with
    | nil => exact squeeze_cons_solid hc hd ds
    | cons e cs =>
      rw [List.cons_append] at ih
      rw [List.cons_append, List.cons_append, squeeze_cons_solid hc (hcs e List.mem_cons_self), ih]
      rfl

/-- A text without blanks is squeezed already. -/
theorem squeeze_eq_self {cs : List Char} (h : ∀ c ∈ cs, isBlank c = false) :
  squeeze cs = cs
  := by
  cases cs using List.reverseRecOn with
  | nil => rfl
  | append_singleton cs c =>
    have hc := h c (List.mem_append_right _ List.mem_cons_self)
    rw [squeeze_solid_append (fun d hd => h d (List.mem_append_left _ hd)) hc,
      squeeze_singleton hc]

/-- The solid characters of a squeezed text are characters of the text. -/
theorem mem_of_mem_squeeze {c : Char} {cs : List Char} (h : c ∈ squeeze cs)
    (hc : isBlank c = false) :
  c ∈ cs
  := by
  induction cs with
  | nil => exact h
  | cons d cs ih =>
    by_cases hd : isBlank d = true
    · rw [squeeze_cons_blank hd] at h
      exact List.mem_cons_of_mem d (ih h)
    · obtain ⟨a, ha, -, hsqueeze⟩ := exists_squeeze_cons (by simpa using hd) cs
      rw [hsqueeze, List.mem_cons, List.mem_append] at h
      obtain rfl | h | h := h
      · exact List.mem_cons_self
      · rw [allBlank_iff.1 ha c h] at hc
        contradiction
      · exact List.mem_cons_of_mem d (ih h)

/-- A squeezed text begins with the first solid character of the text. -/
theorem head?_squeeze (cs : List Char) :
  (squeeze cs).head? = (stripLeft cs).head?
  := by
  induction cs with
  | nil => rfl
  | cons c cs ih =>
    by_cases hc : isBlank c = true
    · rw [squeeze_cons_blank hc, stripLeft_cons_blank hc, ih]
    · have hc : isBlank c = false := by simpa using hc
      obtain ⟨a, -, -, hsqueeze⟩ := exists_squeeze_cons hc cs
      rw [hsqueeze, stripLeft_cons_solid hc]
      rfl

/-! ### Blanks at the ends -/

theorem squeeze_blank_append {a : List Char} (ha : allBlank a = true) (cs : List Char) :
  squeeze (a ++ cs) = squeeze cs
  := by
  induction a with
  | nil => rfl
  | cons c a ih =>
    rw [allBlank, List.all_cons, Bool.and_eq_true] at ha
    rw [List.cons_append, squeeze_cons_blank ha.1, ih ha.2]

theorem squeeze_append_blank {b : List Char} (hb : allBlank b = true) (cs : List Char) :
  squeeze (cs ++ b) = squeeze cs
  := by
  induction cs with
  | nil => exact squeeze_eq_nil_iff.2 hb
  | cons c cs ih =>
    rw [List.cons_append]
    by_cases hc : isBlank c = true
    · rw [squeeze_cons_blank hc, squeeze_cons_blank hc, ih]
    have hc : isBlank c = false := by simpa using hc
    cases cs with
    | nil =>
      cases b with
      | nil => rfl
      | cons d b =>
        rw [allBlank, List.all_cons, Bool.and_eq_true] at hb
        rw [List.nil_append, squeeze_cons_gap hc hb.1, allBlank, if_pos hb.2, squeeze_singleton hc]
    | cons d cs =>
      rw [List.cons_append] at ih ⊢
      by_cases hd : isBlank d = true
      · rw [squeeze_cons_blank hd, squeeze_cons_blank hd] at ih
        rw [squeeze_cons_gap hc hd, squeeze_cons_gap hc hd, ih, allBlank_append, hb, Bool.and_true]
      · have hd : isBlank d = false := by simpa using hd
        rw [squeeze_cons_solid hc hd, squeeze_cons_solid hc hd, ih]

/-- Blanks in front of a squeezed text are trimmed off. -/
theorem strip_blank_squeeze {a : List Char} (ha : allBlank a = true) (cs : List Char) :
  strip (a ++ squeeze cs) = squeeze cs
  := by
  have hstrip := strip_append_blank ha allBlank_nil (squeeze cs)
  rwa [List.append_nil, strip_squeeze] at hstrip

/-- Brackets around a squeezed text may have blanks inside. -/
theorem exists_squeeze_brackets {c d : Char} (hc : isBlank c = false) (hd : isBlank d = false)
    (cs : List Char) :
  ∃ a b, allBlank a = true ∧ allBlank b = true
    ∧ squeeze (c :: (cs ++ [d])) = c :: (a ++ (squeeze cs ++ b) ++ [d])
  := by
  obtain ⟨a, ha, -, hopen⟩ := exists_squeeze_cons hc (cs ++ [d])
  obtain ⟨x, y, hx, -, hy, hclose⟩ := squeeze_append_cons hd cs []
  rw [squeeze_eq_nil_iff.2 allBlank_nil, hy rfl, List.append_nil] at hclose
  refine ⟨a, x, ha, hx, ?_⟩
  rw [hopen, hclose]
  simp

/-- Trimming makes no difference for squeezing. -/
theorem squeeze_strip (cs : List Char) :
  squeeze (strip cs) = squeeze cs
  := by
  obtain ⟨a, b, ha, hb, heq⟩ := exists_eq_append_strip cs
  conv_rhs => rw [heq, squeeze_blank_append ha, squeeze_append_blank hb]

/-- A squeezed text stays as it is. -/
theorem squeeze_squeeze (cs : List Char) :
  squeeze (squeeze cs) = squeeze cs
  := by
  induction cs with
  | nil => rfl
  | cons c cs ih =>
    by_cases hc : isBlank c = true
    · rw [squeeze_cons_blank hc, ih]
    have hc : isBlank c = false := by simpa using hc
    cases cs with
    | nil => rw [squeeze_singleton hc, squeeze_singleton hc]
    | cons d cs =>
      by_cases hd : isBlank d = true
      · rw [squeeze_cons_blank hd] at ih
        rw [squeeze_cons_gap hc hd]
        split
        next => exact squeeze_singleton hc
        next hsolid =>
          have hsolid' : ¬ allBlank (squeeze cs) = true := by
            rwa [← squeeze_eq_nil_iff, ih, squeeze_eq_nil_iff]
          rw [squeeze_cons_gap hc (by decide), if_neg hsolid', ih]
      · have hd : isBlank d = false := by simpa using hd
        obtain ⟨a, -, -, hsqueeze⟩ := exists_squeeze_cons hd cs
        rw [squeeze_cons_solid hc hd]
        rw [hsqueeze] at ih ⊢
        rw [squeeze_cons_solid hc hd, ih]

/-- One blank is as good as another. -/
theorem squeeze_congr {cs ds : List Char}
    (h : List.Forall₂ (fun c d => c = d ∨ isBlank c = true ∧ isBlank d = true) cs ds) :
  squeeze cs = squeeze ds
  := by
  induction h with
  | nil => rfl
  | @cons c c' cs ds hc hrest ih =>
    obtain rfl | ⟨hc, hc'⟩ := hc
    · by_cases hblank : isBlank c = true
      · rw [squeeze_cons_blank hblank, squeeze_cons_blank hblank, ih]
      have hsolid : isBlank c = false := by simpa using hblank
      cases hrest with
      | nil => rfl
      | @cons d d' cs ds hd hrest =>
        by_cases hdblank : isBlank d = true
        · have hdblank' : isBlank d' = true := by
            obtain rfl | ⟨-, hd'⟩ := hd
            · exact hdblank
            · exact hd'
          rw [squeeze_cons_blank hdblank, squeeze_cons_blank hdblank'] at ih
          have hempty : allBlank cs = allBlank ds := by
            rw [Bool.eq_iff_iff, ← squeeze_eq_nil_iff, ← squeeze_eq_nil_iff, ih]
          rw [squeeze_cons_gap hsolid hdblank, squeeze_cons_gap hsolid hdblank', ih, hempty]
        · have hdsolid : isBlank d = false := by simpa using hdblank
          obtain rfl | ⟨hd, -⟩ := hd
          · rw [squeeze_cons_solid hsolid hdsolid, squeeze_cons_solid hsolid hdsolid, ih]
          · contradiction
    · rw [squeeze_cons_blank hc, squeeze_cons_blank hc', ih]

end AnchorIndex.Text

import AnchorIndex.Text.Lines
import Mathlib.Data.List.Basic

/-!
# Splitting and joining

A text that is cut at a character falls into pieces without this character, and pieces without it
that are joined are found again (`splitAt_joinWith`). So a text made of lines has these lines
(`lines_unlines`), and making line endings uniform leaves a text alone that holds no carriage
return (`foldNewlines_eq_self`).
-/

namespace AnchorIndex.Text

/-! ### Two cuts -/

/-- Where a list is cut in two and also around an element, the first cut is before the element or
after it. -/
theorem before_or_after_of_append_eq {α : Type} {l₁ l₂ front back : List α} {e : α}
    (h : l₁ ++ l₂ = front ++ e :: back) :
  (∃ between, front = l₁ ++ between ∧ l₂ = between ++ e :: back)
    ∨ ∃ between, l₁ = front ++ e :: between ∧ back = between ++ l₂
  := by
  obtain ⟨between, hfront, hl₂⟩ | ⟨between, hl₁, hback⟩ := List.append_eq_append_iff.1 h
  · exact .inl ⟨between, hfront, hl₂⟩
  · cases between with
    | nil =>
      left
      exact ⟨[], by simpa using hl₁.symm, hback.symm⟩
    | cons x between =>
      right
      rw [List.cons_append] at hback
      injection hback with hx hback
      exact ⟨between, by rw [hx, hl₁], hback⟩

/-! ### Pieces -/

theorem consPiece_append (sep c : Char) {ps : List (List Char)} (h : ps ≠ [])
    (qs : List (List Char)) :
  consPiece sep c (ps ++ qs) = consPiece sep c ps ++ qs
  := by
  cases ps with
  | nil => contradiction
  | cons p ps => by_cases hc : c = sep <;> simp [consPiece, hc]

/-- A text that is cut at one occurrence of the character falls into the pieces of both parts. -/
theorem splitAt_append (sep : Char) (a b : List Char) :
  splitAt sep (a ++ sep :: b) = splitAt sep a ++ splitAt sep b
  := by
  induction a with
  | nil =>
    rw [List.nil_append, splitAt_cons]
    cases h : splitAt sep b with
    | nil => exact absurd h (splitAt_ne_nil sep b)
    | cons p ps => simp [consPiece]
  | cons c a ih =>
    rw [List.cons_append, splitAt_cons, ih, splitAt_cons]
    apply consPiece_append
    apply splitAt_ne_nil

/-- A text without the character is one piece. -/
theorem splitAt_of_notMem {sep : Char} {cs : List Char} (h : sep ∉ cs) :
  splitAt sep cs = [cs]
  := by
  induction cs with
  | nil => rfl
  | cons c cs ih =>
    rw [List.mem_cons, not_or] at h
    rw [splitAt_cons, ih h.2, consPiece, if_neg (Ne.symm h.1)]

/-- The pieces of a text do not hold the character at which it is cut. -/
theorem notMem_of_mem_splitAt {sep : Char} {cs p : List Char} (h : p ∈ splitAt sep cs) :
  sep ∉ p
  := by
  induction cs generalizing p with
  | nil =>
    rw [splitAt_nil, List.mem_singleton] at h
    simp [h]
  | cons c cs ih =>
    rw [splitAt_cons] at h
    cases hs : splitAt sep cs with
    | nil => exact absurd hs (splitAt_ne_nil sep cs)
    | cons q qs =>
      rw [hs] at h ih
      by_cases hc : c = sep
      · rw [consPiece, if_pos hc] at h
        obtain rfl | h := List.mem_cons.1 h
        · simp
        · apply ih h
      · rw [consPiece, if_neg hc] at h
        obtain rfl | h := List.mem_cons.1 h
        · have := ih List.mem_cons_self
          simp [Ne.symm hc, this]
        · apply ih (List.mem_cons_of_mem q h)

/-- A piece of a text has only characters of the text. -/
theorem mem_of_mem_splitAt {sep c : Char} {cs p : List Char} (h : p ∈ splitAt sep cs)
    (hc : c ∈ p) :
  c ∈ cs
  := by
  induction cs generalizing p with
  | nil =>
    rw [splitAt_nil, List.mem_singleton] at h
    simp [h] at hc
  | cons d cs ih =>
    rw [splitAt_cons] at h
    cases hs : splitAt sep cs with
    | nil => exact absurd hs (splitAt_ne_nil sep cs)
    | cons q qs =>
      rw [hs] at h ih
      by_cases hd : d = sep
      · rw [consPiece, if_pos hd] at h
        obtain rfl | h := List.mem_cons.1 h
        · simp at hc
        · apply List.mem_cons_of_mem d (ih h hc)
      · rw [consPiece, if_neg hd] at h
        obtain rfl | h := List.mem_cons.1 h
        · obtain rfl | hc := List.mem_cons.1 hc
          · apply List.mem_cons_self
          · apply List.mem_cons_of_mem d (ih List.mem_cons_self hc)
        · apply List.mem_cons_of_mem d (ih (List.mem_cons_of_mem q h) hc)

theorem joinWith_cons_cons (sep : Char) (p q : List Char) (ps : List (List Char)) :
  joinWith sep (p :: q :: ps) = p ++ sep :: joinWith sep (q :: ps)
  := by
  simp [joinWith, List.intercalate, List.intersperse]

/-- Joining adds no characters but the one between the pieces. -/
theorem mem_of_mem_joinWith {sep c : Char} {ps : List (List Char)} (h : c ∈ joinWith sep ps) :
  c = sep ∨ ∃ p ∈ ps, c ∈ p
  := by
  induction ps with
  | nil => simp [joinWith] at h
  | cons p ps ih =>
    cases ps with
    | nil =>
      right
      use p, List.mem_cons_self
      simpa [joinWith] using h
    | cons q ps =>
      rw [joinWith_cons_cons, List.mem_append, List.mem_cons] at h
      obtain h | rfl | h := h
      · right
        use p, List.mem_cons_self
      · left
        rfl
      · obtain rfl | ⟨r, hr, hc⟩ := ih h
        · left
          rfl
        · right
          use r, List.mem_cons_of_mem p hr

/-- Splitting undoes joining if no piece holds the character. -/
theorem splitAt_joinWith {sep : Char} {ps : List (List Char)} (hne : ps ≠ [])
    (h : ∀ p ∈ ps, sep ∉ p) :
  splitAt sep (joinWith sep ps) = ps
  := by
  induction ps with
  | nil => contradiction
  | cons p ps ih =>
    have hp := splitAt_of_notMem (h p List.mem_cons_self)
    cases ps with
    | nil => simpa [joinWith] using hp
    | cons q ps =>
      rw [joinWith_cons_cons, splitAt_append, hp, ih (List.cons_ne_nil q ps)]
      · rfl
      · intro r hr
        apply h r (List.mem_cons_of_mem p hr)

/-! ### Lines -/

/-- A text has the lines of which it is made. -/
theorem lines_unlines {ls : List (List Char)} (hne : ls ≠ []) (h : ∀ l ∈ ls, '\n' ∉ l) :
  lines (unlines ls) = ls
  := splitAt_joinWith hne h

/-- Texts and others below them. -/
theorem unlines_append {ls more : List (List Char)} (hls : ls ≠ []) (hmore : more ≠ []) :
  unlines (ls ++ more) = unlines ls ++ '\n' :: unlines more
  := by
  induction ls with
  | nil => contradiction
  | cons line ls ih =>
    cases ls with
    | nil =>
      obtain ⟨line', more, rfl⟩ := List.exists_cons_of_ne_nil hmore
      have hsingle : unlines [line] = line := by simp [unlines, joinWith]
      rw [List.singleton_append, unlines, joinWith_cons_cons, hsingle]
      rfl
    | cons line' ls =>
      have hrest := ih (List.cons_ne_nil line' ls)
      rw [unlines, unlines, List.cons_append, List.cons_append, joinWith_cons_cons,
        joinWith_cons_cons, ← List.cons_append, ← unlines, hrest, unlines]
      simp

/-! ### Line endings -/

/-- A text without carriage returns has uniform line endings. -/
theorem foldNewlines_eq_self {cs : List Char} (h : '\r' ∉ cs) :
  foldNewlines cs = cs
  := by
  induction cs with
  | nil => rfl
  | cons c cs ih =>
    rw [List.mem_cons, not_or] at h
    have ih := ih h.2
    rw [foldNewlines] at ih ⊢
    rw [List.foldr_cons, consFolded, if_neg (Ne.symm h.1), ih]

/-- Uniform line endings have no carriage return. -/
theorem notMem_foldNewlines (cs : List Char) :
  '\r' ∉ foldNewlines cs
  := by
  induction cs with
  | nil => simp [foldNewlines]
  | cons c cs ih =>
    rw [foldNewlines] at ih ⊢
    rw [List.foldr_cons, consFolded]
    split
    · split
      · apply ih
      · simp [ih]
    next hc => simp [Ne.symm hc, ih]

end AnchorIndex.Text

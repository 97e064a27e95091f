import AnchorIndex.Text.Blank
import Mathlib.Data.List.DropRight

/-!
# Trimming

Trimming on the right looks at the end of a text only: after a piece that is not blank nothing
before it is touched (`stripRight_append`). Hence trimming on the left and on the right commute,
and a text that is trimmed stays as it is (`strip_strip`).
-/

namespace AnchorIndex.Text

theorem stripRight_eq_rdropWhile (cs : List Char) :
  stripRight cs = cs.rdropWhile isBlank
  := rfl

@[simp]
theorem allBlank_nil :
  allBlank [] = true
  := rfl

theorem allBlank_append (a b : List Char) :
  allBlank (a ++ b) = (allBlank a && allBlank b)
  := List.all_append

theorem allBlank_iff {cs : List Char} :
  allBlank cs = true ↔ ∀ c ∈ cs, isBlank c = true
  := List.all_eq_true

/-- Of two pieces only the second is trimmed on the right, unless it is blank. -/
theorem stripRight_append (a b : List Char) :
  stripRight (a ++ b) = if allBlank b then stripRight a else a ++ stripRight b
  := by
  induction b using List.reverseRecOn with
  | nil => simp
  | append_singleton b x ih =>
    rw [stripRight_eq_rdropWhile, stripRight_eq_rdropWhile (b ++ [x]), ← List.append_assoc]
    by_cases hx : isBlank x
    · rw [List.rdropWhile_concat_pos _ _ _ hx, List.rdropWhile_concat_pos _ _ _ hx]
      rw [stripRight_eq_rdropWhile, stripRight_eq_rdropWhile b] at ih
      rw [ih, allBlank_append]
      simp [allBlank, hx]
    · rw [List.rdropWhile_concat_neg _ _ _ hx, List.rdropWhile_concat_neg _ _ _ hx]
      rw [allBlank_append]
      simp [allBlank, hx]

/-- Of what is behind a solid character only blanks are trimmed on the right. -/
theorem stripRight_append_cons {c : Char} (hc : isBlank c = false) (a b : List Char) :
  stripRight (a ++ c :: b) = a ++ c :: stripRight b
  := by
  have hblank : allBlank (c :: b) = false := by
    rw [allBlank, List.all_cons, hc, Bool.false_and]
  rw [stripRight_append, hblank, if_neg Bool.false_ne_true, ← List.singleton_append,
    stripRight_append]
  split
  next hb =>
    have hnil : stripRight b = [] := by
      rw [stripRight_eq_rdropWhile, List.rdropWhile_eq_nil_iff]
      exact allBlank_iff.1 hb
    rw [hnil, stripRight_eq_rdropWhile, List.rdropWhile_singleton, hc]
    rfl
  next => rfl

/-- A text that is all blank is trimmed to nothing. -/
theorem stripRight_eq_nil_iff {cs : List Char} :
  stripRight cs = [] ↔ allBlank cs = true
  := by
  rw [allBlank_iff]
  apply List.rdropWhile_eq_nil_iff

/-- A character stays at the start of a text unless all of the text is blank. -/
theorem stripRight_cons (c : Char) (cs : List Char) :
  stripRight (c :: cs) = if allBlank (c :: cs) then [] else c :: stripRight cs
  := by
  have h := stripRight_append [c] cs
  rw [List.singleton_append] at h
  rw [h, stripRight_eq_rdropWhile [c], List.rdropWhile_singleton]
  have hall : allBlank (c :: cs) = (isBlank c && allBlank cs) := List.all_cons
  by_cases hcs : allBlank cs = true
  · simp [hall, hcs, stripRight_eq_nil_iff.2 hcs]
  · simp [hall, hcs]

theorem stripLeft_eq_nil_iff {cs : List Char} :
  stripLeft cs = [] ↔ allBlank cs = true
  := by
  rw [allBlank_iff]
  apply List.dropWhile_eq_nil_iff

@[simp]
theorem stripRight_stripRight (cs : List Char) :
  stripRight (stripRight cs) = stripRight cs
  := List.rdropWhile_idempotent isBlank cs

@[simp]
theorem stripLeft_stripLeft (cs : List Char) :
  stripLeft (stripLeft cs) = stripLeft cs
  := List.dropWhile_idempotent isBlank cs

theorem stripLeft_cons_blank {c : Char} (hc : isBlank c = true) (cs : List Char) :
  stripLeft (c :: cs) = stripLeft cs
  := List.dropWhile_cons_of_pos hc

theorem stripLeft_cons_solid {c : Char} (hc : isBlank c = false) (cs : List Char) :
  stripLeft (c :: cs) = c :: cs
  := by
  apply List.dropWhile_cons_of_neg
  simp [hc]

/-- The order in which the two ends of a text are trimmed does not matter. -/
theorem stripLeft_stripRight (cs : List Char) :
  stripLeft (stripRight cs) = stripRight (stripLeft cs)
  := by
  induction cs with
  | nil => rfl
  | cons c cs ih =>
    rw [stripRight_cons]
    split
    next h =>
      rw [stripLeft_eq_nil_iff.2 h]
      rfl
    next h =>
      by_cases hc : isBlank c = true
      · rw [stripLeft_cons_blank hc, stripLeft_cons_blank hc, ih]
      · have hc : isBlank c = false := by simpa using hc
        rw [stripLeft_cons_solid hc, stripLeft_cons_solid hc, stripRight_cons, if_neg h]

@[simp]
theorem strip_stripRight (cs : List Char) :
  strip (stripRight cs) = strip cs
  := by
  rw [strip, stripLeft_stripRight, stripRight_stripRight, strip]

/-- A trimmed text stays as it is. -/
@[simp]
theorem strip_strip (cs : List Char) :
  strip (strip cs) = strip cs
  := by
  rw [strip, strip, stripLeft_stripRight, stripRight_stripRight, stripLeft_stripLeft]

theorem strip_eq_nil_iff {cs : List Char} :
  strip cs = [] ↔ allBlank cs = true
  := by
  rw [strip, ← stripLeft_stripRight, stripLeft_eq_nil_iff]
  constructor
  · intro h
    by_contra hcs
    have hne : stripRight cs ≠ [] := fun hr => hcs (stripRight_eq_nil_iff.1 hr)
    apply List.rdropWhile_last_not isBlank cs hne
    apply allBlank_iff.1 h
    apply List.getLast_mem
  · intro h
    rw [stripRight_eq_nil_iff.2 h]
    rfl

/-- A text without blanks is trimmed already. -/
theorem strip_eq_self {cs : List Char} (h : ∀ c ∈ cs, isBlank c = false) :
  strip cs = cs
  := by
  have hl : stripLeft cs = cs := by
    cases cs with
    | nil => rfl
    | cons c cs => exact stripLeft_cons_solid (h c List.mem_cons_self) cs
  rw [strip, hl]
  apply List.rdropWhile_eq_self_iff.2
  intro hne
  simp [h _ (List.getLast_mem hne)]

/-- Trimming takes characters away and adds none. -/
theorem mem_of_mem_strip {c : Char} {cs : List Char} (h : c ∈ strip cs) :
  c ∈ cs
  := by
  have hl : c ∈ stripLeft cs := (List.rdropWhile_prefix isBlank _).subset h
  exact (List.dropWhile_suffix isBlank).subset hl

/-- A text is its trimmed text with blanks around it. -/
theorem exists_eq_append_strip (cs : List Char) :
  ∃ a b, allBlank a = true ∧ allBlank b = true ∧ cs = a ++ (strip cs ++ b)
  := by
  refine ⟨cs.takeWhile isBlank, (stripLeft cs).rtakeWhile isBlank, ?_, ?_, ?_⟩
  · rw [allBlank_iff]
    intro c hc
    apply List.mem_takeWhile_imp hc
  · rw [allBlank_iff]
    intro c hc
    apply List.mem_rtakeWhile_imp hc
  · rw [strip, stripRight_eq_rdropWhile, List.rdropWhile_append_rtakeWhile, stripLeft,
      List.takeWhile_append_dropWhile]

/-- Of two pieces only the first is trimmed on the left, unless it is blank. -/
theorem stripLeft_append (a b : List Char) :
  stripLeft (a ++ b) = if allBlank a then stripLeft b else stripLeft a ++ b
  := by
  rw [stripLeft, List.dropWhile_append]
  by_cases hblank : allBlank a = true
  · have hnil : a.dropWhile isBlank = [] := stripLeft_eq_nil_iff.2 hblank
    rw [if_pos hblank, hnil]
    rfl
  · have hne : a.dropWhile isBlank ≠ [] := fun hnil => hblank (stripLeft_eq_nil_iff.1 hnil)
    rw [if_neg hblank, if_neg (by simpa using hne)]
    rfl

/-- Of what is in front of a solid character only blanks are trimmed on the left. -/
theorem stripLeft_append_cons {c : Char} (hc : isBlank c = false) (a b : List Char) :
  stripLeft (a ++ c :: b) = stripLeft a ++ c :: b
  := by
  rw [stripLeft_append]
  split
  next hblank => rw [stripLeft_eq_nil_iff.2 hblank, stripLeft_cons_solid hc, List.nil_append]
  next => rfl

theorem mem_of_mem_stripLeft {c : Char} {cs : List Char} (h : c ∈ stripLeft cs) :
  c ∈ cs
  := (List.dropWhile_sublist isBlank).subset h

/-- In front of the first character that is left there are blanks only. -/
theorem exists_of_head?_stripLeft {c : Char} {cs : List Char}
    (h : (stripLeft cs).head? = some c) :
  ∃ a rest, allBlank a = true ∧ cs = a ++ c :: rest
  := by
  obtain ⟨rest, hrest⟩ := List.head?_eq_some_iff.1 h
  refine ⟨cs.takeWhile isBlank, rest, ?_, ?_⟩
  · rw [allBlank_iff]
    intro c hc
    apply List.mem_takeWhile_imp hc
  · rw [← hrest, stripLeft, List.takeWhile_append_dropWhile]

theorem stripLeft_append_blank {a : List Char} (ha : allBlank a = true) (cs : List Char) :
  stripLeft (a ++ cs) = stripLeft cs
  := List.dropWhile_append_of_pos (allBlank_iff.1 ha)

theorem stripRight_append_blank {b : List Char} (hb : allBlank b = true) (cs : List Char) :
  stripRight (cs ++ b) = stripRight cs
  := by
  rw [stripRight_append, if_pos hb]

/-- Blanks around a text are trimmed off. -/
theorem strip_append_blank {a b : List Char} (ha : allBlank a = true) (hb : allBlank b = true)
    (cs : List Char) :
  strip (a ++ (cs ++ b)) = strip cs
  := by
  rw [strip, stripLeft_append_blank ha, ← stripLeft_stripRight, stripRight_append_blank hb,
    stripLeft_stripRight, strip]

/-- A text that goes on with a solid character is longer when it is trimmed. -/
theorem length_strip_lt {c : Char} (hc : isBlank c = false) (a b : List Char) :
  (strip a).length < (strip (a ++ c :: b)).length
  := by
  have hblank : allBlank (c :: b) = false := by
    rw [allBlank, List.all_cons, hc, Bool.false_and]
  by_cases ha : allBlank a = true
  · rw [strip_eq_nil_iff.2 ha, List.length_nil, List.length_pos_iff, ne_eq, strip_eq_nil_iff,
      allBlank_append, hblank, Bool.and_false]
    exact Bool.false_ne_true
  · have hleft : stripLeft (a ++ c :: b) = stripLeft a ++ c :: b := by
      rw [stripLeft, List.dropWhile_append, if_neg]
      · rfl
      · rw [List.isEmpty_iff]
        intro hnil
        apply ha (stripLeft_eq_nil_iff.1 hnil)
    have hle : (strip a).length ≤ (stripLeft a).length :=
      (List.rdropWhile_prefix isBlank _).length_le
    have hpos : 0 < (stripRight (c :: b)).length := by
      rw [List.length_pos_iff, ne_eq, stripRight_eq_nil_iff, hblank]
      exact Bool.false_ne_true
    rw [strip, strip, hleft, stripRight_append, hblank, if_neg Bool.false_ne_true,
      List.length_append]
    rw [strip] at hle
    omega

end AnchorIndex.Text

import AnchorIndex.Text.Search
import AnchorIndex.Proofs.Text.Splitting
import AnchorIndex.Proofs.Text.Trimming

/-!
# Words and names

The words of a text have no blanks. A text that is squeezed has no blanks at its ends
(`strip_squeeze`), and no other blanks than spaces (`eq_space_of_mem_squeeze`).
-/

namespace AnchorIndex.Text

/-! ### Squeezed texts -/

/-- Words are not empty and have no blanks. -/
theorem solid_of_mem_words {cs w : List Char} (h : w ∈ words cs) :
  w ≠ [] ∧ ∀ c ∈ w, isBlank c = false
  := by
  revert w
  change ∀ w ∈ (cs.foldr consWord (false, [])).2, w ≠ [] ∧ ∀ c ∈ w, isBlank c = false
  induction cs with
  | nil => simp
  | cons c cs ih =>
    rw [List.foldr_cons]
    generalize cs.foldr consWord (false, []) = state at ih
    obtain ⟨joined, ws⟩ := state
    simp only [consWord]
    split
    · exact ih
    next hc =>
      have hc : isBlank c = false := by simpa using hc
      have hone : ∀ w : List Char, (∀ d ∈ w, isBlank d = false) →
          c :: w ≠ [] ∧ ∀ d ∈ c :: w, isBlank d = false :=
        fun w hw => ⟨List.cons_ne_nil c w, List.forall_mem_cons.2 ⟨hc, hw⟩⟩
      split
      · split
        next w rest =>
          obtain ⟨⟨-, hw⟩, hrest⟩ := List.forall_mem_cons.1 ih
          exact List.forall_mem_cons.2 ⟨hone w hw, hrest⟩
        · simpa using hone [] (by simp)
      · exact List.forall_mem_cons.2 ⟨hone [] (by simp), ih⟩

/-- A text of words begins with a character that is not blank. -/
theorem exists_joinWith_eq_cons {w : List Char} (h : w ≠ [] ∧ ∀ c ∈ w, isBlank c = false)
    (ws : List (List Char)) :
  ∃ c cs, joinWith ' ' (w :: ws) = c :: cs ∧ isBlank c = false
  := by
  obtain ⟨hne, hsolid⟩ := h
  obtain ⟨c, w, rfl⟩ := List.exists_cons_of_ne_nil hne
  have hc := hsolid c List.mem_cons_self
  cases ws with
  | nil => exact ⟨c, w, List.intercalate_singleton, hc⟩
  | cons w' ws =>
    rw [joinWith_cons_cons]
    exact ⟨c, _, rfl, hc⟩

/-- A text of words ends with a character that is not blank. -/
theorem stripRight_joinWith {ws : List (List Char)}
    (h : ∀ w ∈ ws, w ≠ [] ∧ ∀ c ∈ w, isBlank c = false) :
  stripRight (joinWith ' ' ws) = joinWith ' ' ws
  := by
  induction ws with
  | nil => rfl
  | cons w ws ih =>
    obtain ⟨⟨-, hw⟩, hws⟩ := List.forall_mem_cons.1 h
    cases ws with
    | nil =>
      have hjoin : joinWith ' ' [w] = w := List.intercalate_singleton
      have hstrip := strip_eq_self hw
      rw [hjoin, ← hstrip, strip, stripRight_stripRight]
    | cons w' ws =>
      obtain ⟨c, cs, hjoin, hc⟩ := exists_joinWith_eq_cons (hws w' List.mem_cons_self) ws
      have hsolid : allBlank (' ' :: joinWith ' ' (w' :: ws)) = false := by
        rw [hjoin]
        simp [allBlank, hc]
      rw [joinWith_cons_cons, stripRight_append, hsolid, if_neg Bool.false_ne_true, stripRight_cons,
        hsolid, if_neg Bool.false_ne_true, ih hws]

/-- Squeezing leaves no blanks at the ends. -/
theorem strip_squeeze (cs : List Char) :
  strip (squeeze cs) = squeeze cs
  := by
  have hwords : ∀ w ∈ words cs, w ≠ [] ∧ ∀ c ∈ w, isBlank c = false :=
    fun w => solid_of_mem_words
  change strip (joinWith ' ' (words cs)) = joinWith ' ' (words cs)
  generalize words cs = ws at hwords
  cases ws with
  | nil => rfl
  | cons w ws =>
    obtain ⟨c, rest, hjoin, hc⟩ := exists_joinWith_eq_cons (hwords w List.mem_cons_self) ws
    rw [strip, hjoin, stripLeft_cons_solid hc, ← hjoin, stripRight_joinWith hwords]

/-- Of blanks, squeezing leaves spaces only. -/
theorem eq_space_of_mem_squeeze {c : Char} {cs : List Char} (h : c ∈ squeeze cs)
    (hc : isBlank c = true) :
  c = ' '
  := by
  obtain rfl | ⟨w, hw, hcw⟩ := mem_of_mem_joinWith h
  · rfl
  · rw [(solid_of_mem_words hw).2 c hcw] at hc
    contradiction

/-! ### Names -/

theorem isNameChar_of_isNameStart {c : Char} (h : isNameStart c = true) :
  isNameChar c = true
  := by
  rw [isNameStart, Bool.or_eq_true] at h
  rw [isNameChar, Char.isAlphanum]
  obtain h | h := h
  · rw [h]
    rfl
  · rw [h, Bool.or_true]

/-- Characters of names are no blanks. -/
theorem isBlank_of_isNameChar {c : Char} (h : isNameChar c = true) :
  isBlank c = false
  := by
  have hrange : (48 ≤ c.toNat ∧ c.toNat ≤ 57) ∨ (65 ≤ c.toNat ∧ c.toNat ≤ 122) := by
    delta isNameChar Char.isAlphanum Char.isAlpha Char.isUpper Char.isLower Char.isDigit at h
    simp only [Bool.or_eq_true, Bool.and_eq_true, decide_eq_true_eq, beq_iff_eq,
      UInt32.le_iff_toNat_le] at h
    have value : c.toNat = c.val.toNat := rfl
    obtain ((h | h) | h) | rfl := h
    · simp at h
      omega
    · simp at h
      omega
    · simp at h
      omega
    · right
      decide
  simp only [isBlank]
  have h₁ : (c.toNat == 0x85) = false := by
    rw [beq_eq_false_iff_ne]
    omega
  grind

/-- The code points of the blanks. -/
def blankPoints : List Nat :=
  List.range' 0x09 5 ++ List.range' 0x1C 5 ++ [0x85, 0xA0, 0x1680] ++ List.range' 0x2000 11
    ++ [0x2028, 0x2029, 0x202F, 0x205F, 0x3000]

theorem mem_blankPoints {c : Char} (h : isBlank c = true) :
  c.toNat ∈ blankPoints
  := by
  simp only [isBlank, Bool.or_eq_true, Bool.and_eq_true, decide_eq_true_eq, beq_iff_eq] at h
  simp only [blankPoints, List.mem_append, List.mem_range'_1, List.mem_cons, List.not_mem_nil]
  omega

/-- Blanks are not characters of words. -/
theorem isWordChar_of_isBlank {c : Char} (h : isBlank c = true) :
  isWordChar c = false
  := by
  have hall : ∀ n ∈ blankPoints, isWordChar (Char.ofNat n) = false := by decide +kernel
  rw [← Char.ofNat_toNat c]
  apply hall _ (mem_blankPoints h)

end AnchorIndex.Text

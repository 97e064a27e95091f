import AnchorIndex.Proofs.Yaml.Phrases
import AnchorIndex.Yaml.Token

/-!
# Starts of plain scalars

A plain scalar begins with a character that is no indicator, or with an indicator that has no gap
behind it (`startsPlain_cases`), and no other token starts there (`Scanner.token?_of_startsPlain`).
Keys that are words of letters and low lines are plain scalars.
-/

namespace AnchorIndex.Yaml

/-- A plain scalar outside of brackets may begin here. -/
def BeginsPlain (cs : List Char) : Prop :=
  ∃ c r, cs = c :: r ∧ Scanner.startsPlain false c r.head? = true

/-- A character of a key. -/
def isKeyChar (c : Char) : Bool :=
  c.isAlpha || c == '_'

/-- A key that is one word of letters and low lines. -/
structure IsKeyWord (key : List Char) : Prop where
  ne_nil : key ≠ []
  length_le : key.length ≤ Scanner.maxKeyLength
  isKeyChar : ∀ c ∈ key, isKeyChar c = true

theorem isKeyWord_of_all {key : List Char} (hne : key ≠ [])
    (hlength : key.length ≤ Scanner.maxKeyLength) (h : key.all isKeyChar = true) :
  IsKeyWord key
  := ⟨hne, hlength, List.all_eq_true.1 h⟩

theorem ne_of_isKeyChar {c : Char} (h : isKeyChar c = true) {d : Char} (hd : isKeyChar d = false) :
  c ≠ d
  := by
  rintro rfl
  rw [h] at hd
  cases hd

theorem toNat_le_of_isKeyChar {c : Char} (h : isKeyChar c = true) :
  c.toNat ≤ 122
  := by
  delta isKeyChar Char.isAlpha Char.isUpper Char.isLower at h
  simp only [Bool.or_eq_true, decide_eq_true_eq, Bool.and_eq_true, beq_iff_eq] at h
  obtain (⟨-, h⟩ | ⟨-, h⟩) | rfl := h
  · exact Nat.le_trans h (by decide)
  · exact Nat.le_trans h (by decide)
  · decide

theorem isGap_of_isKeyChar {c : Char} (h : isKeyChar c = true) :
  isGap c = false
  := by
  have hne (n : Nat) (hn : 122 < n) : c.toNat ≠ n :=
    Nat.ne_of_lt (Nat.lt_of_le_of_lt (toNat_le_of_isKeyChar h) hn)
  simp [isGap, isBreak, ne_of_isKeyChar h, isKeyChar, hne]

theorem isBreak_of_isGap {c : Char} (h : isGap c = false) :
  isBreak c = false
  := (Bool.or_eq_false_iff.1 h).2

theorem startsPlain_of_isKeyChar {c : Char} (h : isKeyChar c = true) (next : Option Char) :
  Scanner.startsPlain false c next = true
  := by
  have hindicator : "-?:,[]\x7b\x7d#&*!|>'\"%@\x60".toList.contains c = false := by
    rw [← Bool.not_eq_true, List.contains_iff_mem]
    intro hc
    have hall : ("-?:,[]\x7b\x7d#&*!|>'\"%@\x60".toList.all fun d => !isKeyChar d) = true := by
      decide
    have hc := List.all_eq_true.1 hall c hc
    rw [h] at hc
    cases hc
  rw [Scanner.startsPlain, isGap_of_isKeyChar h, hindicator]
  rfl

theorem beginsPlain_of_head {cs : List Char} (h : cs.head?.any isKeyChar = true) :
  BeginsPlain cs
  := by
  cases cs with
  | nil => cases h
  | cons c r => exact ⟨c, r, rfl, startsPlain_of_isKeyChar h _⟩

/-- A plain scalar starts with a character that is no indicator, or with an indicator that has no
gap behind it. -/
theorem startsPlain_cases {c : Char} {next : Option Char}
    (h : Scanner.startsPlain false c next = true) :
  isGap c = false ∧ "-?:,[]\x7b\x7d#&*!|>'\"%@\x60".toList.contains c = false
    ∨ isGapOrEnd next = false ∧ (c = '-' ∨ c = '?' ∨ c = ':')
  := by
  simpa [Scanner.startsPlain] using h

theorem isGap_of_startsPlain {c : Char} {next : Option Char}
    (h : Scanner.startsPlain false c next = true) :
  isGap c = false
  := by
  obtain ⟨hc, -⟩ | ⟨-, rfl | rfl | rfl⟩ := startsPlain_cases h
  · exact hc
  all_goals rfl

theorem ne_hash_of_startsPlain {c : Char} {next : Option Char}
    (h : Scanner.startsPlain false c next = true) :
  c ≠ '#'
  := by
  rintro rfl
  obtain ⟨-, hc⟩ | ⟨-, hc⟩ := startsPlain_cases h
  · cases hc
  · simp at hc

theorem startsPlain_append_newline {c : Char} {r : List Char}
    (h : Scanner.startsPlain false c r.head? = true) (more : List Char) :
  Scanner.startsPlain false c (r ++ '\n' :: more).head? = true
  := by
  cases r with
  | nil => exact h
  | cons x r => exact h

/-- A key ends at its colon. -/
theorem plainLength_key {key : List Char} (h : ∀ c ∈ key, isKeyChar c = true) (r : List Char) :
  plainLength false (key ++ ':' :: ' ' :: r) = key.length
  := by
  induction key with
  | nil => rfl
  | cons k key ih =>
    obtain ⟨hk, hkey⟩ := List.forall_mem_cons.1 h
    rw [List.cons_append, plainLength_cons, if_neg, ih hkey, List.length_cons]
    rintro (hgap | ⟨heq, -⟩)
    · rw [isGap_of_isKeyChar hk] at hgap
      cases hgap
    · exact ne_of_isKeyChar hk rfl heq

/-- Where a plain scalar may begin there is a word. -/
theorem BeginsPlain.plainLength_pos {cs : List Char} (h : BeginsPlain cs) :
  0 < plainLength false cs
  := by
  obtain ⟨c, r, rfl, hstart⟩ := h
  rw [plainLength_cons, if_neg]
  · exact Nat.succ_pos _
  · rintro (hgap | ⟨rfl, hend⟩)
    · rw [isGap_of_startsPlain hstart] at hgap
      cases hgap
    · obtain ⟨-, hc⟩ | ⟨hnext, -⟩ := startsPlain_cases hstart
      · cases hc
      · rw [hend] at hnext
        cases hnext

namespace Scanner

/-- Where a plain scalar may start, no other token starts. -/
theorem token?_of_startsPlain {c : Char} {s : Scanner} (hflow : s.flow = 0)
    (hmark : s.cursor.column = 0 → s.cursor.atDocumentMark = false)
    (hstart : startsPlain false c (s.cursor.peek 1) = true) :
  s.token? c = s.plain?
  := by
  have hat : (s.cursor.column == 0 && s.cursor.atDocumentMark) = false := by
    cases hcolumn : s.cursor.column with
    | zero => rw [hmark hcolumn, Bool.and_false]
    | succ n => rfl
  rw [token?]
  obtain ⟨-, hindicator⟩ | ⟨hnext, rfl | rfl | rfl⟩ := startsPlain_cases hstart
  · have hne (d : Char) (hd : "-?:,[]\x7b\x7d#&*!|>'\"%@\x60".toList.contains d = true) :
        c ≠ d := by
      rintro rfl
      rw [hd] at hindicator
      cases hindicator
    simp [hat, hflow, hne, hstart]
  · simp [hat, hflow, hnext, hstart]
  · simp [hat, hflow, hnext, hstart]
  · simp [hat, hflow, hnext, hstart]

end Scanner

end AnchorIndex.Yaml

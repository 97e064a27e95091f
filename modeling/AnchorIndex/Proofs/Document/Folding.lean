import AnchorIndex.Document.Encode
import Mathlib.Data.List.Basic

/-!
# Folding line breaks

A text on one line is read off the text by one rule, `foldRuns`: where a run of line breaks with
the blanks around it starts, one space stands for all of it, and every other character stays.
Writing follows this rule (`foldBreaks_eq_foldRuns`), so what is written has no line breaks
(`unbroken_foldBreaks`), and a text without line breaks is written as it is
(`foldBreaks_eq_self`).
-/

namespace AnchorIndex.Document

/-! ### The rule -/

/-- The text after a run of line breaks at its start, with all blanks before and after the run. -/
def afterRun? (cs : List Char) : Option (List Char) :=
  match cs.dropWhile isPad with
  | [] => none
  | c :: r => if isBreak c then some ((r.dropWhile isBreak).dropWhile isPad) else none

theorem length_afterRun?_lt {cs rest : List Char} (h : afterRun? cs = some rest) :
  rest.length < cs.length
  := by
  have hpads := (List.dropWhile_sublist isPad (l := cs)).length_le
  rw [afterRun?] at h
  split at h
  · contradiction
  next c r hcs =>
    split at h
    · cases h
      have h₁ := (List.dropWhile_sublist isPad (l := r.dropWhile isBreak)).length_le
      have h₂ := (List.dropWhile_sublist isBreak (l := r)).length_le
      rw [hcs, List.length_cons] at hpads
      omega
    · contradiction

/-- The text with one space in the place of each run of line breaks, taken from the left with all
blanks around it. -/
def foldRuns (cs : List Char) : List Char :=
  match cs with
  | [] => []
  | c :: r =>
    match h : afterRun? (c :: r) with
    | some rest => ' ' :: foldRuns rest
    | none => c :: foldRuns r
  termination_by cs.length
  decreasing_by
    · apply length_afterRun?_lt h
    · apply Nat.lt_succ_self

@[simp]
theorem foldRuns_nil :
  foldRuns [] = []
  := by
  rw [foldRuns]

theorem foldRuns_of_afterRun? {cs rest : List Char} (h : afterRun? cs = some rest) :
  foldRuns cs = ' ' :: foldRuns rest
  := by
  cases cs with
  | nil => contradiction
  | cons c r =>
    rw [foldRuns]
    split
    next rest' heq =>
      obtain rfl := Option.some.inj (heq.symm.trans h)
      rfl
    next heq => simp [h] at heq

theorem foldRuns_cons {c : Char} {r : List Char} (h : afterRun? (c :: r) = none) :
  foldRuns (c :: r) = c :: foldRuns r
  := by
  rw [foldRuns]
  split
  next heq => simp [h] at heq
  · rfl

theorem isBreak_of_isPad {c : Char} (h : isPad c = true) :
  isBreak c = false
  := by
  simp only [isPad, Bool.or_eq_true, beq_iff_eq] at h
  rcases h with rfl | rfl <;> rfl

theorem isPad_of_isBreak {c : Char} (h : isBreak c = true) :
  isPad c = false
  := by
  by_contra hpad
  have := isBreak_of_isPad (by simpa using hpad : isPad c = true)
  simp [h] at this

theorem afterRun?_append {pads : List Char} (hp : ∀ c ∈ pads, isPad c = true) (cs : List Char) :
  afterRun? (pads ++ cs) = afterRun? cs
  := by
  rw [afterRun?, List.dropWhile_append_of_pos hp, afterRun?]

/-- A run is folded together with the blanks before it. -/
theorem foldRuns_run (pads : List Char) (hp : ∀ c ∈ pads, isPad c = true) {b : Char}
    (hb : isBreak b = true) (cs : List Char) :
  foldRuns (pads ++ b :: cs) = ' ' :: foldRuns ((cs.dropWhile isBreak).dropWhile isPad)
  := by
  apply foldRuns_of_afterRun?
  rw [afterRun?_append hp]
  simp [afterRun?, isPad_of_isBreak hb, hb]

/-- Blanks stay where no run follows them. -/
theorem foldRuns_append {pads : List Char} (hp : ∀ c ∈ pads, isPad c = true) {cs : List Char}
    (h : afterRun? cs = none) :
  foldRuns (pads ++ cs) = pads ++ foldRuns cs
  := by
  induction pads with
  | nil => rfl
  | cons p pads ih =>
    have hrun : afterRun? (p :: (pads ++ cs)) = none := by
      rw [← List.cons_append, afterRun?_append hp, h]
    rw [List.cons_append, foldRuns_cons hrun, ih fun c hc => hp c (List.mem_cons_of_mem p hc)]
    rfl

/-- A character that is neither blank nor line break stays, and so do the blanks before it. -/
theorem foldRuns_solid (pads : List Char) (hp : ∀ c ∈ pads, isPad c = true) {s : Char}
    (hpad : isPad s = false) (hs : isBreak s = false) (cs : List Char) :
  foldRuns (pads ++ s :: cs) = pads ++ s :: foldRuns cs
  := by
  have hrun : afterRun? (s :: cs) = none := by
    simp [afterRun?, hpad, hs]
  rw [foldRuns_append hp hrun, foldRuns_cons hrun]

/-- Blanks at the end of a text stay. -/
theorem foldRuns_pads {pads : List Char} (hp : ∀ c ∈ pads, isPad c = true) :
  foldRuns pads = pads
  := by
  have h : foldRuns (pads ++ []) = pads ++ foldRuns [] := foldRuns_append hp rfl
  simpa using h

/-! ### Writing follows the rule -/

/-- The three states of writing: blanks that are held back, a run of line breaks, and the blanks
after such a run. -/
theorem foldBreaksFrom_eq_foldRuns (cs : List Char) :
  (∀ held : List Char, (∀ c ∈ held, isPad c = true) →
      foldBreaksFrom (.text held) cs = foldRuns (held.reverse ++ cs))
    ∧ foldBreaksFrom .afterBreak cs = foldRuns ((cs.dropWhile isBreak).dropWhile isPad)
    ∧ foldBreaksFrom .afterPads cs = foldRuns (cs.dropWhile isPad)
  := by
  induction cs with
  | nil =>
    refine ⟨fun held hheld => ?_, ?_, ?_⟩
    · rw [List.append_nil, foldRuns_pads (by simpa using hheld), foldBreaksFrom]
    · simp [foldBreaksFrom]
    · simp [foldBreaksFrom]
  | cons c cs ih =>
    obtain ⟨ihText, ihBreak, ihPads⟩ := ih
    have ihNone := ihText [] (by simp)
    by_cases hb : isBreak c = true
    · have hpad := isPad_of_isBreak hb
      have hrun := foldRuns_run [] (by simp) hb cs
      refine ⟨fun held hheld => ?_, ?_, ?_⟩
      · rw [foldRuns_run held.reverse (by simpa using hheld) hb, foldBreaksFrom]
        simp [hb, ihBreak]
      · simp [foldBreaksFrom, hb, ihBreak]
      · simpa [foldBreaksFrom, hb, hpad, ihBreak] using hrun.symm
    · by_cases hpad : isPad c = true
      · refine ⟨fun held hheld => ?_, ?_, ?_⟩
        · have hheld' : ∀ d ∈ c :: held, isPad d = true := by
            simpa [hpad] using hheld
          rw [foldBreaksFrom]
          simp [hb, hpad, ihText (c :: held) hheld']
        · simp [foldBreaksFrom, hb, hpad, ihPads]
        · simp [foldBreaksFrom, hb, hpad, ihPads]
      · have hb : isBreak c = false := by simpa using hb
        have hpad : isPad c = false := by simpa using hpad
        have hsolid := foldRuns_solid [] (by simp) hpad hb cs
        refine ⟨fun held hheld => ?_, ?_, ?_⟩
        · rw [foldRuns_solid held.reverse (by simpa using hheld) hpad hb, foldBreaksFrom]
          simp [hb, hpad, ihNone]
        · simpa [foldBreaksFrom, hb, hpad, ihNone] using hsolid.symm
        · simpa [foldBreaksFrom, hb, hpad, ihNone] using hsolid.symm

/-- Writing folds line breaks by the rule. -/
theorem foldBreaks_eq_foldRuns (cs : List Char) :
  foldBreaks cs = foldRuns cs
  := (foldBreaksFrom_eq_foldRuns cs).1 [] (by simp)

/-! ### Texts without line breaks -/

/-- No character of the text breaks a line. -/
def Unbroken (cs : List Char) : Prop :=
  ∀ c ∈ cs, isBreak c = false

theorem Unbroken.append {a b : List Char} (ha : Unbroken a) (hb : Unbroken b) :
  Unbroken (a ++ b)
  := by
  intro c hc
  obtain hc | hc := List.mem_append.1 hc
  · apply ha c hc
  · apply hb c hc

theorem Unbroken.cons {c : Char} {cs : List Char} (hc : isBreak c = false) (h : Unbroken cs) :
  Unbroken (c :: cs)
  := List.forall_mem_cons.2 ⟨hc, h⟩

theorem Unbroken.notMem {cs : List Char} (h : Unbroken cs) {b : Char} (hb : isBreak b = true) :
  b ∉ cs
  := by
  intro hmem
  simp [h b hmem] at hb

theorem unbroken_foldBreaksFrom (cs : List Char) (state : FoldState)
    (h : ∀ held, state = .text held → Unbroken held) :
  Unbroken (foldBreaksFrom state cs)
  := by
  induction cs generalizing state with
  | nil =>
    cases state with
    | text held =>
      intro c hc
      apply h held rfl
      simpa [foldBreaksFrom] using hc
    | afterBreak => simp [foldBreaksFrom, Unbroken]
    | afterPads => simp [foldBreaksFrom, Unbroken]
  | cons c cs ih =>
    have hbreak : Unbroken (foldBreaksFrom .afterBreak cs) := ih _ (by simp)
    have hpads : Unbroken (foldBreaksFrom .afterPads cs) := ih _ (by simp)
    have htext : Unbroken (foldBreaksFrom (.text []) cs) := ih _ (by simp [Unbroken])
    by_cases hb : isBreak c = true
    · cases state with
      | text held => simpa [foldBreaksFrom, hb] using hbreak.cons rfl
      | afterBreak => simpa [foldBreaksFrom, hb] using hbreak
      | afterPads => simpa [foldBreaksFrom, hb] using hbreak.cons rfl
    · have hb : isBreak c = false := by simpa using hb
      cases state with
      | text held =>
        have hheld := h held rfl
        by_cases hpad : isPad c = true
        · have hnew : Unbroken (foldBreaksFrom (.text (c :: held)) cs) := by
            apply ih
            intro held' heq
            cases heq
            exact hheld.cons hb
          simpa [foldBreaksFrom, hb, hpad] using hnew
        · have hrev : Unbroken held.reverse := by
            intro d hd
            apply hheld d (List.mem_reverse.1 hd)
          simpa [foldBreaksFrom, hb, hpad] using hrev.append (htext.cons hb)
      | afterBreak =>
        by_cases hpad : isPad c = true
        · simpa [foldBreaksFrom, hb, hpad] using hpads
        · simpa [foldBreaksFrom, hb, hpad] using htext.cons hb
      | afterPads =>
        by_cases hpad : isPad c = true
        · simpa [foldBreaksFrom, hb, hpad] using hpads
        · simpa [foldBreaksFrom, hb, hpad] using htext.cons hb

/-- A text on one line has no line breaks. -/
theorem unbroken_foldBreaks (cs : List Char) :
  Unbroken (foldBreaks cs)
  := by
  apply unbroken_foldBreaksFrom
  rintro held ⟨⟩
  simp [Unbroken]

theorem foldBreaksFrom_eq_self {cs : List Char} (h : Unbroken cs) (held : List Char) :
  foldBreaksFrom (.text held) cs = held.reverse ++ cs
  := by
  induction cs generalizing held with
  | nil => simp [foldBreaksFrom]
  | cons c cs ih =>
    have hc : isBreak c = false := h c List.mem_cons_self
    have ih := ih fun d hd => h d (List.mem_cons_of_mem c hd)
    by_cases hpad : isPad c = true
    · simp [foldBreaksFrom, hc, hpad, ih]
    · simp [foldBreaksFrom, hc, hpad, ih]

/-- A text without line breaks is on one line already. -/
theorem foldBreaks_eq_self {cs : List Char} (h : Unbroken cs) :
  foldBreaks cs = cs
  := foldBreaksFrom_eq_self h []

end AnchorIndex.Document

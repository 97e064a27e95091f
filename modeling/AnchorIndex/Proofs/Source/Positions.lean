import AnchorIndex.Proofs.Source.Fragments
import AnchorIndex.Proofs.Source.Hiding

/-!
# Positions in masked texts

Every text keeps its positions when it is masked, however broken its comments and literals are
(`keepsPositions_masked`). A line is masked construct by construct: none goes beyond the line, and
each is masked in its place (`exists_maskFrom_cons`).
-/

namespace AnchorIndex.Source

/-! ### Constructs -/

/-- The characters that are to be kept, and a space in the place of each other. -/
def shown (flags : List Bool) (cs : List Char) : List Char :=
  List.zipWith (fun kept c => if kept then c else ' ') flags cs

theorem forall₂_shown {flags : List Bool} {cs : List Char} (h : flags.length = cs.length) :
  List.Forall₂ (fun c x => x = c ∨ x = ' ') cs (shown flags cs)
  := by
  induction cs generalizing flags with
  | nil =>
    rw [List.length_eq_zero_iff.1 h]
    exact .nil
  | cons c cs ih =>
    cases flags with
    | nil => contradiction
    | cons kept flags =>
      apply List.Forall₂.cons _ (ih (Nat.succ.inj h))
      cases kept with
      | false => exact .inr rfl
      | true => exact .inl rfl

/-- Characters that are decided about are shown as decided, and the line goes on behind them. -/
theorem maskFrom_append {pending : List Bool} {cs : List Char} (h : pending.length = cs.length)
    (region : Region) (before rest : List Char) :
  (maskFrom region pending before (cs ++ rest)).1
    = shown pending cs ++ (maskFrom region [] (cs.reverse ++ before) rest).1
  := by
  induction cs generalizing pending before with
  | nil =>
    rw [List.length_eq_zero_iff.1 h]
    rfl
  | cons c cs ih =>
    cases pending with
    | nil => contradiction
    | cons kept pending =>
      rw [List.cons_append, maskFrom_cons_pending, ih (Nat.succ.inj h), List.reverse_cons,
        List.append_assoc]
      rfl

/-- A construct is masked in its place, and the line goes on behind it. -/
theorem exists_maskFrom_cons (region : Region) (before : List Char) (c : Char) (rest : List Char) :
  let now := region.read before c rest
  ∃ more back, rest = more ++ back ∧ (now.kept :: now.pending).length = (c :: more).length
    ∧ (maskFrom region [] before (c :: rest)).1
      = shown (now.kept :: now.pending) (c :: more)
        ++ (maskFrom now.region [] (more.reverse ++ c :: before) back).1
  := by
  intro now
  have hle : now.pending.length ≤ rest.length := (region.decides_read before c rest).length_le
  have hlength : now.pending.length = (rest.take now.pending.length).length := by
    rw [List.length_take, Nat.min_eq_left hle]
  refine ⟨rest.take now.pending.length, rest.drop now.pending.length,
    (List.take_append_drop _ rest).symm, by rw [List.length_cons, List.length_cons, ← hlength], ?_⟩
  have hrest := maskFrom_append hlength now.region (c :: before) (rest.drop now.pending.length)
  rw [List.take_append_drop] at hrest
  rw [maskFrom_cons]
  exact congrArg _ hrest

/-- Each character of a line is masked by itself or by a space. -/
theorem forall₂_maskFrom (region : Region) (before line : List Char) :
  List.Forall₂ (fun c x => x = c ∨ x = ' ') line (maskFrom region [] before line).1
  := by
  induction hlength : line.length using Nat.strong_induction_on generalizing region before line with
  | h length ih =>
    subst hlength
    cases line with
    | nil => exact .nil
    | cons c rest =>
      obtain ⟨more, back, rfl, hconstruct, hmasked⟩ := exists_maskFrom_cons region before c rest
      have hback : back.length < (c :: (more ++ back)).length := by
        rw [List.length_cons, List.length_append]
        omega
      rw [hmasked, ← List.cons_append]
      exact List.rel_append (forall₂_shown hconstruct) (ih _ hback _ _ back rfl)

theorem forall₂_maskLinesFrom (region : Region) (lines : List (List Char)) :
  List.Forall₂ (List.Forall₂ fun c x => x = c ∨ x = ' ') lines (maskLinesFrom region lines)
  := by
  induction lines generalizing region with
  | nil => exact .nil
  | cons line rest ih =>
    rw [maskLinesFrom_cons]
    exact .cons (forall₂_maskFrom region [] line) (ih _)

/-! ### Line breaks -/

/-- Where a line ends, one ends in the masked text, and nowhere else. -/
theorem forall₂_maskPass_newline (region : Region) (pending : List Bool)
    (before cs : List Char) :
  List.Forall₂ (fun c x => x = '\n' ↔ c = '\n') cs (maskPass region pending before cs)
  := by
  induction cs generalizing region pending before with
  | nil => exact .nil
  | cons c rest ih =>
    by_cases hc : c = '\n'
    · subst hc
      rw [maskPass_newline]
      exact .cons Iff.rfl (ih _ _ _)
    · have hshown : ∀ kept : Bool, (if kept then c else ' ') = '\n' ↔ c = '\n' := by
        intro kept
        cases kept with
        | false => exact iff_of_false (by simp) hc
        | true => exact Iff.rfl
      cases pending with
      | nil =>
        rw [maskPass_cons region before hc]
        exact .cons (hshown _) (ih _ _ _)
      | cons kept pending =>
        rw [maskPass_pending region kept pending before hc]
        exact .cons (hshown kept) (ih _ _ _)

/-! ### Positions -/

/-- The masked text is as long as the text, and has at each position the character of the text or
a space. -/
structure KeepsPositions (cs masked : List Char) : Prop where
  length_eq : masked.length = cs.length
  kept_or_blank : ∀ i < cs.length, masked[i]? = cs[i]? ∨ masked[i]? = some ' '

theorem keepsPositions_of_forall₂ {cs masked : List Char}
    (h : List.Forall₂ (fun c x => x = c ∨ x = ' ') cs masked) :
  KeepsPositions cs masked
  := by
  refine ⟨h.length_eq.symm, fun i hi => ?_⟩
  obtain ⟨c, hc⟩ : ∃ c, cs[i]? = some c := ⟨_, List.getElem?_eq_getElem hi⟩
  obtain ⟨x, hx, rfl | rfl⟩ := exists_of_forall₂_getElem? h hc
  · left
    rw [hx, hc]
  · exact .inr hx

/-- Masking keeps positions, line by line and in a text as a whole, and the masked text has its
line breaks where the text has them. -/
theorem keepsPositions_masked (lines : List (List Char)) (text : List Char) :
  List.Forall₂ KeepsPositions lines (maskLines lines)
    ∧ KeepsPositions text (mask text)
    ∧ ∀ i : Nat, (mask text)[i]? = some '\n' ↔ text[i]? = some '\n'
  := by
  refine ⟨(forall₂_maskLinesFrom .code lines).imp fun _ _ h => keepsPositions_of_forall₂ h, ?_⟩
  rw [mask_eq_maskPass]
  refine ⟨keepsPositions_of_forall₂ (forall₂_maskPass .code [] [] text), fun i => ?_⟩
  have hnewline := forall₂_maskPass_newline .code [] [] text
  constructor
  · intro hi
    obtain ⟨c, hc, hiff⟩ := exists_of_forall₂_getElem? hnewline.flip hi
    rw [hc, hiff.1 rfl]
  · intro hi
    obtain ⟨x, hx, hiff⟩ := exists_of_forall₂_getElem? hnewline hi
    rw [hx, hiff.2 rfl]

end AnchorIndex.Source

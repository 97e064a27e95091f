import AnchorIndex.Proofs.Account.Brackets

/-!
# Joined lists

A list that is joined of passages is split into them (`splitTopLevel_joinWith`), whatever ordinary
character stands between them. A passage is made of ordinary characters, text literals and groups
in brackets, and in literals and groups the separator may stand as well (`Passage`,
`Passage.Fits`). What passages are does not refer to the way in which a list is split.
-/

namespace AnchorIndex.Source

open Account (Bracket Keeps)

/-! ### Passages -/

/-- A passage of a source text. -/
inductive Passage where
  | done
  /-- A character for itself. -/
  | plain (c : Char) (rest : Passage)
  /-- An arrow, whose tip is no bracket. -/
  | arrow (shaft : Char) (rest : Passage)
  | literal (content : List Char) (rest : Passage)
  /-- A passage in brackets. -/
  | group (bracket : Bracket) (inner rest : Passage)

namespace Passage

/-- The text of a passage. -/
def text : Passage → List Char
  | done => []
  | plain c rest => c :: rest.text
  | arrow shaft rest => shaft :: '>' :: rest.text
  | literal content rest => '"' :: (content ++ '"' :: rest.text)
  | group bracket inner rest =>
    bracket.opening :: (inner.text ++ bracket.closing :: rest.text)

/-- The passage is read as it is in a list with this separator, which stands in its literals and
groups only. In a group no character separates. Angle brackets make groups if `angles` says so, and
the one that closes a group does not stand behind the shaft of an arrow. -/
def Fits (angles : Bool) (separator : Option Char) : Passage → Prop
  | done => True
  | plain c rest => IsOrdinary angles c ∧ separator ≠ some c ∧ rest.Fits angles separator
  | arrow shaft rest =>
    angles = true ∧ (shaft = '-' ∨ shaft = '=') ∧ separator ≠ some shaft
      ∧ rest.Fits angles separator
  | literal content rest => '"' ∉ content ∧ '\\' ∉ content ∧ rest.Fits angles separator
  | group bracket inner rest =>
    (bracket = .angle → angles = true)
      ∧ (bracket = .angle → ∀ c ∈ inner.text.getLast?, c ≠ '-' ∧ c ≠ '=')
      ∧ inner.Fits angles none ∧ rest.Fits angles separator

instance decidableFits (angles : Bool) (separator : Option Char) :
    (passage : Passage) → Decidable (passage.Fits angles separator)
  | done => .isTrue trivial
  | plain _ rest =>
    have := decidableFits angles separator rest
    inferInstanceAs (Decidable (_ ∧ _ ∧ _))
  | arrow _ rest =>
    have := decidableFits angles separator rest
    inferInstanceAs (Decidable (_ ∧ _ ∧ _ ∧ _))
  | literal _ rest =>
    have := decidableFits angles separator rest
    inferInstanceAs (Decidable (_ ∧ _ ∧ _))
  | group _ inner rest =>
    have := decidableFits angles none inner
    have := decidableFits angles separator rest
    have : Decidable (∀ c ∈ inner.text.getLast?, c ≠ '-' ∧ c ≠ '=') :=
      Option.decidableForallMem inner.text.getLast?
    inferInstanceAs (Decidable (_ ∧ _ ∧ _ ∧ _))

end Passage

/-! ### Splitting -/

section

variable {angles : Bool} {sep c : Char} {separator : Option Char} {n : Nesting}

/-- An ordinary character is no bracket. -/
theorem IsOrdinary.ne_bracket (h : IsOrdinary angles c) (b : Bracket)
    (counts : b = .angle → angles = true) :
  b.opening ≠ c ∧ b.closing ≠ c
  := by
  constructor
  · rintro rfl
    cases b with
    | angle => exact (h.2 (counts rfl)).1 rfl
    | _ => exact h.1 (by decide)
  · rintro rfl
    cases b with
    | angle => exact (h.2 (counts rfl)).2 rfl
    | _ => exact h.1 (by decide)

/-- An ordinary character splits no list if it is not the separator, and none where a bracket is
open. -/
theorem IsOrdinary.splitsAt_eq_false (h : IsOrdinary angles c) (hne : separator ≠ some c)
    (hplace : separator = some sep ∨ 0 < n.depth) :
  n.splitsAt (· == sep) angles c = false
  := by
  obtain rfl | hopen := hplace
  · apply Source.splitsAt_eq_false
    rw [beq_eq_false_iff_ne]
    rintro rfl
    exact hne rfl
  · exact h.splitsAt_of_depth (Int.ne_of_lt hopen).symm

/-- A passage leaves brackets and literals as it finds them, and no list is split in it: where no
bracket is open, the separator does not stand in it. -/
theorem Passage.Fits.keeps {passage : Passage} (h : passage.Fits angles separator)
    (hsep : IsOrdinary angles sep) (hquoted : n.quoted = false) (hdepth : 0 ≤ n.depth)
    (hplace : separator = some sep ∨ 0 < n.depth) :
  Keeps (· == sep) angles n passage.text
  := by
  induction passage generalizing separator n with
  | done => exact Account.keeps_nil
  | plain c rest ih =>
    obtain ⟨hc, hne, hrest⟩ := h
    exact Account.keeps_cons (hc.feed n) (hc.splitsAt_eq_false hne hplace)
      (ih hrest hquoted hdepth hplace)
  | arrow shaft rest ih =>
    obtain ⟨htypes, hshaft, hne, hrest⟩ := h
    have htip : ('>' == sep) = false := beq_eq_false_iff_ne.2 (hsep.2 htypes).2.symm
    exact Account.keeps_arrow hshaft ((isOrdinary_shaft hshaft).splitsAt_eq_false hne hplace) htip
      hquoted (ih hrest hquoted hdepth hplace)
  | literal content rest ih =>
    obtain ⟨hquote, hbackslash, hrest⟩ := h
    have hmark : ('"' == sep) = false := by
      rw [beq_eq_false_iff_ne]
      rintro rfl
      exact hsep.1 (by decide)
    exact Account.keeps_literal hquote hbackslash hmark hquoted (ih hrest rfl hdepth hplace)
  | group bracket inner rest ihinner ih =>
    obtain ⟨counts, harrow, hinner, hrest⟩ := h
    have hmarks : (bracket.opening == sep) = false ∧ (bracket.closing == sep) = false := by
      rw [beq_eq_false_iff_ne, beq_eq_false_iff_ne]
      exact hsep.ne_bracket bracket counts
    apply bracket.keeps counts hmarks hquoted _ harrow (ih hrest rfl hdepth hplace)
    -- inside the brackets no separator counts
    apply ihinner hinner rfl
    · dsimp only
      omega
    · right
      dsimp only
      omega

/-- A list is split into the passages that it is joined of, trimmed, but for the blank ones. -/
theorem splitTopLevel_joinWith (hsep : IsOrdinary angles sep) {parts : List Passage}
    (h : ∀ p ∈ parts, p.Fits angles (some sep)) :
  splitTopLevel (· == sep) angles (Text.joinWith sep (parts.map Passage.text))
    = (parts.map fun p => Text.strip p.text).filter (!·.isEmpty)
  := by
  cases parts with
  | nil => rfl
  | cons p parts =>
    have hparts : ∀ cs ∈ (p :: parts).map Passage.text, ∀ n : Nesting, n.AtTop →
        n.Quiet (· == sep) angles cs ∧ (cs.foldl (Nesting.feed angles) n).AtTop := by
      intro cs hcs n hn
      obtain ⟨q, hq, rfl⟩ := List.mem_map.1 hcs
      obtain ⟨hquiet, hdepth, hquoted⟩ :=
        (h q hq).keeps hsep hn.2 (Int.le_of_eq hn.1.symm) (.inl rfl)
      exact ⟨hquiet, hdepth.trans hn.1, hquoted.trans hn.2⟩
    have hne : (p :: parts).map Passage.text ≠ [] := List.cons_ne_nil _ _
    have hpieces := @piecesFrom_joinWith (· == sep) angles .start Nesting.AtTop sep
      (fun n hn => hsep.splitsAt hn) _ hne hparts ⟨rfl, rfl⟩
    rw [splitTopLevel, hpieces, List.map_map]
    rfl

end

/-- Passages in which the semicolon stands in brackets and in a literal, and a blank one. -/
def semicolonPassages : List Passage :=
  [ "pairs: Vec".toList.foldr .plain
      (.group .angle (.group .round ("u8; ".toList.foldr .plain
        (.group .square ("u8; 4".toList.foldr .plain .done) .done)) .done) .done),
    " Fn".toList.foldr .plain (.group .round .done (.plain ' ' (.arrow '-' (.plain ' '
      (.literal "; (".toList .done))))),
    .plain ' ' .done ]

theorem splitTopLevel_semicolonPassages :
  IsOrdinary true ';' ∧ (∀ p ∈ semicolonPassages, p.Fits true (some ';'))
    ∧ splitTopLevel (· == ';') true "pairs: Vec<(u8; [u8; 4])>; Fn() -> \"; (\"; ".toList
      = ["pairs: Vec<(u8; [u8; 4])>".toList, "Fn() -> \"; (\"".toList]
  := by
  have hsep : IsOrdinary true ';' := by decide
  have hfits : ∀ p ∈ semicolonPassages, p.Fits true (some ';') := by decide
  exact ⟨hsep, hfits, (splitTopLevel_joinWith hsep hfits).trans (by decide)⟩

end AnchorIndex.Source

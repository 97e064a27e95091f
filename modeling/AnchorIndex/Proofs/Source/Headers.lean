import AnchorIndex.Source.Header
import Mathlib.Data.List.Basic

/-!
# Kinds of headers exclude each other

A header goes on, after its visibility and words that may stand before, with the keyword of its
kind (`headed_of_header?`). No two of these words start alike, so what follows the words before the
keyword is determined, and a line is the header of one kind at most (`kind_eq_of_header?`).
-/

namespace AnchorIndex.Source

open Text (afterPiece? afterPiece?_eq_some_iff afterWord? skipWord)

/-! ### Keywords -/

/-- The words that may stand between the visibility and the keyword of a header. -/
def leadingWords : List (List Char) :=
  functionModifiers ++ ["auto".toList]

/-- The keywords of a kind. The calling convention of a function stands in the place of one. -/
def keywords : Kind → List (List Char)
  | .function => ["fn".toList, "extern".toList]
  | .struct => ["struct".toList]
  | .trait => ["trait".toList]
  | .implementation => ["impl".toList]
  | .enumeration => ["enum".toList]

/-- No word starts with the other one. -/
def Apart (v w : List Char) : Prop :=
  ¬ v <+: w ∧ ¬ w <+: v

instance (v w : List Char) : Decidable (Apart v w) :=
  inferInstanceAs (Decidable (_ ∧ _))

theorem not_apart_of_afterPiece? {v w cs r r' : List Char} (h : afterPiece? v cs = some r)
    (h' : afterPiece? w cs = some r') :
  ¬ Apart v w
  := by
  have hv : v <+: cs := ⟨r, (afterPiece?_eq_some_iff.1 h).symm⟩
  have hw : w <+: cs := ⟨r', (afterPiece?_eq_some_iff.1 h').symm⟩
  rintro ⟨hvw, hwv⟩
  obtain h | h := List.prefix_or_prefix_of_prefix hv hw
  · apply hvw h
  · apply hwv h

theorem apart_leadingWords :
  ∀ v ∈ leadingWords, ∀ w ∈ leadingWords, v ≠ w → Apart v w
  := by
  decide +kernel

theorem apart_keyword_leadingWords (kind : Kind) :
  ∀ v ∈ keywords kind, ∀ w ∈ leadingWords, Apart v w
  := by
  cases kind <;> decide +kernel

theorem apart_keywords {kind kind' : Kind} (h : kind ≠ kind') :
  ∀ v ∈ keywords kind, ∀ w ∈ keywords kind', Apart v w
  := by
  cases kind <;> cases kind' <;> first | contradiction | decide +kernel

/-! ### What stands before a keyword -/

/-- The second text is what follows some words at the start of the first one that may stand before
a keyword. -/
inductive Leads : List Char → List Char → Prop
  | refl (cs : List Char) : Leads cs cs
  | word {w cs rest cs' : List Char} (hw : w ∈ leadingWords) (h : afterWord? w cs = some rest)
      (hrest : Leads rest cs') : Leads cs cs'

/-- The text starts with a keyword of the kind. -/
def StartsWithKeyword (kind : Kind) (cs : List Char) : Prop :=
  ∃ w ∈ keywords kind, ∃ rest, afterPiece? w cs = some rest

/-- After its visibility and the words before it, a text has a keyword of the kind. -/
def Headed (kind : Kind) (cs : List Char) : Prop :=
  ∃ cs', Leads (skipVisibility cs) cs' ∧ StartsWithKeyword kind cs'

theorem exists_afterPiece?_of_afterWord? {w cs rest : List Char}
    (h : afterWord? w cs = some rest) :
  ∃ r, afterPiece? w cs = some r
  := by
  obtain ⟨r, hr, -⟩ := Option.bind_eq_some_iff.1 h
  exact ⟨r, hr⟩

/-- A text that starts with a keyword has none of the words before a keyword at its start. -/
theorem StartsWithKeyword.afterWord?_eq_none {kind : Kind} {cs : List Char}
    (h : StartsWithKeyword kind cs) {w : List Char} (hw : w ∈ leadingWords) :
  afterWord? w cs = none
  := by
  obtain ⟨v, hv, r, hr⟩ := h
  apply Option.eq_none_iff_forall_ne_some.2
  intro rest hrest
  obtain ⟨r', hr'⟩ := exists_afterPiece?_of_afterWord? hrest
  apply not_apart_of_afterPiece? hr hr' (apart_keyword_leadingWords kind v hv w hw)

/-- The words before a keyword are determined, and so is what follows them. -/
theorem Leads.unique {kind kind' : Kind} {cs a b : List Char} (ha : Leads cs a)
    (hb : Leads cs b) (hka : StartsWithKeyword kind a) (hkb : StartsWithKeyword kind' b) :
  a = b
  := by
  induction ha with
  | refl cs =>
    cases hb with
    | refl => rfl
    | word hw h _ =>
      rw [hka.afterWord?_eq_none hw] at h
      contradiction
  | @word w cs rest a hw h _ ih =>
    cases hb with
    | refl =>
      rw [hkb.afterWord?_eq_none hw] at h
      contradiction
    | @word w' _ rest' _ hw' h' hrest' =>
      have hww : w = w' := by
        by_contra hne
        obtain ⟨r, hr⟩ := exists_afterPiece?_of_afterWord? h
        obtain ⟨r', hr'⟩ := exists_afterPiece?_of_afterWord? h'
        apply not_apart_of_afterPiece? hr hr' (apart_leadingWords w hw w' hw' hne)
      subst hww
      rw [h] at h'
      cases h'
      apply ih hrest' hka

/-- A text is headed by keywords of one kind at most. -/
theorem Headed.kind_eq {kind kind' : Kind} {cs : List Char} (h : Headed kind cs)
    (h' : Headed kind' cs) :
  kind = kind'
  := by
  obtain ⟨a, ha, hka⟩ := h
  obtain ⟨b, hb, hkb⟩ := h'
  obtain rfl := ha.unique hb hka hkb
  by_contra hne
  obtain ⟨v, hv, r, hr⟩ := hka
  obtain ⟨w, hw, r', hr'⟩ := hkb
  apply not_apart_of_afterPiece? hr hr' (apart_keywords hne v hv w hw)

/-! ### Headers -/

theorem leads_skipWord {w : List Char} (hw : w ∈ leadingWords) {cs cs' : List Char}
    (h : Leads (skipWord w cs) cs') :
  Leads cs cs'
  := by
  rw [skipWord] at h
  cases hafter : afterWord? w cs with
  | none =>
    rw [hafter] at h
    apply h
  | some rest =>
    rw [hafter] at h
    exact .word hw hafter h

theorem leads_skipModifiers (cs : List Char) :
  Leads cs (skipModifiers cs)
  := by
  induction cs using skipModifiers.induct with
  | case1 cs h =>
    rw [skipModifiers]
    split
    · exact .refl cs
    next rest h' =>
      rw [h] at h'
      contradiction
  | case2 cs rest h ih =>
    rw [skipModifiers]
    split
    next h' =>
      rw [h] at h'
      contradiction
    next rest' h' =>
      rw [h] at h'
      cases h'
      obtain ⟨w, hw, hafter⟩ := List.exists_of_findSome?_eq_some h
      exact .word (List.mem_append_left _ hw) hafter ih

theorem startsWithKeyword_of_nameAfter? {kind : Kind} {w cs : List Char} {name : String}
    (h : nameAfter? w cs = some name) (hw : w ∈ keywords kind) :
  StartsWithKeyword kind cs
  := by
  rw [nameAfter?, Option.map_eq_some_iff] at h
  obtain ⟨p, hp, -⟩ := h
  obtain ⟨rest, hrest, -⟩ := Option.bind_eq_some_iff.1 hp
  exact ⟨w, hw, exists_afterPiece?_of_afterWord? hrest⟩

/-- A calling convention stands in the place of the keyword of a function. -/
theorem startsWithKeyword_of_skipConvention {cs : List Char}
    (h : StartsWithKeyword .function (skipConvention cs)) :
  StartsWithKeyword .function cs
  := by
  rw [skipConvention] at h
  cases hafter : afterWord? "extern".toList cs with
  | none =>
    rw [hafter] at h
    apply h
  | some rest =>
    exact ⟨"extern".toList, by decide +kernel, exists_afterPiece?_of_afterWord? hafter⟩

/-- A text that starts with a word other than a visibility has none. -/
theorem skipVisibility_eq_self {w cs rest : List Char} (h : afterPiece? w cs = some rest)
    (hw : Apart w "pub".toList) :
  skipVisibility cs = cs
  := by
  have hnone : afterPiece? ['p', 'u', 'b'] cs = none := by
    apply Option.eq_none_iff_forall_ne_some.2
    intro rest' hrest'
    apply not_apart_of_afterPiece? h hrest' hw
  rw [skipVisibility, hnone]

theorem headed_of_implementationHeader? {cs : List Char} {name : String}
    (h : implementationHeader? cs = some name) :
  Headed .implementation cs
  := by
  have hunsafe : "unsafe".toList ∈ leadingWords := by decide +kernel
  cases hafter : afterPiece? "impl".toList (skipWord "unsafe".toList cs) with
  | none =>
    rw [implementationHeader?, hafter] at h
    contradiction
  | some rest =>
    have hstarts : StartsWithKeyword .implementation (skipWord "unsafe".toList cs) :=
      ⟨"impl".toList, by decide +kernel, rest, hafter⟩
    have hvisibility : skipVisibility cs = cs := by
      cases hword : afterWord? "unsafe".toList cs with
      | none =>
        rw [skipWord, hword] at hafter
        apply skipVisibility_eq_self hafter (by decide +kernel)
      | some rest' =>
        obtain ⟨r, hr⟩ := exists_afterPiece?_of_afterWord? hword
        apply skipVisibility_eq_self hr (by decide +kernel)
    refine ⟨_, ?_, hstarts⟩
    rw [hvisibility]
    apply leads_skipWord hunsafe (.refl _)

/-- A header of a kind has a keyword of the kind. -/
theorem headed_of_header? {kind : Kind} {cs : List Char} {name : String}
    (h : header? kind cs = some name) :
  Headed kind cs
  := by
  cases kind with
  | function =>
    refine ⟨_, leads_skipModifiers _, ?_⟩
    apply startsWithKeyword_of_skipConvention
    apply startsWithKeyword_of_nameAfter? h (by decide +kernel)
  | struct => exact ⟨_, .refl _, startsWithKeyword_of_nameAfter? h (by decide +kernel)⟩
  | trait =>
    refine ⟨_, ?_, startsWithKeyword_of_nameAfter? h (by decide +kernel)⟩
    apply leads_skipWord (w := "unsafe".toList) (by decide +kernel)
    apply leads_skipWord (w := "auto".toList) (by decide +kernel)
    exact .refl _
  | implementation => exact headed_of_implementationHeader? h
  | enumeration => exact ⟨_, .refl _, startsWithKeyword_of_nameAfter? h (by decide +kernel)⟩

/-- A line is the header of one kind at most. -/
theorem kind_eq_of_header? {kind kind' : Kind} {cs : List Char} {name name' : String}
    (h : header? kind cs = some name) (h' : header? kind' cs = some name') :
  kind = kind'
  := (headed_of_header? h).kind_eq (headed_of_header? h')

end AnchorIndex.Source

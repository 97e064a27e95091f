import AnchorIndex.Account.Field
import AnchorIndex.Proofs.Source.Splitting
import AnchorIndex.Proofs.Text.Searching
import Mathlib.Data.List.TakeWhile

/-!
# Attributes of accounts in a text

The attributes of a text are found one after another. Behind a text in which every attribute is
closed (`AttributesClosed`) they are those of the text and those of what follows
(`attributeBodies_append`), and so are the constraints (`constraints_append`).
-/

namespace AnchorIndex.Account

open Text (cutAt? Parted)

/-! ### One attribute after another -/

theorem length_of_cutAt? {cs front rest : List Char}
    (h : cutAt? attributeStart cs = some (front, rest)) :
  rest.length < cs.length
  := by
  have hstart : attributeStart.length = 9 := rfl
  rw [Text.eq_of_cutAt? h, List.length_append, List.length_append, hstart]
  omega

theorem attributeContent?_eq_some_iff {cs inner : List Char} :
  attributeContent? cs = some inner
    ↔ ∃ mid, cs = mid ++ '(' :: inner ∧ '(' ∉ mid ∧ ']' ∉ mid
  := by
  constructor
  · intro h
    rw [attributeContent?] at h
    split at h
    next r heq =>
      cases h
      refine ⟨cs.takeWhile (fun c => c != '(' && c != ']'), ?_, ?_, ?_⟩
      · rw [← heq, List.takeWhile_append_dropWhile]
      · intro hmem
        simpa using List.mem_takeWhile_imp hmem
      · intro hmem
        simpa using List.mem_takeWhile_imp hmem
    next => contradiction
  · rintro ⟨mid, rfl, hopen, hclose⟩
    rw [attributeContent?, List.dropWhile_append_of_pos]
    · rfl
    · intro c hc
      have hne₁ : c ≠ '(' := by
        rintro rfl
        contradiction
      have hne₂ : c ≠ ']' := by
        rintro rfl
        contradiction
      simp [hne₁, hne₂]

theorem length_of_attributeContent? {cs inner : List Char}
    (h : attributeContent? cs = some inner) :
  inner.length < cs.length
  := by
  obtain ⟨mid, rfl, -, -⟩ := attributeContent?_eq_some_iff.1 h
  rw [List.length_append, List.length_cons]
  omega

/-- The length of the text bounds the number of its attributes. -/
theorem attributeBodiesWithin_eq {m n : Nat} {cs : List Char} (hm : cs.length < m)
    (hn : cs.length < n) :
  attributeBodiesWithin m cs = attributeBodiesWithin n cs
  := by
  induction m generalizing n cs with
  | zero => contradiction
  | succ m ih =>
    cases n with
    | zero => contradiction
    | succ n =>
      rw [attributeBodiesWithin, attributeBodiesWithin]
      cases hcut : cutAt? attributeStart cs with
      | none => rfl
      | some parts =>
        obtain ⟨front, rest⟩ := parts
        have hrest := length_of_cutAt? hcut
        dsimp only
        cases hcontent : attributeContent? rest with
        | none => exact ih (by omega) (by omega)
        | some inner =>
          have hinner := length_of_attributeContent? hcontent
          dsimp only
          cases hclosing : Source.cutAtClosing? '(' ')' 1 inner with
          | none => rfl
          | some parts =>
            obtain ⟨body, after⟩ := parts
            have hlength : inner.length = body.length + after.length := by
              rw [Source.eq_of_cutAtClosing? hclosing, List.length_append]
            exact congrArg _ (ih (by omega) (by omega))

theorem attributeBodies_of_none {cs : List Char} (h : cutAt? attributeStart cs = none) :
  attributeBodies cs = []
  := by
  rw [attributeBodies, attributeBodiesWithin, h]

section

variable {cs front rest : List Char} (hcut : cutAt? attributeStart cs = some (front, rest))

include hcut

theorem attributeBodies_of_bare (hcontent : attributeContent? rest = none) :
  attributeBodies cs = attributeBodies rest
  := by
  have hrest := length_of_cutAt? hcut
  rw [attributeBodies, attributeBodiesWithin, hcut]
  dsimp only
  rw [hcontent]
  apply attributeBodiesWithin_eq hrest (Nat.lt_succ_self _)

theorem attributeBodies_of_unclosed {inner : List Char}
    (hcontent : attributeContent? rest = some inner)
    (hclosing : Source.cutAtClosing? '(' ')' 1 inner = none) :
  attributeBodies cs = []
  := by
  rw [attributeBodies, attributeBodiesWithin, hcut]
  dsimp only
  rw [hcontent]
  dsimp only
  rw [hclosing]

theorem attributeBodies_of_filled {inner body after : List Char}
    (hcontent : attributeContent? rest = some inner)
    (hclosing : Source.cutAtClosing? '(' ')' 1 inner = some (body, after)) :
  attributeBodies cs = body :: attributeBodies after
  := by
  have hrest := length_of_cutAt? hcut
  have hinner := length_of_attributeContent? hcontent
  have hlength : inner.length = body.length + after.length := by
    rw [Source.eq_of_cutAtClosing? hclosing, List.length_append]
  rw [attributeBodies, attributeBodiesWithin, hcut]
  dsimp only
  rw [hcontent]
  dsimp only
  rw [hclosing]
  exact congrArg _ (attributeBodiesWithin_eq (by omega) (Nat.lt_succ_self _))

end

/-- What is in front of the first attribute does not matter. -/
theorem attributeBodies_eq_of_cutAt? {cs cs' front front' rest : List Char}
    (h : cutAt? attributeStart cs = some (front, rest))
    (h' : cutAt? attributeStart cs' = some (front', rest)) :
  attributeBodies cs = attributeBodies cs'
  := by
  cases hcontent : attributeContent? rest with
  | none => rw [attributeBodies_of_bare h hcontent, attributeBodies_of_bare h' hcontent]
  | some inner =>
    cases hclosing : Source.cutAtClosing? '(' ')' 1 inner with
    | none =>
      rw [attributeBodies_of_unclosed h hcontent hclosing,
        attributeBodies_of_unclosed h' hcontent hclosing]
    | some parts =>
      rw [attributeBodies_of_filled h hcontent hclosing,
        attributeBodies_of_filled h' hcontent hclosing]

/-! ### Closed attributes -/

/-- Every attribute of accounts that begins in the text ends there, with a bracket if it has no
parentheses, and with its parentheses if it has some. -/
inductive AttributesClosed : List Char → Prop
  | none {cs : List Char} (h : cutAt? attributeStart cs = .none) : AttributesClosed cs
  | bare {cs front rest : List Char} (start : cutAt? attributeStart cs = some (front, rest))
    (content : attributeContent? rest = .none) (closed : ']' ∈ rest)
    (more : AttributesClosed rest) : AttributesClosed cs
  | filled {cs front rest inner body after : List Char}
    (start : cutAt? attributeStart cs = some (front, rest))
    (content : attributeContent? rest = some inner)
    (closed : Source.cutAtClosing? '(' ')' 1 inner = some (body, after))
    (more : AttributesClosed after) : AttributesClosed cs

theorem attributeContent?_append_of_some {cs inner : List Char}
    (h : attributeContent? cs = some inner) (more : List Char) :
  attributeContent? (cs ++ more) = some (inner ++ more)
  := by
  obtain ⟨mid, rfl, hmid⟩ := attributeContent?_eq_some_iff.1 h
  rw [attributeContent?_eq_some_iff]
  exact ⟨mid, by rw [List.append_assoc, List.cons_append], hmid⟩

theorem attributeContent?_append_of_none {cs : List Char} (h : attributeContent? cs = none)
    (hclosed : ']' ∈ cs) (more : List Char) :
  attributeContent? (cs ++ more) = none
  := by
  rw [attributeContent?] at h ⊢
  rw [List.dropWhile_append]
  cases hdrop : cs.dropWhile (fun c => c != '(' && c != ']') with
  | nil => simpa using List.dropWhile_eq_nil_iff.1 hdrop ']' hclosed
  | cons c r =>
    rw [hdrop] at h
    rw [List.isEmpty_cons, if_neg Bool.false_ne_true, List.cons_append]
    split at h
    · contradiction
    next hnot =>
      split
      next heq =>
        cases heq
        exact absurd rfl (hnot r)
      next => rfl

theorem suffix_of_cutAt? {cs front rest : List Char}
    (h : cutAt? attributeStart cs = some (front, rest)) :
  rest <:+ cs
  := ⟨front ++ attributeStart, (Text.eq_of_cutAt? h).symm⟩

theorem suffix_of_filled {rest inner body after : List Char}
    (hcontent : attributeContent? rest = some inner)
    (hclosing : Source.cutAtClosing? '(' ')' 1 inner = some (body, after)) :
  after <:+ rest
  := by
  obtain ⟨mid, rfl, -, -⟩ := attributeContent?_eq_some_iff.1 hcontent
  rw [Source.eq_of_cutAtClosing? hclosing]
  exact ⟨mid ++ '(' :: body, by simp⟩

/-- Behind closed attributes the search begins anew. -/
theorem attributeBodies_append {cs more : List Char} (h : AttributesClosed cs)
    (hparted : Parted attributeStart cs more) :
  attributeBodies (cs ++ more) = attributeBodies cs ++ attributeBodies more
  := by
  induction h with
  | none hnone =>
    have hcut := Text.cutAt?_append_of_none hnone hparted
    rw [attributeBodies_of_none hnone, List.nil_append]
    cases hmore : cutAt? attributeStart more with
    | none =>
      rw [hmore] at hcut
      rw [attributeBodies_of_none hmore, attributeBodies_of_none hcut]
    | some parts =>
      rw [hmore] at hcut
      exact attributeBodies_eq_of_cutAt? hcut hmore
  | bare hstart hcontent hclosed _ ih =>
    rw [attributeBodies_of_bare (Text.cutAt?_append_of_some hstart more)
      (attributeContent?_append_of_none hcontent hclosed more),
      attributeBodies_of_bare hstart hcontent]
    apply ih (hparted.of_suffix (suffix_of_cutAt? hstart))
  | filled hstart hcontent hclosed _ ih =>
    have hsuffix := (suffix_of_filled hcontent hclosed).trans (suffix_of_cutAt? hstart)
    rw [attributeBodies_of_filled (Text.cutAt?_append_of_some hstart more)
      (attributeContent?_append_of_some hcontent more) (Source.cutAtClosing?_append hclosed more),
      attributeBodies_of_filled hstart hcontent hclosed, List.cons_append,
      ih (hparted.of_suffix hsuffix)]

/-- Behind closed attributes constraints are read anew. -/
theorem constraints_append {cs more : List Char} (h : AttributesClosed cs)
    (hparted : Parted attributeStart cs more) :
  constraints (cs ++ more) = constraints cs ++ constraints more
  := by
  rw [constraints, attributeBodies_append h hparted, List.flatMap_append]
  rfl

/-- Where no attribute begins there are no constraints. -/
theorem constraints_append_of_notInfix {cs more : List Char} (h : ¬ attributeStart <:+: cs)
    (hparted : Parted attributeStart cs more) :
  constraints (cs ++ more) = constraints more
  := by
  have hnone : cutAt? attributeStart cs = none := Text.cutAt?_eq_none_iff.2 h
  rw [constraints_append (.none hnone) hparted, constraints, attributeBodies_of_none hnone]
  rfl

end AnchorIndex.Account

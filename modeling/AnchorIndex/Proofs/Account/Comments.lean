import AnchorIndex.Account.Field
import AnchorIndex.Proofs.Account.Attributes
import AnchorIndex.Proofs.Source.Comments
import AnchorIndex.Proofs.Source.Hiding

/-!
# Comments in account fields

The declaration of an account field is looked for in the masked text, and its attributes in the
text as it stands. So a comment never changes the name and the type of a field, but an attribute
in a comment counts (`commented_attribute_counts`). A comment that stands outside the attributes
and in which none begins does not change the field (`field_blank_comment`).
-/

namespace AnchorIndex.Account

open Source (IsComment ReadsCode blank)
open Text (Parted)

/-- Fields with the same masked text declare the same. -/
theorem declaration?_eq_of_mask_eq {t₁ t₂ : List Char} (h : Source.mask t₁ = Source.mask t₂) :
  declaration? t₁ = declaration? t₂
  := by
  rw [declaration?, declaration?, Source.maskLines_eq_of_mask_eq h]

theorem solid_of_mem_attributeStart {c : Char} (h : c ∈ attributeStart) :
  Text.isBlank c = false
  := by
  have hall : attributeStart.all (fun c => !Text.isBlank c) = true := by decide
  simpa using List.all_eq_true.1 hall c h

theorem notMem_attributeStart_of_isBlank {c : Char} (h : Text.isBlank c = true) :
  c ∉ attributeStart
  := by
  intro hmem
  rw [solid_of_mem_attributeStart hmem] at h
  contradiction

/-- No attribute begins in front of a comment and ends in it. -/
theorem parted_comment {comment back : List Char} (h : IsComment comment back)
    (front : List Char) :
  Parted attributeStart front (comment ++ back)
  := by
  obtain ⟨x, rest, rfl, -⟩ := h.exists_eq_cons
  right
  intro c hc
  cases hc
  decide

theorem parted_blank_comment {comment back : List Char} (h : IsComment comment back)
    (front : List Char) :
  Parted attributeStart front (comment.map blank ++ back)
  := by
  obtain ⟨x, rest, rfl, -⟩ := h.exists_eq_cons
  right
  intro c hc
  cases hc
  decide

/-- No attribute begins in a comment and ends behind it. -/
theorem parted_of_isComment {comment back : List Char} (h : IsComment comment back) :
  Parted attributeStart comment back
  := by
  cases h with
  | line _ hback =>
    right
    intro c hc
    rw [hback c hc]
    decide
  | block _ _ =>
    left
    intro c hc
    rw [← List.cons_append, ← List.cons_append, List.getLast?_append] at hc
    cases hc
    decide
  | unclosed _ =>
    right
    intro c hc
    cases hc

/-- No attribute begins in blanks. -/
theorem constraints_blank_append {blanks : List Char} (h : Text.allBlank blanks = true)
    (back : List Char) :
  constraints (blanks ++ back) = constraints back
  := by
  have hnone : ∀ c ∈ blanks, c ∉ attributeStart :=
    fun c hc => notMem_attributeStart_of_isBlank (Text.allBlank_iff.1 h c hc)
  apply constraints_append_of_notInfix
  · intro hoccurs
    have hhash : '#' ∈ attributeStart := by decide
    apply hnone '#' (hoccurs.subset hhash) hhash
  · exact .inl fun c hc => hnone c (List.mem_of_getLast? hc)

/-- Blanking a comment does not change what the field declares. Behind closed attributes the
constraints are those in front of the comment and those that the comment and what is behind it
would have on their own, with the comment blanked those in front of it and behind it. So a comment
in which no attribute begins can be blanked without a change of the field. -/
theorem field_blank_comment {front comment back : List Char} (hcomment : IsComment comment back)
    (hfront : ReadsCode front (comment ++ back)) :
  declaration? (front ++ (comment.map blank ++ back)) = declaration? (front ++ (comment ++ back))
  ∧ (AttributesClosed front →
      constraints (front ++ (comment ++ back)) = constraints front ++ constraints (comment ++ back)
      ∧ constraints (front ++ (comment.map blank ++ back)) = constraints front ++ constraints back
      ∧ (¬ attributeStart <:+: comment →
          Field.ofText? (front ++ (comment.map blank ++ back))
            = Field.ofText? (front ++ (comment ++ back))))
  := by
  have hdeclaration := declaration?_eq_of_mask_eq (Source.mask_blank_comment hcomment hfront)
  use hdeclaration
  intro hclosed
  have hconstraints := constraints_append hclosed (parted_comment hcomment front)
  have hblanks : constraints (front ++ (comment.map blank ++ back))
      = constraints front ++ constraints back := by
    rw [constraints_append hclosed (parted_blank_comment hcomment front),
      constraints_blank_append (Source.allBlank_map_blank comment)]
  refine ⟨hconstraints, hblanks, ?_⟩
  intro hnone
  rw [Field.ofText?, Field.ofText?, hdeclaration, hconstraints, hblanks,
    constraints_append_of_notInfix hnone (parted_of_isComment hcomment)]

/-- The field of a payer, with a comment between its attribute and its declaration. The comment
holds an apostrophe, an open bracket and a declaration. -/
theorem field_blank_comment_payer :
  let front := "#[account(mut)]\n".toList
  let comment := "/// the payer's (payer: Vault) [".toList
  let back := "\npub payer: Signer<'info>,".toList
  IsComment comment back ∧ ReadsCode front (comment ++ back) ∧ AttributesClosed front
  ∧ ¬ attributeStart <:+: comment
  ∧ Field.ofText? (front ++ (comment.map blank ++ back))
    = Field.ofText? (front ++ (comment ++ back))
  := by
  intro front comment back
  have hcomment : IsComment comment back := by
    apply IsComment.line (by decide)
    intro c hc
    cases hc
    rfl
  have hfront : ReadsCode front (comment ++ back) := by decide +kernel
  have hclosed : AttributesClosed front :=
    .filled rfl rfl rfl (.none rfl)
  have hnone : ¬ attributeStart <:+: comment := by decide +kernel
  obtain ⟨-, hfield⟩ := field_blank_comment hcomment hfront
  exact ⟨hcomment, hfront, hclosed, hnone, (hfield hclosed).2.2 hnone⟩

/-- An attribute in a comment makes the account one that is changed, and a comment in an attribute
makes it one that is not. With the comment blanked it is the other way round. -/
theorem commented_attribute_counts :
  let isMut := fun text => (Field.ofText? text).map Field.isMut
  (let comment := "// #[account(mut)]".toList
    let back := "\npub a: Signer<'info>,".toList
    IsComment comment back ∧ ReadsCode [] (comment ++ back)
    ∧ isMut (comment ++ back) = some true ∧ isMut (comment.map blank ++ back) = some false)
  ∧ (let front := "#[account(mut ".toList
    let comment := "/* */".toList
    let back := ")]\npub a: Signer<'info>,".toList
    IsComment comment back ∧ ReadsCode front (comment ++ back)
    ∧ isMut (front ++ (comment ++ back)) = some false
    ∧ isMut (front ++ (comment.map blank ++ back)) = some true)
  := by
  intro isMut
  have hbody : (Source.CommentBody.plain ' ' .done).Fits := by decide
  refine ⟨⟨.line (by decide) ?_, by decide +kernel, by decide +kernel, by decide +kernel⟩,
    .block hbody _, by decide +kernel, by decide +kernel, by decide +kernel⟩
  intro c hc
  cases hc
  rfl

end AnchorIndex.Account

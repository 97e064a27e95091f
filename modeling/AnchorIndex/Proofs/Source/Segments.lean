import AnchorIndex.Source.Mask
import Mathlib.Data.List.Infix

/-!
# Segments of source texts

A source text is made of segments (`Segment`): program text, comments and text literals. A segment
has a text and a masked text. In front of some texts and behind others it would not be read as
this segment; `Segment.Fits` says between which texts it stands as it is, and `Fitting` that each
segment of a list does. Nothing here refers to the way in which a text is masked.
-/

namespace AnchorIndex.Source

/-- A blank in the place of a character. A line feed stays. -/
def blank (c : Char) : Char :=
  if c = '\n' then '\n' else ' '

@[simp]
theorem blank_newline :
  blank '\n' = '\n'
  :=
  rfl

theorem blank_eq_space {c : Char} (h : c ≠ '\n') :
  blank c = ' '
  := if_neg h

/-! ### Comments and literals -/

/-- What stands in a block comment: characters and other block comments. -/
inductive CommentBody where
  | done
  | plain (c : Char) (rest : CommentBody)
  | nested (inner rest : CommentBody)

/-- The text of a comment body, without the delimiters of the comment. -/
def CommentBody.text : CommentBody → List Char
  | done => []
  | plain c rest => c :: rest.text
  | nested inner rest => '/' :: '*' :: inner.text ++ '*' :: '/' :: rest.text

/-- No plain character of a comment body belongs to a delimiter. The one after the body is that of
the comment itself. -/
def CommentBody.Fits : CommentBody → Prop
  | done => True
  | plain c rest =>
    (¬ ['*', '/'] <+: c :: rest.text ++ ['*', '/']) ∧ (¬ ['/', '*'] <+: c :: rest.text ++ ['*', '/'])
      ∧ rest.Fits
  | nested inner rest => inner.Fits ∧ rest.Fits

instance CommentBody.decidableFits : (body : CommentBody) → Decidable body.Fits
  | done => .isTrue trivial
  | plain _ rest =>
    have := rest.decidableFits
    inferInstanceAs (Decidable (_ ∧ _ ∧ _))
  | nested inner rest =>
    have := inner.decidableFits
    have := rest.decidableFits
    inferInstanceAs (Decidable (_ ∧ _))

/-- A piece of a text literal: a character for itself, or one behind a backslash. -/
inductive Piece where
  | plain (c : Char) (ne_quote : c ≠ '"') (ne_backslash : c ≠ '\\')
  | escaped (c : Char)

/-- The text of a piece. -/
def Piece.text : Piece → List Char
  | plain c _ _ => [c]
  | escaped c => ['\\', c]

/-- The opening of a raw literal before its quote. -/
def rawOpening (byte : Bool) (hashes : Nat) : List Char :=
  (if byte then ['b', 'r'] else ['r']) ++ List.replicate hashes '#'

/-- The last character of a text is one of a word. -/
def EndsInWord (cs : List Char) : Prop :=
  ∃ c ∈ cs.getLast?, Text.isWordChar c

instance (cs : List Char) : Decidable (EndsInWord cs) :=
  Option.decidableExistsMem cs.getLast?

/-- The text ends with the opening of a raw literal. -/
def EndsInOpening (cs : List Char) : Prop :=
  ∃ start byte hashes, cs = start ++ rawOpening byte hashes ∧ ¬ EndsInWord start

theorem endsInOpening_iff {cs : List Char} :
  EndsInOpening cs
    ↔ ∃ hashes ∈ List.range (cs.length + 1), ∃ byte ∈ [false, true],
        rawOpening byte hashes <:+ cs
          ∧ ¬ EndsInWord (cs.take (cs.length - (rawOpening byte hashes).length))
  := by
  constructor
  · rintro ⟨start, byte, hashes, rfl, hword⟩
    refine ⟨hashes, ?_, byte, by cases byte <;> simp, List.suffix_append _ _, ?_⟩
    · rw [List.mem_range]
      simp [rawOpening]
      omega
    · simpa using hword
  · rintro ⟨hashes, -, byte, -, ⟨start, rfl⟩, hword⟩
    exact ⟨start, byte, hashes, rfl, by simpa using hword⟩

instance (cs : List Char) : Decidable (EndsInOpening cs) :=
  decidable_of_iff _ endsInOpening_iff.symm

/-! ### Segments -/

/-- A segment of a source text. -/
inductive Segment where
  /-- Program text. -/
  | code (cs : List Char)
  /-- Two slashes and what follows on the line. -/
  | lineComment (cs : List Char)
  | blockComment (body : CommentBody)
  | literal (pieces : List Piece)
  | rawLiteral (byte : Bool) (hashes : Nat) (content : List Char)

namespace Segment

/-- The text of a segment. -/
def text : Segment → List Char
  | code cs => cs
  | lineComment cs => '/' :: '/' :: cs
  | blockComment body => '/' :: '*' :: body.text ++ ['*', '/']
  | literal pieces => '"' :: pieces.flatMap Piece.text ++ ['"']
  | rawLiteral byte hashes content =>
    rawOpening byte hashes ++ '"' :: content ++ '"' :: List.replicate hashes '#'

/-- The masked text of a segment: program text stays, and so do the delimiters of literals. All
else is blank. -/
def masked : Segment → List Char
  | code cs => cs
  | lineComment cs => ('/' :: '/' :: cs).map blank
  | blockComment body => ('/' :: '*' :: body.text ++ ['*', '/']).map blank
  | literal pieces => '"' :: (pieces.flatMap Piece.text).map blank ++ ['"']
  | rawLiteral byte hashes content =>
    rawOpening byte hashes ++ '"' :: content.map blank ++ '"' :: List.replicate hashes '#'

/-- The segment is read as this segment between the texts `before` and `after`. Program text has
no quotes, and no comment begins in it. A line comment goes on to the end of its line. The quote
of a literal does not belong to the opening of a raw literal. A raw literal is not part of a word,
and its content has no text that would close it. -/
def Fits (before after : List Char) : Segment → Prop
  | code cs =>
    '"' ∉ cs ∧ '\'' ∉ cs ∧ (¬ ['/', '/'] <:+: cs ++ after.take 1)
      ∧ ¬ ['/', '*'] <:+: cs ++ after.take 1
  | lineComment cs => '\n' ∉ cs ∧ ∀ c ∈ after.head?, c = '\n'
  | blockComment body => body.Fits
  | literal _ => ¬ EndsInOpening before
  | rawLiteral _ hashes content =>
    (¬ EndsInWord before) ∧ ¬ '"' :: List.replicate hashes '#' <:+: content

instance decidableFits (before after : List Char) : (s : Segment) → Decidable (s.Fits before after)
  | code _ => inferInstanceAs (Decidable (_ ∧ _ ∧ _ ∧ _))
  | lineComment _ =>
    -- one character is looked at, not each that there is
    have : Decidable (∀ c ∈ after.head?, c = '\n') := Option.decidableForallMem after.head?
    inferInstanceAs (Decidable (_ ∧ _))
  | blockComment body => inferInstanceAs (Decidable body.Fits)
  | literal _ => inferInstanceAs (Decidable (¬ _))
  | rawLiteral _ _ _ => inferInstanceAs (Decidable (_ ∧ _))

end Segment

/-- Each of the segments that follow the text `before` is read as it is. -/
def Fitting (before : List Char) : List Segment → Prop
  | [] => True
  | s :: rest =>
    s.Fits before (rest.flatMap Segment.text) ∧ Fitting (before ++ s.text) rest

instance decidableFitting (before : List Char) :
    (segments : List Segment) → Decidable (Fitting before segments)
  | [] => .isTrue trivial
  | s :: rest =>
    have := decidableFitting (before ++ s.text) rest
    inferInstanceAs (Decidable (_ ∧ _))

end AnchorIndex.Source

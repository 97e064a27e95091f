/-!
# Lines

A text is cut at every occurrence of one character (`splitAt`), at line feeds in particular
(`lines`), and put together again (`joinWith`, `unlines`). A file written on another system
may end its lines with a carriage return as well: `foldNewlines` makes every ending a line feed.
-/

namespace AnchorIndex.Text

/-- One more character in front of the pieces of a text cut at `sep`. -/
def consPiece (sep : Char) (c : Char) : List (List Char) → List (List Char)
  | [] => if c = sep then [[], []] else [[c]]
  | p :: ps => if c = sep then [] :: p :: ps else (c :: p) :: ps

/-- The pieces of the text between the occurrences of `sep`, one more than there are
occurrences. -/
def splitAt (sep : Char) (cs : List Char) : List (List Char) :=
  cs.foldr (consPiece sep) [[]]

/-- The pieces with `sep` between each two. -/
def joinWith (sep : Char) (ps : List (List Char)) : List Char :=
  [sep].intercalate ps

/-- The lines of a text. Only a line feed ends a line. -/
def lines (cs : List Char) : List (List Char) :=
  splitAt '\n' cs

/-- The text with the given lines. -/
def unlines (ls : List (List Char)) : List Char :=
  joinWith '\n' ls

@[simp] theorem splitAt_nil (sep : Char) :
  splitAt sep [] = [[]]
  := rfl

theorem splitAt_cons (sep c : Char) (cs : List Char) :
  splitAt sep (c :: cs) = consPiece sep c (splitAt sep cs)
  := rfl

/-- A text has at least one piece. -/
theorem splitAt_ne_nil (sep : Char) (cs : List Char) :
  splitAt sep cs ≠ []
  := by
  induction cs with
  | nil => simp
  | cons c r ih =>
    rw [splitAt_cons]
    match h : splitAt sep r with
    | [] => exact absurd h ih
    | p :: ps => by_cases hc : c = sep <;> simp [consPiece, hc]

/-- Joining undoes splitting. -/
theorem joinWith_splitAt (sep : Char) (cs : List Char) :
  joinWith sep (splitAt sep cs) = cs
  := by
  induction cs with
  | nil => rfl
  | cons c r ih =>
    rw [splitAt_cons]
    match h : splitAt sep r with
    | [] => exact absurd h (splitAt_ne_nil sep r)
    | p :: ps =>
      rw [h] at ih
      by_cases hc : c = sep
      · subst hc
        simp only [consPiece, if_true]
        simpa [joinWith, List.intercalate, List.intersperse] using ih
      · cases ps <;> simp_all [consPiece, joinWith, List.intercalate, List.intersperse]

/-- One more character in front of a text whose line endings are folded; the flag tells whether
the text as it stands starts with a line feed. -/
def consFolded (c : Char) : Bool × List Char → Bool × List Char
  | (beforeFeed, cs) =>
    if c = '\r' then (false, if beforeFeed then cs else '\n' :: cs)
    else (c == '\n', c :: cs)

/-- The text with each carriage return, alone or together with a line feed after it, made one
line feed. -/
def foldNewlines (cs : List Char) : List Char :=
  (cs.foldr consFolded (false, [])).2

end AnchorIndex.Text

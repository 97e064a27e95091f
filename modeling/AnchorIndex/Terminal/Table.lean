import AnchorIndex.Terminal.Markup
import AnchorIndex.Terminal.Screen

/-!
# Tables

A column has a number of cells. `measure` tells how many a text asks for, and `linesIn` lays it on
lines in a column: words go on a line as long as they fit, and what is still too wide is cut and
ends in an ellipsis. Blanks stay with the word before them.

A table is shown in columns that are as wide as their widest cell asks for, with two spaces between
them. Cells lose their tags before they are measured. A cell that takes several lines makes its row
as high.
-/

namespace AnchorIndex.Terminal

/-! ### Measuring -/

/-- The character separates lines when a text is measured. -/
def isSeparator (c : Char) : Bool :=
  let n := c.toNat
  (0xA ≤ n && n ≤ 0xD) || (0x1C ≤ n && n ≤ 0x1E) || n == 0x85 || n == 0x2028 || n == 0x2029

/-- The cells that a text asks for: as many as its widest line takes. -/
def measure (cs : List Char) : Nat :=
  let lines := Text.splitAt '\n' (cs.map fun c => if isSeparator c then '\n' else c)
  lines.foldl (fun w line => max w (Text.width line)) 0

/-! ### Words with their blanks -/

/-- Pieces of two runs each. -/
def joinRuns : List (List Char) → List (List Char)
  | word :: blanks :: rest => (word ++ blanks) :: joinRuns rest
  | rest => rest

/-- The words of a line, each with the blanks after it, and the first with those before it. A line
of blanks has no words. -/
def wordPieces (line : List Char) : List (List Char) :=
  match line.splitBy fun c d => Text.isBlank c == Text.isBlank d with
  | [] => []
  | run :: rest =>
    if Text.allBlank run then
      match rest with
      | [] => []
      | word :: rest => joinRuns ((run ++ word) :: rest)
    else joinRuns (run :: rest)

/-- Joining runs loses no character. -/
theorem flatten_joinRuns (runs : List (List Char)) :
  (joinRuns runs).flatten = runs.flatten
  := by
  fun_induction joinRuns runs with
  | case1 word blanks rest ih => simp [ih]
  | case2 => rfl

/-! ### Laying words on lines -/

/-- Lays words on lines of a column, where the line that is being filled takes `used` cells. -/
def layWords (size : Nat) (line : List Char) (used : Nat) : List (List Char) → List (List Char)
  | [] => [line]
  | word :: rest =>
    if used + Text.width (Text.stripRight word) ≤ size || line.isEmpty then
      layWords size (line ++ word) (used + Text.width word) rest
    else line :: layWords size word (Text.width word) rest

/-- The lines together are the words. -/
theorem flatten_layWords (size : Nat) (line : List Char) (used : Nat) (words : List (List Char)) :
  (layWords size line used words).flatten = line ++ words.flatten
  := by
  induction words generalizing line used with
  | nil => simp [layWords]
  | cons word rest ih =>
    rw [layWords]
    split <;> simp [ih]

/-- A line without the blanks at its end that are past the column, counted in characters. -/
def cropEnd (size : Nat) (line : List Char) : List Char :=
  let blanks := (line.reverse.takeWhile Text.isBlank).length
  line.take (line.length - min blanks (line.length - size))

/-- The front of a text that takes a number of cells; a space stands for half of a wide
character. -/
def cut (size : Nat) (cs : List Char) : List Char :=
  let fitting := (List.range (cs.length + 1)).filter fun n => Text.width (cs.take n) ≤ size
  let front := cs.take (fitting.getLast?.getD 0)
  front ++ List.replicate (size - Text.width front) ' '

/-- A line that is too wide for a column is cut. -/
def shorten (size : Nat) (line : List Char) : List Char :=
  if Text.width line ≤ size then line else cut (size - 1) line ++ ['…']

/-- The lines of a text in a column. -/
def linesIn (size : Nat) (cs : List Char) : List (List Char) :=
  (Text.splitAt '\n' cs).flatMap fun line =>
    let line := expandTabs line
    let laid :=
      match wordPieces line with
      | [] => [line]
      | words => layWords size [] 0 words
    laid.map fun line => shorten size (cropEnd size line)

/-! ### Tables -/

/-- A column with its title; the cells of a number column stand at its right side. -/
structure Column where
  title : String
  isNumber : Bool

/-- A table with its rows. The titles may be left out. -/
structure Table where
  columns : List Column
  hasTitles : Bool
  rows : List (List String)

/-! ### Cells -/

/-- A line of a cell filled up with spaces. -/
def fill (isNumber : Bool) (size : Nat) (line : List Char) : List Char :=
  let spaces := List.replicate (size - Text.width line) ' '
  if isNumber then spaces ++ line else line ++ spaces

/-- A filled line is as wide as its column, unless marks in it reach past its end. -/
theorem width_fill {isNumber : Bool} {size : Nat} {line : List Char}
    (h : Text.width line ≤ size) (marks : ∀ c ∈ line, c ≠ Text.joiner ∧ c ≠ Text.pictureMark) :
  Text.width (fill isNumber size line) = size
  := by
  have spaces : ∀ n, ∀ c ∈ List.replicate n ' ', c ≠ Text.joiner ∧ c ≠ Text.pictureMark := by
    intro n c hc
    rw [List.eq_of_mem_replicate hc]
    decide
  have all : ∀ c ∈ fill isNumber size line, c ≠ Text.joiner ∧ c ≠ Text.pictureMark := by
    intro c hc
    cases isNumber <;> simp only [fill, Bool.false_eq_true, if_true, if_false, List.mem_append] at hc
    · exact hc.elim (marks c) (spaces _ c)
    · exact hc.elim (spaces _ c) (marks c)
  rw [Text.width_eq_sum all]
  have own := Text.width_eq_sum marks
  cases isNumber <;> simp [fill, Text.sumOfCells_append, Text.sumOfCells_spaces] <;> omega

/-- The greatest of the widths that some cells ask for. -/
def widest (cells : List (List Char)) : Nat :=
  cells.foldl (fun w c => max w (measure c)) 0

/-- The lines of a cell in a column of a size, filled up to a height. -/
def cellLines (column : Column) (size height : Nat) (cell : List Char) : List (List Char) :=
  let lines := linesIn size cell
  (lines ++ List.replicate (height - lines.length) []).map (fill column.isNumber size)

/-! ### Rows -/

/-- The rows of a table, with its titles, without tags. -/
def Table.cells (t : Table) : Except Failure (List (List (List Char))) :=
  let titles := if t.hasTitles then [t.columns.map (·.title)] else []
  (titles ++ t.rows).mapM fun row => row.mapM shownText

/-- The lines of a row of cells in columns of some sizes. -/
def rowLines (columns : List Column) (sizes : List Nat) (row : List (List Char)) :
    List (List Char) :=
  let heights := (sizes.zip row).map fun (size, cell) => (linesIn size cell).length
  let height := heights.foldl max 1
  let filled := (columns.zip (sizes.zip row)).map fun (column, size, cell) =>
    cellLines column size height cell
  (List.range height).map fun i =>
    [' ', ' '].intercalate (filled.map fun lines => lines.getD i [])

/-- The lines of a table. -/
def Table.lines (t : Table) : Except Failure (List String) :=
  t.cells.map fun rows =>
    let sizes := (List.range t.columns.length).map fun i =>
      widest (rows.map fun row => row.getD i [])
    (rows.flatMap (rowLines t.columns sizes)).map String.ofList

/-- Shows a table on the error stream. -/
def Table.print (t : Table) : Screen.Action Unit := do
  match t.lines with
  | .ok lines =>
    modify fun s => { s with errors := s.errors ++ String.join (lines.map (· ++ "\n")) }
  | .error f => throw f

end AnchorIndex.Terminal

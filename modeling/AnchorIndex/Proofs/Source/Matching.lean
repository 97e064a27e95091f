import AnchorIndex.Source.Boundary
import Mathlib.Data.List.Basic

/-!
# Constructs by their matching braces

Where a construct ends is told by the characters since the start of its header line: it ends at
the first semicolon outside parentheses before its body, at a brace that closes a block around it,
or at the brace that closes its body (`ending?`). What a scan finds with its running depth is what
one finds by reading on from each header to the first ending (`matched`, `findings_eq_matched`),
whatever braces stand before, between and after the constructs.
-/

namespace AnchorIndex.Source

/-! ### Endings -/

/-- How a construct ends. -/
inductive Ending where
  /-- At a semicolon, without a body. -/
  | semicolon
  /-- Before its body, at a brace that closes a block around it. -/
  | stray
  /-- At the brace that closes its body. -/
  | closed
  deriving DecidableEq, Repr

/-- The number of parentheses and brackets that a text opens, less those that it closes. -/
def unclosed (cs : List Char) : Int :=
  (cs.count '(' : Int) + cs.count '[' - cs.count ')' - cs.count ']'

/-- How a construct ends at a character, if it does, given the characters from the start of its
header line up to this one. -/
def ending? (read : List Char) (c : Char) : Option Ending :=
  if c = ';' ∧ '{' ∉ read ∧ '}' ∉ read ∧ unclosed read ≤ 0 then some .semicolon
  else if c = '}' ∧ '{' ∉ read then some .stray
  else if c = '}' ∧ (read ++ [c]).count '{' = (read ++ [c]).count '}' then some .closed
  else none

/-- The characters of lines, each with the index of its line. The first line has index `index`. -/
def charsFrom (index : Nat) : List (List Char) → List (Nat × Char)
  | [] => []
  | line :: rest => line.map (index, ·) ++ charsFrom (index + 1) rest

/-- The first ending among characters that follow the characters `read` of a construct, with the
index of its line. -/
def firstEnding? (read : List Char) : List (Nat × Char) → Option (Ending × Nat)
  | [] => none
  | (index, c) :: rest =>
    match ending? read c with
    | some ending => some (ending, index)
    | none => firstEnding? (read ++ [c]) rest

/-- What is found when a construct ends on line `stop`. -/
def Ending.finding? (bodiless : Bool) (name : String) (start stop : Nat) :
    Ending → Option Finding
  | semicolon => if bodiless then some (.block name start stop) else none
  | stray => some (.gap name start)
  | closed => some (.block name start stop)

/-- The constructs and gaps in masked lines, the first of which has index `index`: from each
header up to the first ending, and on from the line after it. -/
def matched (target : Target) (index : Nat) : List (List Char) → List Finding
  | [] => []
  | line :: rest =>
    match target.header? (Text.strip line) with
    | none => matched target (index + 1) rest
    | some name =>
      match firstEnding? [] (charsFrom index (line :: rest)) with
      | none => [.gap name index]
      | some (ending, stop) =>
        (ending.finding? target.bodiless name index stop).toList ++
          matched target (stop + 1) (rest.drop (stop - index))
termination_by lines => lines.length
decreasing_by
  · simp
  · simp only [List.length_drop, List.length_cons]
    omega

theorem firstEnding?_append (read : List Char) (a b : List (Nat × Char)) :
  firstEnding? read (a ++ b)
    = (firstEnding? read a).or (firstEnding? (read ++ a.map Prod.snd) b)
  := by
  induction a generalizing read with
  | nil => simp [firstEnding?]
  | cons p a ih =>
    obtain ⟨index, c⟩ := p
    rw [List.cons_append, firstEnding?, firstEnding?]
    cases ending? read c with
    | some ending => rfl
    | none => simp [ih, List.append_assoc]

/-- The line of an ending is the line of a character. -/
theorem mem_of_firstEnding? {read : List Char} {cs : List (Nat × Char)} {ending : Ending}
    {stop : Nat} (h : firstEnding? read cs = some (ending, stop)) :
  stop ∈ cs.map Prod.fst
  := by
  induction cs generalizing read with
  | nil => contradiction
  | cons p cs ih =>
    obtain ⟨index, c⟩ := p
    rw [firstEnding?] at h
    split at h
    · cases h
      apply List.mem_cons_self
    · apply List.mem_cons_of_mem index (ih h)

theorem mem_charsFrom_iff {index : Nat} {lines : List (List Char)} {i : Nat} {c : Char} :
  (i, c) ∈ charsFrom index lines ↔ index ≤ i ∧ ∃ line, lines[i - index]? = some line ∧ c ∈ line
  := by
  induction lines generalizing index with
  | nil => simp [charsFrom]
  | cons line rest ih =>
    rw [charsFrom, List.mem_append, ih]
    constructor
    · rintro (h | ⟨hle, line', hline, hc⟩)
      · obtain ⟨c', hc', heq⟩ := List.mem_map.1 h
        cases heq
        simpa using hc'
      · refine ⟨by omega, line', ?_, hc⟩
        have hsub : i - index = (i - (index + 1)) + 1 := by omega
        rw [hsub, List.getElem?_cons_succ, hline]
    · rintro ⟨hle, line', hline, hc⟩
      obtain heq | hlt := Nat.eq_or_lt_of_le hle
      · subst heq
        left
        rw [Nat.sub_self, List.getElem?_cons_zero] at hline
        cases hline
        apply List.mem_map.2 ⟨c, hc, rfl⟩
      · right
        have hsub : i - index = (i - (index + 1)) + 1 := by omega
        rw [hsub, List.getElem?_cons_succ] at hline
        exact ⟨hlt, line', hline, hc⟩

/-- An ending is not on a line before the first one. -/
theorem le_of_firstEnding? {read : List Char} {index : Nat} {lines : List (List Char)}
    {ending : Ending} {stop : Nat}
    (h : firstEnding? read (charsFrom index lines) = some (ending, stop)) :
  index ≤ stop
  := by
  obtain ⟨⟨i, c⟩, hp, rfl⟩ := List.mem_map.1 (mem_of_firstEnding? h)
  exact (mem_charsFrom_iff.1 hp).1

/-! ### Reading an open construct -/

/-- The open construct and the depth are those that a scan has after the characters `read` of the
construct. -/
structure Opened.Follows (o : Opened) (read : List Char) (depth : Int) : Prop where
  braced_iff : o.braced = true ↔ '{' ∈ read
  depth_eq : depth = o.baseline + read.count '{' - read.count '}'
  unbraced : '{' ∉ read → '}' ∉ read ∧ o.nesting = unclosed read
  lt : '{' ∈ read → read.count '}' < read.count '{'

theorem Opened.follows_nil (name : String) (start : Nat) (depth : Int) :
  Opened.Follows ⟨name, start, depth, false, 0⟩ [] depth
  := by
  constructor
  · simp
  · simp
  · simp [unclosed]
  · simp

section

variable {s : Scan} {o : Opened} {read : List Char}

theorem Opened.Follows.openBrace (h : o.Follows read s.depth) :
  Opened.Follows { o with braced := true } (read ++ ['{']) (s.depth + 1)
  := by
  have hdepth := h.depth_eq
  constructor
  · simp
  · simp only [List.count_append, List.count_singleton]
    simp
    omega
  · simp
  · intro _
    simp only [List.count_append, List.count_singleton]
    by_cases hmem : '{' ∈ read
    · have := h.lt hmem
      simp
      omega
    · have := List.count_eq_zero.2 (h.unbraced hmem).1
      simp
      omega

/-- A closing brace inside the body is read on. -/
theorem Opened.Follows.closeBrace (h : o.Follows read s.depth) (hmem : '{' ∈ read)
    (hcount : read.count '{' ≠ read.count '}' + 1) :
  o.Follows (read ++ ['}']) (s.depth - 1)
  := by
  have hdepth := h.depth_eq
  have hlt := h.lt hmem
  constructor
  · simp [h.braced_iff]
  · simp [List.count_append]
    omega
  · simp [hmem]
  · intro _
    simp [List.count_append]
    omega

/-- A character that is no brace, and no semicolon that ends the construct, is read on. -/
theorem Opened.Follows.other (h : o.Follows read s.depth) {c : Char} (hopen : c ≠ '{')
    (hclose : c ≠ '}') {nesting : Int}
    (hnesting : '{' ∉ read → nesting = unclosed (read ++ [c])) :
  Opened.Follows { o with nesting := nesting } (read ++ [c]) s.depth
  := by
  have hcount : (read ++ [c]).count '{' = read.count '{' ∧
      (read ++ [c]).count '}' = read.count '}' := by
    simp [List.count_append, hopen, hclose]
  have hmem : '{' ∈ read ++ [c] ↔ '{' ∈ read := by simp [Ne.symm hopen]
  constructor
  · rw [hmem]
    apply h.braced_iff
  · rw [hcount.1, hcount.2]
    apply h.depth_eq
  · rw [hmem]
    intro hread
    exact ⟨by simp [(h.unbraced hread).1, Ne.symm hclose], hnesting hread⟩
  · rw [hmem, hcount.1, hcount.2]
    apply h.lt

theorem Opened.Follows.braced_eq (h : o.Follows read s.depth) :
  o.braced = decide ('{' ∈ read)
  := by
  rw [Bool.eq_iff_iff, h.braced_iff, decide_eq_true_eq]

theorem feed_other (hs : s.current = some o) {c : Char} (hopen : c ≠ '{') (hclose : c ≠ '}')
    (bodiless : Bool) (index : Nat) :
  s.feed bodiless index c
    = if o.braced then s
      else if c = '(' ∨ c = '[' then { s with current := some { o with nesting := o.nesting + 1 } }
      else if c = ')' ∨ c = ']' then { s with current := some { o with nesting := o.nesting - 1 } }
      else if c = ';' ∧ o.nesting ≤ 0 then
        { s with
          current := none
          found := if bodiless then some (.block o.name o.start index) else none }
      else s
  := by
  simp only [Scan.feed, hs]

/-- A character that ends an open construct closes it, with what is found of it. -/
theorem feed_of_ending (hs : s.current = some o) (h : o.Follows read s.depth) {c : Char}
    {ending : Ending} (hc : ending? read c = some ending) (bodiless : Bool) (index : Nat) :
  (s.feed bodiless index c).current = none ∧
    (s.feed bodiless index c).found = ending.finding? bodiless o.name o.start index
  := by
  have hdepth := h.depth_eq
  have hbraced := h.braced_eq
  rw [ending?] at hc
  split at hc
  next hsemicolon =>
    obtain ⟨rfl, hopen, hclose, hunclosed⟩ := hsemicolon
    cases hc
    have hnesting := (h.unbraced hopen).2
    simp [Scan.feed, hs, hbraced, hopen, hnesting, hunclosed, Ending.finding?]
  · split at hc
    next hstray =>
      obtain ⟨rfl, hopen⟩ := hstray
      cases hc
      have hcounts : read.count '{' = 0 ∧ read.count '}' = 0 :=
        ⟨List.count_eq_zero.2 hopen, List.count_eq_zero.2 (h.unbraced hopen).1⟩
      have hlt : s.depth - 1 < o.baseline := by omega
      simp [Scan.feed, hs, hbraced, hopen, hlt, Ending.finding?]
    next hstray =>
      split at hc
      next hclosed =>
        obtain ⟨rfl, hcount⟩ := hclosed
        cases hc
        have hopen : '{' ∈ read := by simpa using hstray
        have heq : s.depth - 1 = o.baseline := by
          simp [List.count_append] at hcount
          omega
        simp [Scan.feed, hs, hbraced, hopen, heq, Ending.finding?]
      · contradiction

/-- A character that does not end an open construct is read on. -/
theorem feed_of_ending_none (hs : s.current = some o) (h : o.Follows read s.depth) {c : Char}
    (hc : ending? read c = none) (bodiless : Bool) (index : Nat) :
  (s.feed bodiless index c).found = s.found ∧
    ∃ o', (s.feed bodiless index c).current = some o' ∧ o'.name = o.name ∧ o'.start = o.start ∧
      o'.Follows (read ++ [c]) (s.feed bodiless index c).depth
  := by
  have hdepth := h.depth_eq
  have hbraced := h.braced_eq
  by_cases hopen : c = '{'
  · subst hopen
    have hfeed : s.feed bodiless index '{'
        = { s with depth := s.depth + 1, current := some { o with braced := true } } := by
      simp [Scan.feed, hs]
    rw [hfeed]
    exact ⟨rfl, _, rfl, rfl, rfl, h.openBrace⟩
  by_cases hclose : c = '}'
  · subst hclose
    have hmem : '{' ∈ read := by
      by_contra hmem
      simp [ending?, hmem] at hc
    have hcount : read.count '{' ≠ read.count '}' + 1 := by
      simpa [ending?, hmem, List.count_append] using hc
    have hlt := h.lt hmem
    have hne : s.depth - 1 ≠ o.baseline := by omega
    have hle : ¬ s.depth - 1 < o.baseline := by omega
    have hfeed : s.feed bodiless index '}' = { s with depth := s.depth - 1 } := by
      simp [Scan.feed, hs, hne, hle]
    rw [hfeed]
    refine ⟨rfl, o, hs, rfl, rfl, h.closeBrace hmem hcount⟩
  rw [feed_other hs hopen hclose]
  by_cases hmem : '{' ∈ read
  · rw [if_pos (by simpa [hbraced] using hmem)]
    exact ⟨rfl, o, hs, rfl, rfl, h.other hopen hclose fun hnot => absurd hmem hnot⟩
  have hnesting := (h.unbraced hmem).2
  rw [if_neg (by simpa [hbraced] using hmem)]
  split
  next hc' =>
    refine ⟨rfl, _, rfl, rfl, rfl, h.other hopen hclose fun _ => ?_⟩
    obtain rfl | rfl := hc' <;> simp [unclosed, hnesting, List.count_append] <;> omega
  next hc' =>
    split
    next hc'' =>
      refine ⟨rfl, _, rfl, rfl, rfl, h.other hopen hclose fun _ => ?_⟩
      obtain rfl | rfl := hc'' <;> simp [unclosed, hnesting, List.count_append] <;> omega
    next hc'' =>
      have hsemicolon : ¬ (c = ';' ∧ o.nesting ≤ 0) := by
        rintro ⟨rfl, hle⟩
        simp [ending?, hmem, (h.unbraced hmem).1, ← hnesting, hle] at hc
      rw [if_neg hsemicolon]
      refine ⟨rfl, o, hs, rfl, rfl, h.other hopen hclose fun _ => ?_⟩
      rw [not_or] at hc' hc''
      simp [unclosed, hnesting, List.count_append, hc', hc'']

/-- Where no construct is open, characters change the depth only. -/
theorem foldl_feed_of_none (hs : s.current = none) (bodiless : Bool) (index : Nat)
    (cs : List Char) :
  (cs.foldl (Scan.feed bodiless index) s).current = none ∧
    (cs.foldl (Scan.feed bodiless index) s).found = s.found
  := by
  induction cs generalizing s with
  | nil => exact ⟨hs, rfl⟩
  | cons c cs ih =>
    have hstep : (s.feed bodiless index c).current = none ∧
        (s.feed bodiless index c).found = s.found := by
      simp only [Scan.feed, hs]
      split <;> simp_all
    rw [List.foldl_cons, ← hstep.2]
    apply ih hstep.1

/-- The rest of a line closes an open construct with its first ending, if it holds one. -/
theorem foldl_feed_of_some (hs : s.current = some o) (h : o.Follows read s.depth)
    (bodiless : Bool) (index : Nat) {cs : List Char} {ending : Ending} {stop : Nat}
    (hend : firstEnding? read (cs.map (index, ·)) = some (ending, stop)) :
  (cs.foldl (Scan.feed bodiless index) s).current = none ∧
    (cs.foldl (Scan.feed bodiless index) s).found
      = ending.finding? bodiless o.name o.start stop
  := by
  induction cs generalizing s o read with
  | nil => contradiction
  | cons c cs ih =>
    rw [List.map_cons, firstEnding?] at hend
    rw [List.foldl_cons]
    cases hc : ending? read c with
    | some ending' =>
      simp only [hc] at hend
      cases hend
      have hstep := feed_of_ending hs h hc bodiless index
      rw [← hstep.2]
      apply foldl_feed_of_none hstep.1
    | none =>
      simp only [hc] at hend
      obtain ⟨-, o', hs', hname, hstart, h'⟩ := feed_of_ending_none hs h hc bodiless index
      rw [← hname, ← hstart]
      apply ih hs' h' hend

/-- The rest of a line without an ending leaves the construct open. -/
theorem foldl_feed_of_some_none (hs : s.current = some o) (h : o.Follows read s.depth)
    (bodiless : Bool) (index : Nat) {cs : List Char}
    (hend : firstEnding? read (cs.map (index, ·)) = none) :
  (cs.foldl (Scan.feed bodiless index) s).found = s.found ∧
    ∃ o', (cs.foldl (Scan.feed bodiless index) s).current = some o' ∧ o'.name = o.name ∧
      o'.start = o.start ∧
        o'.Follows (read ++ cs) (cs.foldl (Scan.feed bodiless index) s).depth
  := by
  induction cs generalizing s o read with
  | nil => exact ⟨rfl, o, hs, rfl, rfl, by simpa using h⟩
  | cons c cs ih =>
    rw [List.map_cons, firstEnding?] at hend
    cases hc : ending? read c with
    | some ending =>
      simp only [hc] at hend
      contradiction
    | none =>
      simp only [hc] at hend
      obtain ⟨hfound, o', hs', hname, hstart, h'⟩ := feed_of_ending_none hs h hc bodiless index
      rw [List.foldl_cons, ← hfound, ← hname, ← hstart, List.append_cons]
      apply ih hs' h' hend

end

/-! ### Reading lines -/

/-- A scan with an open construct goes on to the first ending. It finds what that ending tells, and
from the next line on it is a scan without an open construct. -/
theorem findingsFrom_some (target : Target) {o : Opened} {read : List Char} {depth : Int}
    (h : o.Follows read depth) (index : Nat) (lines : List (List Char)) :
  ∃ depth', findingsFrom target depth (some o) index lines
    = match firstEnding? read (charsFrom index lines) with
      | none => [.gap o.name o.start]
      | some (ending, stop) =>
        (ending.finding? target.bodiless o.name o.start stop).toList ++
          findingsFrom target depth' none (stop + 1) (lines.drop (stop + 1 - index))
  := by
  induction lines generalizing o read depth index with
  | nil => exact ⟨depth, rfl⟩
  | cons line rest ih =>
    rw [findingsFrom, charsFrom, firstEnding?_append]
    cases hend : firstEnding? read (line.map (index, ·)) with
    | some p =>
      obtain ⟨ending, stop⟩ := p
      have hstop : stop = index := by
        obtain ⟨p, hp, rfl⟩ := List.mem_map.1 (mem_of_firstEnding? hend)
        obtain ⟨c, -, rfl⟩ := List.mem_map.1 hp
        rfl
      subst hstop
      obtain ⟨hcurrent, hfound⟩ := foldl_feed_of_some
        (s := ⟨depth, some o, none⟩) rfl h target.bodiless stop hend
      use (Scan.line target depth (some o) stop line).depth
      simp only [Scan.line, openAt, hcurrent, hfound, Option.some_or]
      simp
    | none =>
      obtain ⟨hfound, o', hcurrent, hname, hstart, h'⟩ := foldl_feed_of_some_none
        (s := ⟨depth, some o, none⟩) rfl h target.bodiless index hend
      obtain ⟨depth', hrest⟩ := ih h' (index + 1)
      use depth'
      simp only [Scan.line, openAt, hcurrent, hfound, Option.none_or, List.map_map]
      have hread : line.map (Prod.snd ∘ fun c => (index, c)) = line := List.map_id' line
      rw [hrest, hname, hstart, hread]
      cases hlater : firstEnding? (read ++ line) (charsFrom (index + 1) rest) with
      | none => rfl
      | some p =>
        obtain ⟨ending, stop⟩ := p
        have hle := le_of_firstEnding? hlater
        have hsub : stop + 1 - index = (stop + 1 - (index + 1)) + 1 := by omega
        simp only [Option.toList_none, List.nil_append, hsub, List.drop_succ_cons]

/-- A line on which no construct is open is read as a header first. -/
theorem findingsFrom_none_cons (target : Target) (depth : Int) (index : Nat) (line : List Char)
    (rest : List (List Char)) :
  findingsFrom target depth none index (line :: rest)
    = findingsFrom target depth (openAt target depth none index line) index (line :: rest)
  := by
  rw [findingsFrom, findingsFrom, Scan.line, Scan.line]
  cases hopen : openAt target depth none index line with
  | none => rw [hopen]
  | some o => rfl

/-- Whatever the depth is, a scan without an open construct finds the constructs and gaps that
their matching braces tell. -/
theorem findingsFrom_none (target : Target) (depth : Int) (index : Nat)
    (lines : List (List Char)) :
  findingsFrom target depth none index lines = matched target index lines
  := by
  induction index, lines using matched.induct target generalizing depth with
  | case1 index =>
    rw [matched]
    rfl
  | case2 index line rest hheader ih =>
    rw [matched, findingsFrom]
    simp only [hheader]
    obtain ⟨hcurrent, hfound⟩ := foldl_feed_of_none (s := ⟨depth, none, none⟩) rfl
      target.bodiless index line
    simp only [Scan.line, openAt, hheader, Option.map_none, hcurrent, hfound]
    apply ih
  | case3 index line rest name hheader hend =>
    obtain ⟨depth', h⟩ := findingsFrom_some target
      (Opened.follows_nil name index depth) index (line :: rest)
    rw [matched, findingsFrom_none_cons, openAt]
    simp only [hheader, Option.map_some, h, hend]
  | case4 index line rest name hheader ending stop hend ih =>
    obtain ⟨depth', h⟩ := findingsFrom_some target
      (Opened.follows_nil name index depth) index (line :: rest)
    have hle := le_of_firstEnding? hend
    have hsub : stop + 1 - index = (stop - index) + 1 := by omega
    rw [matched, findingsFrom_none_cons, openAt]
    simp only [hheader, Option.map_some, h, hend, hsub, List.drop_succ_cons, ih]

/-- A scan finds in the lines of a text the constructs and gaps that their matching braces tell. -/
theorem findings_eq_matched (target : Target) (lines : List (List Char)) :
  findings target lines = matched target 0 (maskLines lines)
  := findingsFrom_none target 0 0 (maskLines lines)

/-- For every kind and every text, a scan finds what the matching braces tell, in the same order:
the ranges are the constructs that they tell, and the gaps are theirs. -/
theorem scan_and_gaps_eq_matched (kind : Kind) (text : String) :
  findings (.ofKind kind) (Text.lines text.toList)
      = matched (.ofKind kind) 0 (maskLines (Text.lines text.toList)) ∧
    scan kind text
      = rangesOf (Text.lines text.toList)
        (matched (.ofKind kind) 0 (maskLines (Text.lines text.toList))) ∧
    gaps kind text
      = gapsOf (matched (.ofKind kind) 0 (maskLines (Text.lines text.toList)))
  := by
  have hfindings := findings_eq_matched (.ofKind kind) (Text.lines text.toList)
  refine ⟨hfindings, ?_, ?_⟩
  · simp only [scan, hfindings]
  · rw [gaps, hfindings]

end AnchorIndex.Source

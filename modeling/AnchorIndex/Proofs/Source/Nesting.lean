import AnchorIndex.Proofs.Source.Headers
import AnchorIndex.Proofs.Source.Matching
import Mathlib.Data.List.Pairwise

/-!
# Nesting of constructs

The constructs of one kind follow one another (`pairwise_scan`). Two constructs of different kinds
begin on different lines, and of two that overlap the one that begins later also ends on or before
the last line of the other one, if that one ends at a closing brace (`last_le_of_endsAt_closed`).
The scans of the kinds know nothing of each other: both facts come from the matching braces that
the constructs share. Together they make the ranges of a text `Laminar`.
-/

namespace AnchorIndex.Source

/-! ### Blocks in lines -/

/-- A construct stands in masked lines: its header is on line `start`, and the first ending after
that, on line `stop`, makes it a construct. -/
structure Stands (target : Target) (lines : List (List Char)) (name : String) (start stop : Nat)
    (ending : Ending) : Prop where
  header : ∃ line, lines[start]? = some line ∧ target.header? (Text.strip line) = some name
  first : firstEnding? [] (charsFrom start (lines.drop start)) = some (ending, stop)
  finding : ending.finding? target.bodiless name start stop = some (.block name start stop)

theorem Stands.lt_length {target : Target} {lines : List (List Char)} {name : String}
    {start stop : Nat} {ending : Ending} (h : Stands target lines name start stop ending) :
  start ≤ stop ∧ stop < lines.length
  := by
  obtain ⟨⟨i, c⟩, hp, rfl⟩ := List.mem_map.1 (mem_of_firstEnding? h.first)
  obtain ⟨hle, line, hline, -⟩ := mem_charsFrom_iff.1 hp
  have hlt := (List.getElem?_eq_some_iff.1 hline).1
  rw [List.length_drop] at hlt
  omega

/-- A construct ends at a closing brace, or at a semicolon if it may be without a body. -/
theorem Stands.ending_eq {target : Target} {lines : List (List Char)} {name : String}
    {start stop : Nat} {ending : Ending} (h : Stands target lines name start stop ending) :
  ending = .closed ∨ ending = .semicolon ∧ target.bodiless = true
  := by
  have hfinding := h.finding
  cases ending with
  | semicolon => simpa [Ending.finding?] using hfinding
  | stray => simp [Ending.finding?] at hfinding
  | closed => simp

theorem Ending.eq_of_finding?_eq_block {ending : Ending} {bodiless : Bool}
    {name name' : String} {start stop start' stop' : Nat}
    (h : ending.finding? bodiless name start stop = some (.block name' start' stop')) :
  name' = name ∧ start' = start ∧ stop' = stop
  := by
  cases ending with
  | semicolon =>
    rw [Ending.finding?] at h
    split at h
    · cases h
      exact ⟨rfl, rfl, rfl⟩
    · contradiction
  | stray => simp [Ending.finding?] at h
  | closed =>
    cases h
    exact ⟨rfl, rfl, rfl⟩

section

variable {target : Target} {name : String} {start stop : Nat}

/-- A construct that is found from a line on begins on this line or after it. -/
theorem le_of_mem_matched {index : Nat} {lines : List (List Char)}
    (h : .block name start stop ∈ matched target index lines) :
  index ≤ start
  := by
  induction index, lines using matched.induct target with
  | case1 index =>
    rw [matched] at h
    contradiction
  | case2 index line rest hheader ih =>
    rw [matched] at h
    simp only [hheader] at h
    have := ih h
    omega
  | case3 index line rest name' hheader hend =>
    rw [matched] at h
    simp [hheader, hend] at h
  | case4 index line rest name' hheader ending stop' hend ih =>
    rw [matched] at h
    simp only [hheader, hend, List.mem_append, Option.mem_toList] at h
    obtain h | h := h
    · have := Ending.eq_of_finding?_eq_block h
      omega
    · have := ih h
      have := le_of_firstEnding? hend
      omega

/-- What is found in lines stands in them. -/
theorem stands_of_mem_matched {lines : List (List Char)} {index : Nat}
    (h : .block name start stop ∈ matched target index (lines.drop index)) :
  ∃ ending, Stands target lines name start stop ending
  := by
  generalize hrest : lines.drop index = rest at h
  induction index, rest using matched.induct target with
  | case1 index =>
    rw [matched] at h
    contradiction
  | case2 index line rest hheader ih =>
    rw [matched] at h
    simp only [hheader] at h
    apply ih _ h
    rw [← List.drop_drop, hrest]
    rfl
  | case3 index line rest name' hheader hend =>
    rw [matched] at h
    simp [hheader, hend] at h
  | case4 index line rest name' hheader ending stop' hend ih =>
    rw [matched] at h
    simp only [hheader, hend, List.mem_append, Option.mem_toList] at h
    have hline : lines[index]? = some line := by
      rw [← List.head?_drop, hrest]
      rfl
    obtain h | h := h
    · obtain ⟨rfl, rfl, rfl⟩ := Ending.eq_of_finding?_eq_block h
      exact ⟨ending, ⟨line, hline, hheader⟩, by rw [hrest, hend], h⟩
    · apply ih _ h
      have hle := le_of_firstEnding? hend
      have hsum : stop' + 1 = index + ((stop' - index) + 1) := by omega
      rw [hsum, ← List.drop_drop, hrest, List.drop_succ_cons]

/-- Of two constructs that are found one after another, the second begins after the first one has
ended. -/
def Finding.Before : Finding → Finding → Prop
  | .block _ _ stop, .block _ start _ => stop < start
  | _, _ => True

theorem pairwise_matched (target : Target) (index : Nat) (lines : List (List Char)) :
  (matched target index lines).Pairwise Finding.Before
  := by
  induction index, lines using matched.induct target with
  | case1 index =>
    rw [matched]
    exact .nil
  | case2 index line rest hheader ih =>
    rw [matched]
    simpa only [hheader] using ih
  | case3 index line rest name hheader hend =>
    rw [matched]
    simp [hheader, hend]
  | case4 index line rest name hheader ending stop hend ih =>
    rw [matched]
    simp only [hheader, hend]
    rw [List.pairwise_append]
    refine ⟨?_, ih, ?_⟩
    · cases ending.finding? target.bodiless name index stop with
      | none => exact .nil
      | some f => exact List.pairwise_singleton _ f
    · intro f hf g hg
      rw [Option.mem_toList] at hf
      cases f with
      | gap name' start' => trivial
      | block name' start' stop' =>
        cases g with
        | gap name'' start'' => trivial
        | block name'' start'' stop'' =>
          have := Ending.eq_of_finding?_eq_block hf
          have := le_of_mem_matched hg
          change stop' < start''
          omega

end

/-! ### Endings of nested constructs -/

/-- The characters of a construct do not end it: they hold no brace, or fewer closing braces than
opening ones. -/
def IsOpen (read : List Char) : Prop :=
  ('{' ∉ read ∧ '}' ∉ read) ∨ read.count '}' < read.count '{'

theorem IsOpen.le {read : List Char} (h : IsOpen read) :
  read.count '}' ≤ read.count '{'
  := by
  obtain ⟨-, hclose⟩ | hlt := h
  · rw [List.count_eq_zero.2 hclose]
    omega
  · omega

theorem IsOpen.lt {read : List Char} (h : IsOpen read) (hmem : '{' ∈ read) :
  read.count '}' < read.count '{'
  := by
  obtain ⟨hopen, -⟩ | hlt := h
  · contradiction
  · exact hlt

/-- A character without an ending leaves a construct open. -/
theorem IsOpen.concat {read : List Char} (h : IsOpen read) {c : Char}
    (hc : ending? read c = none) :
  IsOpen (read ++ [c])
  := by
  by_cases hopen : c = '{'
  · subst hopen
    right
    have := h.le
    simp [List.count_append]
    omega
  by_cases hclose : c = '}'
  · subst hclose
    have hmem : '{' ∈ read := by
      by_contra hmem
      simp [ending?, hmem] at hc
    have hcount : read.count '{' ≠ read.count '}' + 1 := by
      simpa [ending?, hmem, List.count_append] using hc
    have := h.lt hmem
    right
    simp [List.count_append]
    omega
  · obtain ⟨hread, hread'⟩ | hlt := h
    · left
      simp [hread, hread', Ne.symm hopen, Ne.symm hclose]
    · right
      simpa [List.count_append, hopen, hclose] using hlt

theorem IsOpen.append {read : List Char} (h : IsOpen read) {cs : List (Nat × Char)}
    (hcs : firstEnding? read cs = none) :
  IsOpen (read ++ cs.map Prod.snd)
  := by
  induction cs generalizing read with
  | nil => simpa using h
  | cons p cs ih =>
    obtain ⟨index, c⟩ := p
    rw [firstEnding?] at hcs
    split at hcs
    · contradiction
    next hc =>
      rw [List.map_cons, List.append_cons]
      apply ih (h.concat hc) hcs

/-- The brace that closes a construct ends every construct that is open inside of it. -/
theorem isSome_ending?_of_closed {outer inner : List Char} (houter : IsOpen outer)
    (hinner : IsOpen inner) {c : Char} (h : ending? (outer ++ inner) c = some .closed) :
  (ending? inner c).isSome
  := by
  rw [ending?] at h
  split at h
  · contradiction
  · split at h
    · contradiction
    · split at h
      next hclosed =>
        obtain ⟨rfl, hcount⟩ := hclosed
        by_cases hmem : '{' ∈ inner
        · have hlt := hinner.lt hmem
          have hle := houter.le
          have heq : inner.count '{' = inner.count '}' + 1 := by
            simp [List.count_append] at hcount
            omega
          simp [ending?, hmem, List.count_append, heq]
        · simp [ending?, hmem]
      · contradiction

/-- A construct that begins inside of one that ends at a closing brace ends no later. -/
theorem le_of_firstEnding?_closed {outer inner : List Char} (houter : IsOpen outer)
    (hinner : IsOpen inner) {cs : List (Nat × Char)} (hcs : (cs.map Prod.fst).Pairwise (· ≤ ·))
    {stop stop' : Nat} {ending : Ending}
    (h : firstEnding? (outer ++ inner) cs = some (.closed, stop))
    (h' : firstEnding? inner cs = some (ending, stop')) :
  stop' ≤ stop
  := by
  induction cs generalizing inner with
  | nil => contradiction
  | cons p cs ih =>
    obtain ⟨index, c⟩ := p
    have hstop : index ≤ stop := by
      obtain rfl | hmem := List.mem_cons.1 (mem_of_firstEnding? h)
      · apply Nat.le_refl
      · exact (List.pairwise_cons.1 hcs).1 _ hmem
    rw [firstEnding?] at h h'
    cases hc' : ending? inner c with
    | some ending' =>
      simp only [hc'] at h'
      cases h'
      apply hstop
    | none =>
      simp only [hc'] at h'
      cases hc : ending? (outer ++ inner) c with
      | some ending' =>
        simp only [hc] at h
        cases h
        have := isSome_ending?_of_closed houter hinner hc
        rw [hc'] at this
        contradiction
      | none =>
        simp only [hc] at h
        rw [List.append_assoc] at h
        apply ih (hinner.concat hc') (List.pairwise_cons.1 hcs).2 h h'

theorem charsFrom_append (index : Nat) (a b : List (List Char)) :
  charsFrom index (a ++ b) = charsFrom index a ++ charsFrom (index + a.length) b
  := by
  induction a generalizing index with
  | nil => rfl
  | cons line a ih =>
    have hsum : index + 1 + a.length = index + (a.length + 1) := by omega
    rw [List.cons_append, charsFrom, charsFrom, ih, List.append_assoc, List.length_cons, hsum]

theorem pairwise_charsFrom (index : Nat) (lines : List (List Char)) :
  ((charsFrom index lines).map Prod.fst).Pairwise (· ≤ ·)
  := by
  induction lines generalizing index with
  | nil => exact .nil
  | cons line rest ih =>
    rw [charsFrom, List.map_append, List.pairwise_append]
    refine ⟨?_, ih (index + 1), ?_⟩
    · rw [List.map_map]
      apply List.pairwise_map.2
      apply List.pairwise_of_forall
      intro _ _
      apply Nat.le_refl
    · intro i hi j hj
      obtain ⟨p, hp, rfl⟩ := List.mem_map.1 hi
      obtain ⟨c, -, rfl⟩ := List.mem_map.1 hp
      obtain ⟨⟨j, d⟩, hq, rfl⟩ := List.mem_map.1 hj
      have := (mem_charsFrom_iff.1 hq).1
      change index ≤ j
      omega

/-- Of two constructs in the same lines, the one that begins inside of the other one also ends on
or before its last line, if that one ends at a closing brace. -/
theorem Stands.stop_le {target target' : Target} {lines : List (List Char)}
    {name name' : String} {start stop start' stop' : Nat} {ending : Ending}
    (h : Stands target lines name start stop .closed)
    (h' : Stands target' lines name' start' stop' ending) (hlt : start < start')
    (hle : start' ≤ stop) :
  stop' ≤ stop
  := by
  have hlength := h'.lt_length
  have hsplit : charsFrom start (lines.drop start)
      = charsFrom start ((lines.drop start).take (start' - start))
        ++ charsFrom start' (lines.drop start') := by
    have hdrop : lines.drop start' = (lines.drop start).drop (start' - start) := by
      rw [List.drop_drop]
      congr 1
      omega
    have htake : start + ((lines.drop start).take (start' - start)).length = start' := by
      rw [List.length_take, List.length_drop]
      omega
    rw [hdrop]
    conv_lhs => rw [← List.take_append_drop (start' - start) (lines.drop start)]
    rw [charsFrom_append, htake]
  have hfirst := h.first
  rw [hsplit, firstEnding?_append, Option.or_eq_some_iff] at hfirst
  obtain hbefore | ⟨hnone, hfirst⟩ := hfirst
  · -- an ending before the header of the inner construct would be on a line before it
    exfalso
    obtain ⟨⟨i, c⟩, hp, rfl⟩ := List.mem_map.1 (mem_of_firstEnding? hbefore)
    obtain ⟨-, line, hline, -⟩ := mem_charsFrom_iff.1 hp
    have := (List.getElem?_eq_some_iff.1 hline).1
    rw [List.length_take] at this
    change start' ≤ i at hle
    omega
  · have hnil : IsOpen [] := .inl ⟨List.not_mem_nil, List.not_mem_nil⟩
    apply le_of_firstEnding?_closed (hnil.append hnone) hnil (pairwise_charsFrom _ _) _ h'.first
    rw [List.append_nil]
    apply hfirst

/-! ### Ranges of a text -/

/-- The masked lines of a text. -/
def maskedLines (text : String) : List (List Char) :=
  maskLines (Text.lines text.toList)

/-- The first ending from the first line of a range on is this one, on the last line of the
range. -/
def Range.EndsAt (text : String) (ending : Ending) (r : Range) : Prop :=
  firstEnding? [] (charsFrom (r.first - 1) ((maskedLines text).drop (r.first - 1)))
    = some (ending, r.last - 1)

instance (text : String) (ending : Ending) (r : Range) : Decidable (r.EndsAt text ending) :=
  inferInstanceAs (Decidable (_ = _))

/-- A range begins inside of another one and ends on or before its last line. -/
def Range.Inside (r outer : Range) : Prop :=
  outer.first < r.first ∧ r.last ≤ outer.last

/-- The ranges of a text nest: those of one kind follow one another, those of different kinds
begin on different lines, and one that ends at the brace that closes its body holds every range
that begins in it. Only a struct may end otherwise, at a semicolon. -/
structure Laminar (text : String) : Prop where
  bounds : ∀ kind, ∀ r ∈ scan kind text,
    1 ≤ r.first ∧ r.first ≤ r.last ∧ r.last ≤ (Text.lines text.toList).length
  successive : ∀ kind, (scan kind text).Pairwise fun a b => a.last < b.first
  endsAt : ∀ kind, ∀ r ∈ scan kind text,
    r.EndsAt text .closed ∨ kind = .struct ∧ r.EndsAt text .semicolon
  apart : ∀ kind kind', kind ≠ kind' → ∀ r ∈ scan kind text, ∀ r' ∈ scan kind' text,
    r.first ≠ r'.first
  nested : ∀ kind kind', kind ≠ kind' → ∀ r ∈ scan kind text, ∀ r' ∈ scan kind' text,
    r.EndsAt text .closed → r.first < r'.first → r'.first ≤ r.last → r'.last ≤ r.last

theorem exists_of_mem_rangesOf {lines : List (List Char)} {fs : List Finding} {r : Range}
    (h : r ∈ rangesOf lines fs) :
  .block r.name (r.first - 1) (r.last - 1) ∈ fs ∧ 1 ≤ r.first ∧ 1 ≤ r.last
  := by
  obtain ⟨f, hf, hr⟩ := List.mem_filterMap.1 h
  cases f with
  | gap name start => contradiction
  | block name start stop =>
    cases hr
    exact ⟨hf, by simp, by simp⟩

section

variable {kind : Kind} {text : String} {r : Range}

/-- A range of a text stands in its masked lines. -/
theorem stands_of_mem_scan (h : r ∈ scan kind text) :
  ∃ ending,
    Stands (.ofKind kind) (maskedLines text) r.name (r.first - 1) (r.last - 1) ending
  := by
  rw [scan, findings_eq_matched] at h
  have hmem := (exists_of_mem_rangesOf h).1
  rw [← List.drop_zero (l := maskLines _)] at hmem
  apply stands_of_mem_matched hmem

/-- A range has lines of its text, the last of which is not before the first. -/
theorem bounds_of_mem_scan (h : r ∈ scan kind text) :
  1 ≤ r.first ∧ r.first ≤ r.last ∧ r.last ≤ (Text.lines text.toList).length
  := by
  have hone := (exists_of_mem_rangesOf h).2
  obtain ⟨ending, hstands⟩ := stands_of_mem_scan h
  have hlength := hstands.lt_length
  rw [maskedLines, length_maskLines] at hlength
  omega

/-- Only a struct may end otherwise than at the brace that closes its body, at a semicolon. -/
theorem endsAt_of_mem_scan (h : r ∈ scan kind text) :
  r.EndsAt text .closed ∨ kind = .struct ∧ r.EndsAt text .semicolon
  := by
  obtain ⟨ending, hstands⟩ := stands_of_mem_scan h
  obtain rfl | ⟨rfl, hbodiless⟩ := hstands.ending_eq
  · left
    apply hstands.first
  · right
    refine ⟨?_, hstands.first⟩
    simpa [Target.ofKind] using hbodiless

theorem endsAt_closed_of_mem_scan (h : r ∈ scan kind text) (hkind : kind ≠ .struct) :
  r.EndsAt text .closed
  :=
  (endsAt_of_mem_scan h).resolve_right fun hstruct => hkind hstruct.1

/-- The ranges of one kind follow one another. -/
theorem pairwise_scan (kind : Kind) (text : String) :
  (scan kind text).Pairwise fun a b => a.last < b.first
  := by
  rw [scan, findings_eq_matched, rangesOf, List.pairwise_filterMap]
  apply (pairwise_matched _ _ _).imp
  intro f g hfg r hr r' hr'
  cases f with
  | gap name start => contradiction
  | block name start stop =>
    cases g with
    | gap name start => contradiction
    | block name' start' stop' =>
      cases hr
      cases hr'
      change stop < start' at hfg
      change stop + 1 < start' + 1
      omega

/-- Two ranges of one kind that overlap are one. -/
theorem eq_of_overlap {r' : Range} (h : r ∈ scan kind text) (h' : r' ∈ scan kind text)
    (hle : r.first ≤ r'.last) (hle' : r'.first ≤ r.last) :
  r = r'
  := by
  let _ : Std.Symm fun a b : Range => a.last < b.first ∨ b.last < a.first := ⟨fun _ _ => Or.symm⟩
  have hpairwise : (scan kind text).Pairwise fun a b => a.last < b.first ∨ b.last < a.first :=
    (pairwise_scan kind text).imp .inl
  by_contra hne
  obtain hlt | hlt := hpairwise.forall h h' hne <;> omega

/-- Ranges of different kinds begin on different lines. -/
theorem first_ne_of_kind_ne {kind' : Kind} {r' : Range} (h : r ∈ scan kind text)
    (h' : r' ∈ scan kind' text) (hne : kind ≠ kind') :
  r.first ≠ r'.first
  := by
  intro heq
  obtain ⟨ending, hstands⟩ := stands_of_mem_scan h
  obtain ⟨ending', hstands'⟩ := stands_of_mem_scan h'
  obtain ⟨line, hline, hheader⟩ := hstands.header
  obtain ⟨line', hline', hheader'⟩ := hstands'.header
  rw [← heq, hline] at hline'
  cases hline'
  apply hne (kind_eq_of_header? hheader hheader')

/-- Of two ranges of a text, the one that begins later but inside of the other one also ends on or
before its last line, if that one ends at a closing brace. -/
theorem last_le_of_endsAt_closed {kind' : Kind} {r' : Range} (h : r ∈ scan kind text)
    (h' : r' ∈ scan kind' text) (hclosed : r.EndsAt text .closed) (hlt : r.first < r'.first)
    (hle : r'.first ≤ r.last) :
  r'.last ≤ r.last
  := by
  obtain ⟨ending, hstands⟩ := stands_of_mem_scan h
  obtain ⟨ending', hstands'⟩ := stands_of_mem_scan h'
  have hbounds := bounds_of_mem_scan h
  have hbounds' := bounds_of_mem_scan h'
  obtain rfl : ending = .closed := by
    have hfirst := hstands.first
    rw [hclosed] at hfirst
    cases hfirst
    rfl
  have := hstands.stop_le hstands' (by omega) (by omega)
  omega

end

/-- The ranges of every text nest. -/
theorem laminar (text : String) :
  Laminar text
  where
  bounds := fun _ _ => bounds_of_mem_scan
  successive := fun kind => pairwise_scan kind text
  endsAt := fun _ _ => endsAt_of_mem_scan
  apart := fun _ _ hne _ h _ h' => first_ne_of_kind_ne h h' hne
  nested := fun _ _ _ _ h _ h' => last_le_of_endsAt_closed h h'

/-- Of two ranges that end at the brace that closes their bodies and share a line, one lies inside
of the other, unless they are one. -/
theorem inside_or_inside {text : String} {kind kind' : Kind} {r r' : Range}
    (h : r ∈ scan kind text) (h' : r' ∈ scan kind' text) (hclosed : r.EndsAt text .closed)
    (hclosed' : r'.EndsAt text .closed) (hle : r.first ≤ r'.last) (hle' : r'.first ≤ r.last) :
  (kind = kind' ∧ r = r') ∨ r.Inside r' ∨ r'.Inside r
  := by
  by_cases hne : kind = kind'
  · subst hne
    left
    exact ⟨rfl, eq_of_overlap h h' hle hle'⟩
  · right
    obtain hlt | heq | hlt := Nat.lt_trichotomy r.first r'.first
    · right
      exact ⟨hlt, last_le_of_endsAt_closed h h' hclosed hlt hle'⟩
    · exfalso
      apply first_ne_of_kind_ne h h' hne heq
    · left
      exact ⟨hlt, last_le_of_endsAt_closed h' h hclosed' hlt hle⟩

/-! ### Blocks around a range -/

/-- The ranges of a text that may enclose others. -/
def blocks (text : String) : List Range :=
  scan .implementation text ++ scan .trait text

/-- A range lies strictly inside of another one: it begins after its first line and ends before
its last line. -/
def Range.StrictlyInside (r outer : Range) : Prop :=
  outer.first < r.first ∧ r.last < outer.last

/-- The blocks strictly around a range lie inside of one another. -/
theorem inside_or_inside_of_mem_blocks {text : String} {kind : Kind} {r a b : Range}
    (h : r ∈ scan kind text) (ha : a ∈ blocks text) (hb : b ∈ blocks text)
    (hra : r.StrictlyInside a) (hrb : r.StrictlyInside b) :
  a = b ∨ a.Inside b ∨ b.Inside a
  := by
  have hscan : ∀ {c}, c ∈ blocks text → ∃ kind, c ∈ scan kind text ∧ c.EndsAt text .closed := by
    intro c hc
    obtain hc | hc := List.mem_append.1 hc
    · exact ⟨_, hc, endsAt_closed_of_mem_scan hc (by decide)⟩
    · exact ⟨_, hc, endsAt_closed_of_mem_scan hc (by decide)⟩
  obtain ⟨kind, ha, hclosed⟩ := hscan ha
  obtain ⟨kind', hb, hclosed'⟩ := hscan hb
  have hbounds := bounds_of_mem_scan h
  have hle : a.first ≤ b.last := by
    have := hra.1
    have := hrb.2
    omega
  have hle' : b.first ≤ a.last := by
    have := hra.2
    have := hrb.1
    omega
  obtain ⟨-, heq⟩ | hinside := inside_or_inside ha hb hclosed hclosed' hle hle'
  · left
    exact heq
  · right
    exact hinside

end AnchorIndex.Source

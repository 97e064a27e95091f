import AnchorIndex.Proofs.Account.Cutting

/-!
# Structs whose fields can all be decoded

Decoding a struct fails on a chunk that declares no field. A chunk is cut off where a line of the
struct declares a field, so it fails only if this line is read otherwise in the chunk: the chunk
begins in a comment or a literal, or a bracket is open in it that is none in the struct. If no line
is of this kind (`Orderly`), then every field is decoded (`exists_fields_of_orderly`).
-/

namespace AnchorIndex.Account

open Source (Region maskLine maskLines maskLinesFrom regionAfter)
open Text (allBlank lines strip unlines)

/-! ### Orderly lines -/

/-- What is asked of a line of a struct, given the region in which it starts, the depth of braces
and of brackets in front of it, and its mask. -/
structure LineOrderly (region : Region) (depth nesting : Int) (masked : List Char) : Prop where
  /-- No more brackets are closed than are open. -/
  closed : 0 ≤ nesting + nestingStep masked
  /-- If something of the line is shown, it starts in program text, or in brackets. -/
  shown : allBlank masked = true ∨ region = .code ∨ 0 < nesting
  /-- A line that reads like a declaration does not close the last bracket. -/
  declares : (fieldName? (strip masked)).isSome → nesting + nestingStep masked = 0 → nesting = 0
  /-- Where the struct ends no attribute goes on. -/
  ends : depth + depthStep masked < 1 →
    depth = 1 ∧ IsBraces masked ∨ continues (nesting + nestingStep masked) (strip masked) = false

instance (region : Region) (depth nesting : Int) (masked : List Char) :
    Decidable (LineOrderly region depth nesting masked) :=
  decidable_of_iff
    (0 ≤ nesting + nestingStep masked
      ∧ (allBlank masked = true ∨ region = .code ∨ 0 < nesting)
      ∧ ((fieldName? (strip masked)).isSome → nesting + nestingStep masked = 0 → nesting = 0)
      ∧ (depth + depthStep masked < 1 → depth = 1 ∧ IsBraces masked
        ∨ continues (nesting + nestingStep masked) (strip masked) = false))
    ⟨fun ⟨h₁, h₂, h₃, h₄⟩ => ⟨h₁, h₂, h₃, h₄⟩, fun ⟨h₁, h₂, h₃, h₄⟩ => ⟨h₁, h₂, h₃, h₄⟩⟩

/-- The lines from the opening brace of a struct on are orderly, up to the one that ends it. -/
def OrderlyFrom (region : Region) (depth nesting : Int) : List (List Char) → Prop
  | [] => True
  | line :: rest =>
    let masked := (maskLine region line).1
    let orderlyRest := OrderlyFrom (maskLine region line).2 (depth + depthStep masked)
      (nesting + nestingStep masked) rest
    if depth = 0 then OrderlyFrom (maskLine region line).2 (depthStep masked) nesting rest
    else LineOrderly region depth nesting masked ∧ (1 ≤ depth + depthStep masked → orderlyRest)

/-- All lines of the struct are orderly. -/
def Orderly (content : List Char) : Prop :=
  OrderlyFrom .code 0 0 (lines content)

instance decidableOrderlyFrom (region : Region) (depth nesting : Int) :
    (ls : List (List Char)) → Decidable (OrderlyFrom region depth nesting ls)
  | [] => .isTrue trivial
  | line :: rest =>
    have := fun depth nesting => decidableOrderlyFrom (maskLine region line).2 depth nesting rest
    decidable_of_iff (if depth = 0 then OrderlyFrom (maskLine region line).2 _ nesting rest
      else LineOrderly region depth nesting _ ∧ (_ → _)) Iff.rfl

instance (content : List Char) : Decidable (Orderly content) :=
  decidableOrderlyFrom .code 0 0 (lines content)

/-- Where the struct ends without a closing brace on a line of its own, no attribute goes on. -/
theorem LineOrderly.continues_eq_false {region : Region} {depth nesting : Int} {masked : List Char}
    (h : LineOrderly region depth nesting masked)
    (hbraces : ¬(depth = 1 ∧ depth + depthStep masked < 1 ∧ IsBraces masked))
    (hends : depth + depthStep masked < 1) :
  continues (nesting + nestingStep masked) (strip masked) = false
  := by
  obtain ⟨hone, hall⟩ | hcontinues := h.ends hends
  · exact absurd ⟨hone, hends, hall⟩ hbraces
  · exact hcontinues

theorem continues_of_allBlank {masked : List Char} (h : allBlank masked = true) (nesting : Int) :
  continues nesting (strip masked) = true
  := by
  rw [continues, isEmpty_strip, h, Bool.or_true]

/-! ### What a line preserves -/

section

variable {region : Region} {s : Cutter} {raw : List Char}

/-- Each of the texts declares a field. -/
def AllDeclare (texts : List (List Char)) : Prop :=
  ∀ text ∈ texts, (declaration? text).isSome

/-- The state of cutting in front of a line that starts in the given region: the chunks so far
declare fields, and in the present chunk the same is read as in the struct. -/
structure Sound (region : Region) (s : Cutter) : Prop where
  chunks : AllDeclare s.chunks
  nonneg : 0 ≤ s.nesting
  fresh : s.pending = [] → s.declaring = false ∧ s.nesting = 0
  inLine : ∀ line ∈ s.pending, '\n' ∉ line
  region_eq : s.pending ≠ [] → regionAfter .code s.pending.reverse = region
  nesting_eq : changeOver nestingStep (maskLines s.pending.reverse) = s.nesting
  declares : s.declaring = true → (declarationFrom? 0 (maskLines s.pending.reverse)).isSome

theorem declaration?_pendingText (hpending : s.pending ≠ [])
    (hline : ∀ line ∈ s.pending, '\n' ∉ line) :
  declaration? s.pendingText = declarationFrom? 0 (maskLines s.pending.reverse)
  := by
  have hlines : lines (unlines s.pending.reverse) = s.pending.reverse := by
    apply Text.lines_unlines
    · simpa using hpending
    · simpa using hline
  rw [Cutter.pendingText, declaration?_stripRight, declaration?, hlines]

theorem Sound.finish (h : Sound region s) :
  AllDeclare s.finish
  := by
  intro text htext
  rw [Cutter.finish, List.mem_reverse] at htext
  split at htext
  next hopen =>
    rw [Bool.and_eq_true, Bool.not_eq_true', List.isEmpty_eq_false_iff] at hopen
    obtain rfl | hmem := List.mem_cons.1 htext
    · rw [declaration?_pendingText hopen.1 h.inLine]
      exact h.declares hopen.2
    · exact h.chunks text hmem
  next => exact h.chunks text htext

theorem isSome_declarationFrom?_append {depth : Int} {ls : List (List Char)}
    (h : (declarationFrom? depth ls).isSome) (more : List (List Char)) :
  (declarationFrom? depth (ls ++ more)).isSome
  := by
  obtain ⟨front, line, back, rfl, hdepth, hdeclares⟩ := isSome_declarationFrom?_iff.1 h
  exact isSome_declarationFrom?_iff.2
    ⟨front, line, back ++ more, by rw [List.append_assoc, List.cons_append], hdepth, hdeclares⟩

theorem maskLines_reverse_cons (hregion : regionAfter .code s.pending.reverse = region)
    (raw : List Char) :
  maskLines (raw :: s.pending).reverse
      = maskLines s.pending.reverse ++ [(maskLine region raw).1]
    ∧ regionAfter .code (raw :: s.pending).reverse = (maskLine region raw).2
  := by
  rw [List.reverse_cons, maskLines, maskLinesFrom_append, regionAfter_append, hregion]
  exact ⟨rfl, rfl⟩

section

variable (h : Sound region s) (hraw : '\n' ∉ raw)
  (hline : LineOrderly region s.depth s.nesting (maskLine region raw).1)
  (hshown : allBlank (maskLine region raw).1 = true → s.pending ≠ [])

include h hline hshown

/-- The present chunk is masked in the struct as it is alone. -/
theorem Sound.regionAfter_pending :
  regionAfter .code s.pending.reverse = region
  := by
  by_cases hpending : s.pending = []
  · have hnesting := (h.fresh hpending).2
    obtain hblank | rfl | hopen := hline.shown
    · exact absurd hpending (hshown hblank)
    · rw [hpending]
      rfl
    · rw [hnesting] at hopen
      contradiction
  · exact h.region_eq hpending

include hraw in
/-- One more line in the present chunk. -/
theorem Sound.gather (depth : Int) {declaring : Bool} (hdeclaring : declaring = true →
      (declarationFrom? 0 (maskLines (raw :: s.pending).reverse)).isSome) :
  Sound (maskLine region raw).2
    { s.gather depth raw (maskLine region raw).1 with declaring := declaring }
  := by
  obtain ⟨hmask, hregion⟩ := maskLines_reverse_cons (h.regionAfter_pending hline hshown) raw
  constructor
  case chunks => exact h.chunks
  case nonneg => exact hline.closed
  case fresh => exact fun hnil => absurd hnil (List.cons_ne_nil _ _)
  case inLine => exact List.forall_mem_cons.2 ⟨hraw, h.inLine⟩
  case region_eq => exact fun _ => hregion
  case nesting_eq =>
    change changeOver nestingStep (maskLines (raw :: s.pending).reverse) = _
    rw [hmask, changeOver_append, h.nesting_eq, changeOver_singleton]
    rfl
  case declares => exact hdeclaring

/-- A declaration that has begun is found in the chunk. -/
theorem Sound.declared (hdeclares : s.declares (maskLine region raw).1 = true)
    (hcontinues : continues (s.nesting + nestingStep (maskLine region raw).1)
      (strip (maskLine region raw).1) = false) :
  (declarationFrom? 0 (maskLines (raw :: s.pending).reverse)).isSome
  := by
  obtain ⟨hmask, -⟩ := maskLines_reverse_cons (h.regionAfter_pending hline hshown) raw
  rw [hmask]
  by_cases hdeclaring : s.declaring = true
  · exact isSome_declarationFrom?_append (h.declares hdeclaring) _
  · rw [Cutter.declares, Bool.or_eq_true] at hdeclares
    have hname := hdeclares.resolve_left hdeclaring
    simp only [continues, Bool.or_eq_false_iff, decide_eq_false_iff_not] at hcontinues
    -- brackets are neither open behind the line nor in front of it
    have hnesting : s.nesting + nestingStep (maskLine region raw).1 = 0 := by
      have hclosed := hline.closed
      omega
    have hzero := hline.declares hname hnesting
    rw [isSome_declarationFrom?_iff]
    refine ⟨maskLines s.pending.reverse, (maskLine region raw).1, [], rfl, ?_, ?_, hname⟩
    · rw [h.nesting_eq, hzero]
      rfl
    · exact hcontinues.1.1.2

include hraw

/-- A chunk that ends with the line declares a field. -/
theorem Sound.allDeclare_of_ends (depth : Int)
    (hends : s.ends depth (maskLine region raw).1 = true)
    (hcontinues : continues (s.nesting + nestingStep (maskLine region raw).1)
      (strip (maskLine region raw).1) = false) :
  AllDeclare ((if depth < 1
      then withoutBrace (s.gather depth raw (maskLine region raw).1).pendingText
      else (s.gather depth raw (maskLine region raw).1).pendingText) :: s.chunks)
  := by
  rw [Cutter.ends, Bool.and_eq_true] at hends
  have hdeclared := h.declared hline hshown hends.1 hcontinues
  have hpending : (s.gather depth raw (maskLine region raw).1).pending ≠ [] :=
    List.cons_ne_nil _ _
  have hchunk : (declaration? (s.gather depth raw (maskLine region raw).1).pendingText).isSome := by
    rw [declaration?_pendingText hpending (List.forall_mem_cons.2 ⟨hraw, h.inLine⟩)]
    exact hdeclared
  rw [AllDeclare, List.forall_mem_cons]
  refine ⟨?_, h.chunks⟩
  split
  · exact isSome_declaration?_withoutBrace hchunk
  · exact hchunk

/-- A line of a chunk leaves a state in which the next line can be read. -/
theorem Sound.take (depth : Int) :
  Sound (maskLine region raw).2 (s.take depth raw (maskLine region raw).1)
  := by
  obtain ⟨hmask, -⟩ := maskLines_reverse_cons (h.regionAfter_pending hline hshown) raw
  cases hcontinues : continues (s.nesting + nestingStep (maskLine region raw).1)
      (strip (maskLine region raw).1) with
  | true =>
    rw [Cutter.take_of_continues hcontinues]
    apply h.gather hraw hline hshown depth
    intro hdeclaring
    rw [hmask]
    exact isSome_declarationFrom?_append (h.declares hdeclaring) _
  | false =>
    cases hends : s.ends depth (maskLine region raw).1 with
    | false =>
      rw [Cutter.take_of_not_ends hcontinues hends]
      apply h.gather hraw hline hshown depth
      exact fun hdeclares => h.declared hline hshown hdeclares hcontinues
    | true =>
      have hnesting : s.nesting + nestingStep (maskLine region raw).1 = 0 := by
        have hclosed := hline.closed
        simp only [continues, Bool.or_eq_false_iff, decide_eq_false_iff_not] at hcontinues
        omega
      rw [Cutter.take_of_ends hcontinues hends]
      constructor
      case chunks => exact h.allDeclare_of_ends hraw hline hshown depth hends hcontinues
      case nonneg => exact hline.closed
      case fresh => exact fun _ => ⟨rfl, hnesting⟩
      case inLine => exact List.forall_mem_nil _
      case region_eq => exact fun hne => absurd rfl hne
      case nesting_eq => exact hnesting.symm
      case declares => exact fun hfalse => absurd hfalse Bool.false_ne_true

end

/-! ### The whole struct -/

/-- Before the opening brace and in front of a chunk nothing is to be kept. -/
theorem Sound.skip (h : Sound region s) (hpending : s.pending = []) (region' : Region)
    (depth : Int) :
  Sound region' { s with depth := depth }
  where
  chunks := h.chunks
  nonneg := h.nonneg
  fresh := h.fresh
  inLine := h.inLine
  region_eq := fun hne => absurd hpending hne
  nesting_eq := h.nesting_eq
  declares := h.declares

/-- Every chunk of orderly lines declares a field. -/
theorem Sound.allDeclare_cutFrom {ls : List (List Char)} (h : Sound region s)
    (houtside : s.depth = 0 → s.pending = []) (hls : ∀ line ∈ ls, '\n' ∉ line)
    (horderly : OrderlyFrom region s.depth s.nesting ls) :
  AllDeclare (cutFrom s (rows region ls))
  := by
  induction ls generalizing region s with
  | nil => exact h.finish
  | cons line ls ih =>
    obtain ⟨hline, hls⟩ := List.forall_mem_cons.1 hls
    rw [rows_cons]
    rw [OrderlyFrom] at horderly
    by_cases hdepth : s.depth = 0
    · rw [if_pos hdepth] at horderly
      rw [cutFrom_outside hdepth, hdepth, Int.zero_add]
      exact ih (h.skip (houtside hdepth) _ _) (fun _ => houtside hdepth) hls horderly
    rw [if_neg hdepth] at horderly
    obtain ⟨horderlyLine, hrest⟩ := horderly
    by_cases hbraces : s.depth = 1 ∧ s.depth + depthStep (maskLine region line).1 < 1
        ∧ IsBraces (maskLine region line).1
    · rw [cutFrom_closing hbraces.1 hbraces.2.1 hbraces.2.2]
      exact h.finish
    by_cases hblank : allBlank (maskLine region line).1 = true ∧ s.pending = []
    · obtain ⟨hblank, hpending⟩ := hblank
      have hdepthStep := depthStep_of_allBlank hblank
      have hinside : 1 ≤ s.depth := by
        by_contra hlt
        have hstops := horderlyLine.continues_eq_false hbraces (by omega)
        rw [continues_of_allBlank hblank] at hstops
        contradiction
      rw [hdepthStep, nestingStep_of_allBlank hblank, Int.add_zero, Int.add_zero] at hrest
      rw [cutFrom_blank hdepth hblank hpending]
      exact ih (h.skip hpending _ s.depth) houtside hls (hrest hinside)
    · have hshown : allBlank (maskLine region line).1 = true → s.pending ≠ [] :=
        fun hall hpending => hblank ⟨hall, hpending⟩
      have htake := h.take hline horderlyLine hshown
        (s.depth + depthStep (maskLine region line).1)
      obtain ⟨hdepth', hnesting'⟩ := s.take_depth
        (s.depth + depthStep (maskLine region line).1) line (maskLine region line).1
      rw [cutFrom_inside hdepth hbraces hshown]
      dsimp only
      split
      next => exact htake.finish
      next hgoes =>
        have hinside : 1 ≤ s.depth + depthStep (maskLine region line).1 := by
          by_contra hlt
          apply hgoes
          rw [hnesting', horderlyLine.continues_eq_false hbraces (by omega),
            decide_eq_true (by omega)]
          rfl
        apply ih htake _ hls _
        · rw [hdepth']
          intro hzero
          omega
        · rw [hdepth', hnesting']
          exact hrest hinside

end

theorem sound_start :
  Sound .code ⟨0, 0, false, [], []⟩
  where
  chunks := List.forall_mem_nil _
  nonneg := Int.le_refl 0
  fresh := fun _ => ⟨rfl, rfl⟩
  inLine := List.forall_mem_nil _
  region_eq := fun hne => absurd rfl hne
  nesting_eq := rfl
  declares := fun hfalse => absurd hfalse Bool.false_ne_true

/-- If all lines of a struct are orderly, all its fields are decoded. -/
theorem exists_fields_of_orderly {content : List Char} (h : Orderly content) :
  ∃ fs, fields content = .ok fs ∧ fs.length = (chunks content).length
  := by
  have hchunks : AllDeclare (chunks content) := by
    have hlines : ∀ line ∈ lines content, '\n' ∉ line := fun _ => Text.notMem_of_mem_splitAt
    exact sound_start.allDeclare_cutFrom (fun _ => rfl) hlines h
  have hdecoded : ∀ chunk ∈ chunks content, ∃ f, Field.ofText? chunk = some f := by
    intro chunk hchunk
    rw [← Option.isSome_iff_exists, Field.ofText?, Option.isSome_map]
    exact hchunks chunk hchunk
  obtain ⟨fs, hfs⟩ := exists_forall₂_of_forall hdecoded
  exact ⟨fs, fields_eq_ok_iff.2 hfs, hfs.length_eq.symm⟩

/-- A struct with brackets in a comment and in a literal, with a comment that goes over the end of a
line in front of a blank one, and with an attribute on several lines. -/
theorem exists_fields_of_orderly_deposit :
  let content := ("struct Deposit \x7b\n// (\n#[account(mut)]\npub a: Payer, /* [\n*/\n"
    ++ "#[account(\nseeds = [b\"(\"]\n)]\nb: Vault\n\x7d").toList
  Orderly content ∧ ∃ fs, fields content = .ok fs ∧ fs.length = (chunks content).length
  := by
  intro content
  have horderly : Orderly content := by decide +kernel
  exact ⟨horderly, exists_fields_of_orderly horderly⟩

/-- Structs in which a line is not orderly, and the chunk that cannot be decoded: a comment goes
over the end of a line in front of a field, a bracket is closed that is not open, and the line that
ends an attribute reads like a declaration. -/
theorem fields_of_not_orderly :
  fields "pub struct S<'info> \x7b\n    /* the payer\n    */ pub payer: Signer<'info>,\n\x7d".toList
      = .error "    */ pub payer: Signer<'info>,".toList
  ∧ fields "struct S \x7b\n)\npub a: T,\n\x7d".toList = .error ")\npub a: T,".toList
  ∧ fields "struct S \x7b\n#[account(\nx: 1)]\nfoo,\n\x7d".toList
      = .error "#[account(\nx: 1)]\nfoo,".toList
  := by
  refine ⟨?_, ?_, ?_⟩ <;> rfl

end AnchorIndex.Account

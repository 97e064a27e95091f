import AnchorIndex.Proofs.Session.Contents
import AnchorIndex.Proofs.Source.Splitting
import AnchorIndex.Session.Entrypoint

/-!
# Contexts of entrypoints

The accounts struct of an entrypoint is named twice: by the lines of the library file from its
header on, and by the first lines of the function when it is viewed. Both name the same struct if
the function has more than one line, or closes its first context on its only line. Otherwise the
function names none, and in the library file the line behind it is read as well
(`context_of_mem_entrypoints`).
-/

namespace AnchorIndex

/-! ### The first context -/

namespace Source

section

variable {inWord : Bool} {cs rest : List Char}

/-- What a context is followed by is there if more text follows. -/
theorem afterContext?_append (h : afterContext? cs = some rest) (more : List Char) :
  afterContext? (cs ++ more) = some (rest ++ more)
  := by
  rw [afterContext?, Option.bind_eq_some_iff] at h
  obtain ⟨r, hword, hangle⟩ := h
  rw [Text.afterPiece?_eq_some_iff] at hword hangle
  have hmore : Text.stripLeft (r ++ more) = ['<'] ++ (rest ++ more) := by
    have hblank : ¬ Text.allBlank r = true := by
      rw [← Text.stripLeft_eq_nil_iff, hangle]
      simp
    rw [Text.stripLeft_append, if_neg hblank, hangle, List.append_assoc]
  rw [afterContext?, Option.bind_eq_some_iff]
  refine ⟨r ++ more, ?_, ?_⟩
  · rw [Text.afterPiece?_eq_some_iff, hword, List.append_assoc]
  · rw [Text.afterPiece?_eq_some_iff, hmore]

/-- No bracket stands in a text that begins a context and is not one itself. -/
theorem notMem_of_afterContext?_append (h : afterContext? cs = none) {more : List Char}
    (hmore : afterContext? (cs ++ more) = some rest) :
  '<' ∉ cs
  := by
  rw [afterContext?, Option.bind_eq_some_iff] at hmore
  obtain ⟨r, hword, hangle⟩ := hmore
  rw [Text.afterPiece?_eq_some_iff] at hword hangle
  obtain ⟨between, hcs, -⟩ | ⟨between, rfl, rfl⟩ := List.append_eq_append_iff.1 hword
  · have hno : '<' ∉ "Context".toList := by decide
    rw [hcs, List.mem_append, not_or] at hno
    exact hno.1
  · by_cases hblank : Text.allBlank between = true
    · rw [List.mem_append, not_or]
      refine ⟨by decide, fun hmem => ?_⟩
      have hangle := Text.allBlank_iff.1 hblank '<' hmem
      contradiction
    · -- what follows the blanks is the same in both texts
      rw [Text.stripLeft_append, if_neg hblank] at hangle
      obtain ⟨d, left, hleft⟩ := List.exists_cons_of_ne_nil
        (fun hnil => hblank (Text.stripLeft_eq_nil_iff.1 hnil))
      rw [hleft] at hangle
      cases hangle
      have hfound : afterContext? ("Context".toList ++ between) = some left := by
        rw [afterContext?, Text.afterPiece?_eq_some_iff.2 rfl, Option.bind_some, hleft]
        rfl
      rw [hfound] at h
      contradiction

theorem mem_of_afterContext? (h : afterContext? cs = some rest) :
  '<' ∈ cs
  := by
  rw [afterContext?, Option.bind_eq_some_iff] at h
  obtain ⟨r, hword, hangle⟩ := h
  rw [Text.afterPiece?_eq_some_iff] at hword hangle
  rw [hword, List.mem_append]
  exact .inr (Text.mem_of_mem_stripLeft (by rw [hangle]; simp))

theorem mem_of_firstContext? (h : firstContext? inWord cs = some rest) :
  '<' ∈ cs
  := by
  induction cs generalizing inWord with
  | nil => contradiction
  | cons c cs ih =>
    rw [firstContext?] at h
    split at h
    next hhere =>
      split at hhere
      next => contradiction
      next => exact mem_of_afterContext? hhere
    next => exact List.mem_cons_of_mem c (ih h)

/-- The first context of a text is the first one if more text follows. -/
theorem firstContext?_append (h : firstContext? inWord cs = some rest) (more : List Char) :
  firstContext? inWord (cs ++ more) = some (rest ++ more)
  := by
  induction cs generalizing inWord with
  | nil => contradiction
  | cons c cs ih =>
    rw [firstContext?] at h
    rw [List.cons_append, firstContext?]
    cases inWord with
    | true => exact ih h
    | false =>
      simp only [Bool.false_eq_true, if_false] at h ⊢
      cases hhere : afterContext? (c :: cs) with
      | some after =>
        rw [hhere] at h
        cases h
        rw [← List.cons_append, afterContext?_append hhere]
      | none =>
        rw [hhere] at h
        have hnone : afterContext? (c :: (cs ++ more)) = none := by
          rw [Option.eq_none_iff_forall_ne_some]
          intro after hafter
          have hmem := List.mem_cons_of_mem c (mem_of_firstContext? h)
          exact notMem_of_afterContext?_append hhere hafter hmem
        rw [hnone]
        exact ih h

/-- The first context of the text is closed in it. -/
def ClosesContext (cs : List Char) : Prop :=
  ∃ rest parts, firstContext? false cs = some rest ∧ cutAtClosing? '<' '>' 1 rest = some parts

/-- A context that is closed names the same struct if more text follows. -/
theorem ClosesContext.contextName?_append (h : ClosesContext cs) (more : List Char) :
  contextName? (cs ++ more) = contextName? cs
  := by
  obtain ⟨rest, ⟨inner, after⟩, hfirst, hcut⟩ := h
  rw [contextName?, contextName?, firstContext?_append hfirst, hfirst]
  simp only [cutAtClosing?_append hcut, hcut]

theorem contextName?_eq_none (h : ¬ ClosesContext cs) :
  contextName? cs = none
  := by
  rw [contextName?]
  cases hfirst : firstContext? false cs with
  | none => rfl
  | some rest =>
    cases hcut : cutAtClosing? '<' '>' 1 rest with
    | none => simp only [hcut]
    | some parts => exact absurd ⟨rest, parts, hfirst, hcut⟩ h

end

end Source

/-! ### Contexts of a function -/

namespace Session

open Source (ClosesContext Entrypoint contextName?)
open Text (lines unlines)

section

variable {ls : List (List Char)} {first last : Nat}

/-- The context of an excerpt is looked for in its first two lines. -/
theorem headContext?_excerpt (hlines : ∀ l ∈ ls, '\n' ∉ l) (hfirst : 1 ≤ first)
    (hlast : first ≤ last) (hlength : first ≤ ls.length) :
  headContext? (excerpt ls first last) = contextName? (excerpt ls first (min last (first + 1)))
  := by
  have hne : (ls.drop (first - 1)).take (last - (first - 1)) ≠ [] := by
    rw [Ne, List.take_eq_nil_iff, List.drop_eq_nil_iff]
    omega
  have hmem : ∀ l ∈ (ls.drop (first - 1)).take (last - (first - 1)), '\n' ∉ l :=
    fun l hl => hlines l (List.mem_of_mem_drop (List.mem_of_mem_take hl))
  have hcount : min Source.contextLines (last - (first - 1))
      = min last (first + 1) - (first - 1) := by
    rw [Source.contextLines]
    omega
  rw [headContext?, excerpt, Text.lines_unlines hne hmem, List.take_take, hcount, excerpt]

/-- A line begins the excerpt of it and the line below. -/
theorem exists_excerpt_append (hfirst : 1 ≤ first) (hlength : first ≤ ls.length) :
  ∃ more, excerpt ls first (first + 1) = excerpt ls first first ++ more
  := by
  have hone : first - (first - 1) = 1 := by omega
  have htwo : first + 1 - (first - 1) = 2 := by omega
  rw [excerpt, excerpt, hone, htwo]
  cases hdrop : ls.drop (first - 1) with
  | nil =>
    rw [List.drop_eq_nil_iff] at hdrop
    omega
  | cons line rest =>
    cases rest with
    | nil => exact ⟨[], by simp⟩
    | cons line' rest =>
      have happend := @Text.unlines_append [line] [line'] (by simp) (by simp)
      exact ⟨'\n' :: unlines [line'], happend⟩

end

/-- An entrypoint is a function of the text, and what is read of it in the library file are the
line of its header and the line below. -/
theorem exists_of_mem_entrypoints {text : String} {e : Entrypoint}
    (he : e ∈ Source.entrypoints text) :
  1 ≤ e.first ∧ e.first ≤ e.last ∧ e.last ≤ (lines text.toList).length
    ∧ e.context = (contextName? (excerpt (lines text.toList) e.first (e.first + 1))).map
        String.ofList
  := by
  rw [Source.entrypoints] at he
  split at he
  next => contradiction
  next first last hmodule =>
    obtain ⟨r, hr, rfl⟩ := List.mem_map.1 he
    obtain ⟨hfirst, hlast, hlength⟩ := Source.bounds_of_mem_scan (List.mem_filter.1 hr).1
    have htwo : r.first + 1 - (r.first - 1) = Source.contextLines := by
      rw [Source.contextLines]
      omega
    refine ⟨hfirst, hlast, hlength, ?_⟩
    rw [excerpt, htwo]

/-- The struct that an entrypoint of the library file names is the one that its function names, if
this has more than one line or closes its first context. A function of one line that does not
names none, and the struct is looked for on the line behind it as well. -/
theorem context_of_mem_entrypoints {text : String} {e : Entrypoint}
    (he : e ∈ Source.entrypoints text) :
  (e.first < e.last ∨ ClosesContext (excerpt (lines text.toList) e.first e.last) →
      e.context
        = (headContext? (excerpt (lines text.toList) e.first e.last)).map String.ofList)
    ∧ (¬ (e.first < e.last ∨ ClosesContext (excerpt (lines text.toList) e.first e.last)) →
      headContext? (excerpt (lines text.toList) e.first e.last) = none
        ∧ e.context = (contextName? (excerpt (lines text.toList) e.first (e.last + 1))).map
            String.ofList)
  := by
  obtain ⟨hfirst, hle, hlast, hcontext⟩ := exists_of_mem_entrypoints he
  have hlines : ∀ l ∈ lines text.toList, '\n' ∉ l := fun l => Text.notMem_of_mem_splitAt
  have hlength := Nat.le_trans hle hlast
  rw [hcontext, headContext?_excerpt hlines hfirst hle hlength]
  obtain heq | hlt := Nat.eq_or_lt_of_le hle
  · obtain ⟨more, hmore⟩ := exists_excerpt_append hfirst hlength
    rw [← heq, Nat.min_eq_left (Nat.le_succ e.first)]
    constructor
    · rintro (hlt | hcloses)
      · exact absurd hlt (Nat.lt_irrefl e.first)
      · rw [hmore, hcloses.contextName?_append]
    · intro hnot
      exact ⟨Source.contextName?_eq_none fun hcloses => hnot (.inr hcloses), rfl⟩
  · rw [Nat.min_eq_right hlt]
    exact ⟨fun _ => rfl, fun hnot => absurd (.inl hlt) hnot⟩

/-- A program with a function on one line and a function on two. -/
def bankText : String :=
  "#[program]\nmod bank \x7b\n  fn pay(ctx: Context<Pay>) \x7b\x7d\n"
    ++ "  fn close(\n    ctx: Context<'_, Close<'_>>) \x7b\x7d\n\x7d\n"

theorem context_bankText :
  ⟨"pay", 3, 3, some "Pay"⟩ ∈ Source.entrypoints bankText
    ∧ ⟨"close", 4, 5, some "Close"⟩ ∈ Source.entrypoints bankText
    ∧ ClosesContext (excerpt (lines bankText.toList) 3 3)
    ∧ some "Pay" = (headContext? (excerpt (lines bankText.toList) 3 3)).map String.ofList
    ∧ some "Close" = (headContext? (excerpt (lines bankText.toList) 4 5)).map String.ofList
  := by
  have hentrypoints : Source.entrypoints bankText
      = [⟨"pay", 3, 3, some "Pay"⟩, ⟨"close", 4, 5, some "Close"⟩] := by decide +kernel
  have hpay : ⟨"pay", 3, 3, some "Pay"⟩ ∈ Source.entrypoints bankText := by
    rw [hentrypoints]
    simp
  have hclose : ⟨"close", 4, 5, some "Close"⟩ ∈ Source.entrypoints bankText := by
    rw [hentrypoints]
    simp
  have hcloses : ClosesContext (excerpt (lines bankText.toList) 3 3) :=
    ⟨"Pay>) \x7b\x7d".toList, ("Pay".toList, ">) \x7b\x7d".toList), by decide +kernel,
      by decide +kernel⟩
  refine ⟨hpay, hclose, hcloses, ?_, ?_⟩
  · exact (context_of_mem_entrypoints hpay).1 (.inr hcloses)
  · exact (context_of_mem_entrypoints hclose).1 (.inl (by decide))

/-- A function without a context stands above one with a context. -/
def initText : String :=
  "#[program]\nmod bank \x7b\n  fn init() \x7b\x7d\n  fn pay(ctx: Context<Pay>) \x7b\x7d\n\x7d\n"

/-- The entrypoint names the struct of the function below. -/
theorem context_of_line_below :
  ⟨"init", 3, 3, some "Pay"⟩ ∈ Source.entrypoints initText
    ∧ headContext? (excerpt (lines initText.toList) 3 3) = none
  := by
  decide +kernel

end Session

end AnchorIndex

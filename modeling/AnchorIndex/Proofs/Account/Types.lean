import AnchorIndex.Proofs.Account.Items
import AnchorIndex.Proofs.Account.Masking
import AnchorIndex.Proofs.Text.Searching

/-!
# Reading types

The type of an account field is read as the account type it stands for, whatever blanks stand in it
(`IsType.ofText_eq`).
-/

namespace AnchorIndex.Account

open Text (allBlank squeeze strip)

section

variable {path cs text : List Char} {type : AccountType}

theorem IsPath.isBlank_eq_false (h : IsPath path) :
  ∀ c ∈ path, Text.isBlank c = false
  := fun c hc => isBlank_of_isKeyChar (h.2 c hc)

theorem IsPath.notMem_angle (h : IsPath path) :
  '<' ∉ path
  := by
  intro hmem
  have hkey := h.2 '<' hmem
  contradiction

theorem IsPath.takeWhile_append (h : IsPath path) (more : List Char) :
  (path ++ '<' :: more).takeWhile (· != '<') = path
    ∧ (path ++ '<' :: more).dropWhile (· != '<') = '<' :: more
  := by
  have hpath : ∀ c ∈ path, (c != '<') = true := by
    intro c hc
    rw [bne_iff_ne]
    rintro rfl
    exact h.notMem_angle hc
  rw [List.takeWhile_append_of_pos hpath, List.dropWhile_append_of_pos hpath]
  simp

/-- A path with or without arguments is read as it is, once it is taken out of its box. -/
theorem IsPathType.ofText_eq (h : IsPathType cs type) (hunbox : unbox (squeeze text) = squeeze cs) :
  AccountType.ofText text = type
  := by
  rw [AccountType.ofText, hunbox]
  cases h with
  | path hpath =>
    have hnone : cs.contains '<' = false := by simpa using hpath.notMem_angle
    rw [Text.squeeze_eq_self hpath.isBlank_eq_false]
    dsimp only
    rw [hnone]
    rfl
  | @generic path list arguments hpath hseparated harguments =>
    obtain ⟨a, b, ha, hb, hlist⟩ :=
      @Text.exists_squeeze_brackets '<' '>' (by decide) (by decide) list
    have hcs : squeeze (path ++ '<' :: (list ++ ['>']))
        = path ++ '<' :: (a ++ (squeeze list ++ b) ++ ['>']) := by
      rw [Text.squeeze_solid_append hpath.isBlank_eq_false (by decide), hlist]
    have hcontains : (path ++ '<' :: (a ++ (squeeze list ++ b) ++ ['>'])).contains '<' = true := by
      simp
    have hlast : Text.lastIs '>' (path ++ '<' :: (a ++ (squeeze list ++ b) ++ ['>'])) = true := by
      rw [Text.lastIs, ← List.cons_append, ← List.append_assoc, List.getLast?_concat]
      rfl
    obtain ⟨htake, hdrop⟩ := hpath.takeWhile_append (a ++ (squeeze list ++ b) ++ ['>'])
    have hargs : Source.splitCommas true (a ++ (squeeze list ++ b)) = arguments.map squeeze :=
      hseparated.splitCommas_squeeze harguments ha hb
    rw [hcs]
    dsimp only
    rw [hcontains, hlast, htake, hdrop, List.drop_succ_cons, List.drop_zero, List.dropLast_concat,
      hargs, Text.strip_eq_self hpath.isBlank_eq_false]
    rfl

/-- A box is never opened by blanks that are left out. -/
theorem IsPathType.not_box (h : IsPathType cs type) (hnone : ¬ "Box<".toList <+: cs) :
  ¬ "Box<".toList <+: squeeze cs
  := by
  rintro ⟨rest, hrest⟩
  cases h with
  | path hpath =>
    rw [Text.squeeze_eq_self hpath.isBlank_eq_false] at hrest
    apply hpath.notMem_angle
    rw [← hrest]
    exact List.mem_append_left _ (by decide)
  | @generic path list arguments hpath _ _ =>
    obtain ⟨a, b, -, -, hlist⟩ :=
      @Text.exists_squeeze_brackets '<' '>' (by decide) (by decide) list
    rw [Text.squeeze_solid_append hpath.isBlank_eq_false (by decide), hlist] at hrest
    have hname : "Box".toList = path := by
      rw [← (hpath.takeWhile_append (a ++ (squeeze list ++ b) ++ ['>'])).1, ← hrest]
      rfl
    apply hnone
    rw [← hname]
    exact ⟨list ++ ['>'], rfl⟩

/-- What is in a box is taken out of it. -/
theorem unbox_squeeze {before after : List Char} (hbefore : allBlank before = true)
    (hafter : allBlank after = true) (cs : List Char) :
  unbox (squeeze ("Box<".toList ++ (before ++ (cs ++ (after ++ ['>']))))) = squeeze cs
  := by
  obtain ⟨a, b, ha, hb, hlist⟩ :=
    @Text.exists_squeeze_brackets '<' '>' (by decide) (by decide) (before ++ (cs ++ after))
  rw [Text.squeeze_blank_append hbefore, Text.squeeze_append_blank hafter] at hlist
  have htext : "Box<".toList ++ (before ++ (cs ++ (after ++ ['>'])))
      = "Box".toList ++ '<' :: (before ++ (cs ++ after) ++ ['>']) := by simp
  have hname : ∀ c ∈ "Box".toList, Text.isBlank c = false := by
    intro c hc
    simpa using List.all_eq_true.1 (show "Box".toList.all (!Text.isBlank ·) = true by decide) c hc
  have hbox : squeeze ("Box<".toList ++ (before ++ (cs ++ (after ++ ['>']))))
      = "Box<".toList ++ (a ++ (squeeze cs ++ b) ++ ['>']) := by
    rw [htext, Text.squeeze_solid_append hname (by decide), hlist]
    rfl
  have hlast : Text.lastIs '>' ("Box<".toList ++ (a ++ (squeeze cs ++ b) ++ ['>'])) = true := by
    rw [Text.lastIs, ← List.append_assoc, List.getLast?_concat]
    rfl
  rw [hbox, unbox, Text.afterPiece?_eq_some_iff.2 rfl]
  dsimp only
  rw [hlast, if_pos rfl, List.dropLast_concat, Text.strip_append_blank ha hb, Text.strip_squeeze]

/-- The text of a type is read as the account type it stands for. -/
theorem IsType.ofText_eq (h : IsType cs type) (htext : squeeze text = squeeze cs) :
  AccountType.ofText text = type
  := by
  cases h with
  | unboxed htype hnone =>
    apply htype.ofText_eq
    rw [htext, unbox, Text.afterPiece?_eq_none_iff.2 (htype.not_box hnone)]
  | @boxed before cs after type hbefore htype hafter =>
    apply htype.ofText_eq
    rw [htext, unbox_squeeze hbefore hafter]

theorem IsPath.exists_concat (h : IsPath path) :
  ∃ front c, path = front ++ [c] ∧ Text.isBlank c = false ∧ c ≠ ','
  := by
  obtain ⟨hne, hpath⟩ := h
  cases path using List.reverseRecOn with
  | nil => contradiction
  | append_singleton front c =>
    have hkey := hpath c (by simp)
    refine ⟨front, c, rfl, isBlank_of_isKeyChar hkey, ?_⟩
    rintro rfl
    contradiction

/-- A type ends with a solid character that is no comma. -/
theorem IsType.exists_concat (h : IsType cs type) :
  ∃ front c, cs = front ++ [c] ∧ Text.isBlank c = false ∧ c ≠ ','
  := by
  cases h with
  | unboxed h _ =>
    cases h with
    | path h => exact h.exists_concat
    | @generic path list _ _ _ _ => exact ⟨path ++ '<' :: list, '>', by simp, by decide, by decide⟩
  | @boxed before cs after _ _ _ _ =>
    exact ⟨"Box<".toList ++ (before ++ (cs ++ after)), '>', by simp, by decide, by decide⟩

/-! ### Masked types -/

theorem IsPathType.kept (h : IsPathType cs type) :
  Kept cs
  := by
  have hpath : ∀ {path : List Char}, IsPath path → IsNested true false path :=
    fun hpath => isNested_of_forall fun c hc => isPlain_of_isKeyChar (hpath.2 c hc)
  cases h with
  | path h => exact (hpath h).kept
  | @generic path list arguments h hseparated harguments =>
    have hlist := hseparated.isNested fun a ha => (harguments a ha).1
    have hclosed : Kept (list ++ ['>']) :=
      hlist.kept.append (kept_of_forall (List.forall_mem_singleton.2 (by decide)))
        (ends_cons (by decide) [])
    have hopened : Kept ('<' :: (list ++ ['>'])) :=
      hclosed.keep_append (List.forall_mem_singleton.2 (by decide : '<' ∉ ['"', '\'', '/', 'r']))
    exact (hpath h).kept.append hopened (ends_cons (by decide) _)

theorem IsType.kept (h : IsType cs type) :
  Kept cs
  := by
  cases h with
  | unboxed h => exact h.kept
  | @boxed before cs after _ hbefore h hafter =>
    have hclosed : Kept (after ++ ['>']) :=
      (kept_of_forall (List.forall_mem_singleton.2 (by decide))).keep_append
        (keep_of_allBlank hafter)
    have hends : Ends (after ++ ['>']) :=
      (ends_of_allBlank hafter).append (ends_cons (by decide) [])
    have hinner := (h.kept.append hclosed hends).keep_append (keep_of_allBlank hbefore)
    exact hinner.keep_append (keep_of_all (by decide))

end

end AnchorIndex.Account

import AnchorIndex.Account.Listing
import AnchorIndex.Proofs.Source.Names
import AnchorIndex.Proofs.Store.Records

/-!
# What account fields are decoded to

Whatever the text of an account field is, the texts that it is decoded to are trimmed and on one
line, and the lifetime is not empty (`isDecoded_of_ofText?`). Only the rent payer may be empty, and
then a document takes it for none (`Field.IsDecoded.normal_eq`).
-/

namespace AnchorIndex.Account

open Document
  (IsNormal Unbroken isNormal_strip map_normalText_eq_self normalText_eq_self unbroken_of_subset)

/-! ### Items of lists -/

theorem mem_of_mem_consFirst {c d : Char} {p : List Char} {ps : List (List Char)}
    (hp : p ∈ Source.consFirst c ps) (hd : d ∈ p) :
  d = c ∨ ∃ q ∈ ps, d ∈ q
  := by
  cases ps with
  | nil =>
    rw [Source.consFirst, List.mem_singleton] at hp
    subst hp
    exact .inl (List.mem_singleton.1 hd)
  | cons q ps =>
    obtain rfl | hp := List.mem_cons.1 hp
    · obtain rfl | hd := List.mem_cons.1 hd
      · exact .inl rfl
      · exact .inr ⟨q, List.mem_cons_self, hd⟩
    · exact .inr ⟨p, List.mem_cons_of_mem q hp, hd⟩

/-- The pieces of a list are made of its characters. -/
theorem mem_of_mem_piecesFrom {isSeparator : Char → Bool} {angles : Bool} {n : Source.Nesting}
    {cs p : List Char} (hp : p ∈ Source.piecesFrom isSeparator angles n cs) {d : Char}
    (hd : d ∈ p) :
  d ∈ cs
  := by
  induction cs generalizing n p with
  | nil =>
    rw [Source.piecesFrom, List.mem_singleton] at hp
    rwa [hp] at hd
  | cons c r ih =>
    rw [Source.piecesFrom] at hp
    split at hp
    · obtain rfl | hp := List.mem_cons.1 hp
      · contradiction
      · apply List.mem_cons_of_mem c (ih hp hd)
    · obtain rfl | ⟨q, hq, hd⟩ := mem_of_mem_consFirst hp hd
      · apply List.mem_cons_self
      · apply List.mem_cons_of_mem c (ih hq hd)

/-- The items of a list without breaks are kept by a document, and not empty. -/
theorem isNormal_of_mem_splitCommas {angles : Bool} {cs item : List Char} (h : Unbroken cs)
    (hitem : item ∈ Source.splitCommas angles cs) :
  IsNormal (String.ofList item) ∧ item ≠ []
  := by
  obtain ⟨hmem, hne⟩ := List.mem_filter.1 hitem
  obtain ⟨piece, hpiece, rfl⟩ := List.mem_map.1 hmem
  constructor
  · apply isNormal_strip
    apply unbroken_of_subset h
    intro c hc
    apply mem_of_mem_piecesFrom hpiece hc
  · rintro heq
    rw [heq] at hne
    contradiction

/-! ### Types -/

theorem isNormal_unbox {type : List Char} (h : IsNormal (String.ofList type)) :
  IsNormal (String.ofList (unbox type))
  := by
  rw [unbox]
  split
  next rest hrest =>
    split
    · apply isNormal_strip
      rw [IsNormal, String.toList_ofList] at h
      apply unbroken_of_subset h.1
      intro c hc
      rw [Text.afterPiece?_eq_some_iff.1 hrest]
      apply List.mem_append_right _ ((List.dropLast_sublist rest).subset hc)
    · exact h
  · exact h

/-- A document keeps the parts of a type. -/
theorem AccountType.isNormal_ofText (text : List Char) :
  IsNormal (ofText text).wrapper ∧ IsNormal (ofText text).inner
    ∧ IsNormalOption (ofText text).lifetime
  := by
  have htype := isNormal_unbox (Source.isNormal_squeeze text)
  have hunbroken := htype.1
  rw [String.toList_ofList] at hunbroken
  simp only [ofText]
  split
  · exact ⟨htype, htype, fun t ht => by contradiction⟩
  · have hwrapper := isNormal_strip (unbroken_of_subset hunbroken
      (List.takeWhile_sublist (· != '<')).subset)
    have hargs : ∀ arg ∈ Source.splitCommas true
        (((unbox (Text.squeeze text)).dropWhile (· != '<')).drop 1).dropLast,
        IsNormal (String.ofList arg) ∧ arg ≠ [] := by
      intro arg
      apply isNormal_of_mem_splitCommas
      apply unbroken_of_subset hunbroken
      apply List.Sublist.subset
      exact ((List.dropLast_sublist _).trans (List.drop_sublist 1 _)).trans
        (List.dropWhile_sublist _)
    refine ⟨hwrapper, ?_, ?_⟩
    · cases hfind : (Source.splitCommas true
          (((unbox (Text.squeeze text)).dropWhile (· != '<')).drop 1).dropLast).find?
          (!Text.headIs '\'' ·) with
      | none => exact hwrapper
      | some arg => exact (hargs arg (List.mem_of_find?_eq_some hfind)).1
    · intro t ht
      obtain ⟨arg, harg, rfl⟩ := Option.map_eq_some_iff.1 ht
      obtain ⟨hnormal, hne⟩ := hargs arg (List.mem_of_head? (Option.filter_eq_some_iff.1 harg).1)
      use hnormal
      rwa [ne_eq, String.ofList_eq_empty_iff]

/-! ### Constraints -/

/-- An assignment is on one line, and so is its value. -/
def Constraint.IsNormal : Constraint → Prop
  | flag _ => True
  | assignment _ value item => Unbroken value ∧ Document.IsNormal (String.ofList item)

/-- The value of an item is made of its characters. -/
theorem mem_of_keyValue? {item key value : List Char} (h : keyValue? item = some (key, value))
    {c : Char} (hc : c ∈ value) :
  c ∈ item
  := by
  cases item with
  | nil => contradiction
  | cons d r =>
    rw [keyValue?] at h
    split at h
    · split at h
      · contradiction
      next rest heq =>
        cases h
        have hrest : c ∈ Text.stripLeft (r.dropWhile isKeyChar) := by
          rw [heq]
          apply List.mem_cons_of_mem '=' (Text.mem_of_mem_strip hc)
        apply List.mem_cons_of_mem d
        apply (List.dropWhile_sublist isKeyChar).subset
        apply (List.dropWhile_sublist Text.isBlank).subset hrest
      · contradiction
    · contradiction

theorem isNormal_of_mem_constraints {text : List Char} {constraint : Constraint}
    (h : constraint ∈ constraints text) :
  constraint.IsNormal
  := by
  obtain ⟨body, -, h⟩ := List.mem_flatMap.1 h
  obtain ⟨item, -, rfl⟩ := List.mem_map.1 h
  have hitem := Source.isNormal_squeeze item
  rw [Constraint.ofItem]
  split
  next key value heq =>
    refine ⟨?_, hitem⟩
    rw [Document.IsNormal, String.toList_ofList] at hitem
    intro c hc
    apply hitem.1 c (mem_of_keyValue? heq hc)
  · trivial

/-- A value under a key is on one line. -/
theorem unbroken_of_mem_values {text key value : List Char}
    (h : value ∈ (constraints text).filterMap (Constraint.value? key)) :
  Unbroken value
  := by
  obtain ⟨constraint, hconstraint, hvalue⟩ := List.mem_filterMap.1 h
  have hnormal := isNormal_of_mem_constraints hconstraint
  cases constraint with
  | flag name => contradiction
  | assignment key' value' item =>
    rw [Constraint.value?] at hvalue
    split at hvalue
    · cases hvalue
      exact hnormal.1
    · contradiction

theorem isNormal_of_lastValue? {text key : List Char} {t : String}
    (h : lastValue? key (constraints text) = some t) :
  IsNormal t
  := by
  obtain ⟨value, hvalue, rfl⟩ := Option.map_eq_some_iff.1 h
  apply isNormal_strip
  apply unbroken_of_subset (unbroken_of_mem_values (List.mem_of_getLast? hvalue))
  apply (List.takeWhile_sublist _).subset

/-! ### Fields -/

/-- The texts of the field are trimmed and on one line. Only the rent payer may be an optional text
that is empty. -/
structure Field.IsDecoded (f : Field) : Prop where
  name : IsNormal f.name
  wrapper : IsNormal f.wrapper
  inner : IsNormal f.inner
  lifetime : IsNormalOption f.lifetime
  seeds : ∀ t ∈ f.seeds, IsNormal t
  rentPayer : ∀ t, f.rentPayer = some t → IsNormal t
  validations : ∀ t ∈ f.validations, IsNormal t

theorem isNormal_of_nameBeforeColon? {cs name : List Char} (h : nameBeforeColon? cs = some name) :
  IsNormal (String.ofList name)
  := by
  rw [nameBeforeColon?] at h
  split at h
  · contradiction
  next name' rest hname =>
    split at h
    · contradiction
    · cases h
      apply Source.isNormal_of_name? hname
    · contradiction

theorem isNormal_of_declarationFrom? {depth : Int} {lines : List (List Char)}
    {name type : List Char} (h : declarationFrom? depth lines = some (name, type)) :
  IsNormal (String.ofList name)
  := by
  induction lines generalizing depth with
  | nil => contradiction
  | cons line rest ih =>
    rw [declarationFrom?] at h
    split at h
    next name' hname =>
      cases h
      split at hname
      · rw [fieldName?, Option.or_eq_some_iff] at hname
        obtain hname | ⟨-, hname⟩ := hname
        · apply isNormal_of_nameBeforeColon? hname
        · apply isNormal_of_nameBeforeColon? hname
      · contradiction
    · apply ih h

/-- Whatever the text of a field is, a document keeps what it is decoded to, but for an empty rent
payer. -/
theorem isDecoded_of_ofText? {text : List Char} {f : Field} (h : Field.ofText? text = some f) :
  f.IsDecoded
  := by
  obtain ⟨⟨name, type⟩, hdeclaration, rfl⟩ := Option.map_eq_some_iff.1 h
  obtain ⟨hwrapper, hinner, hlifetime⟩ := AccountType.isNormal_ofText type
  refine ⟨isNormal_of_declarationFrom? hdeclaration, hwrapper, hinner, hlifetime, ?_, ?_, ?_⟩
  · intro t ht
    obtain ⟨seed, hseed, rfl⟩ := List.mem_map.1 ht
    obtain ⟨value, -, hseed⟩ := List.mem_flatMap.1 hseed
    rw [seedList] at hseed
    split at hseed
    · obtain ⟨item, -, rfl⟩ := List.mem_map.1 hseed
      apply Source.isNormal_squeeze
    · contradiction
  · intro t ht
    obtain hpayer | ⟨-, hclose⟩ := Option.or_eq_some_iff.1 ht
    · apply isNormal_of_lastValue? hpayer
    · apply isNormal_of_lastValue? hclose
  · intro t ht
    obtain ⟨item, hitem, rfl⟩ := List.mem_map.1 ht
    obtain ⟨constraint, hconstraint, hvalidation⟩ := List.mem_filterMap.1 hitem
    have hnormal := isNormal_of_mem_constraints hconstraint
    cases constraint with
    | flag name => contradiction
    | assignment key value item' =>
      rw [Constraint.validation?] at hvalidation
      split at hvalidation
      · cases hvalidation
        exact hnormal.2
      · contradiction

/-- The fields of a struct are decoded. -/
theorem isDecoded_of_mem_fields {content : List Char} {fs : List Field}
    (h : fields content = .ok fs) {f : Field} (hf : f ∈ fs) :
  f.IsDecoded
  := by
  obtain ⟨chunk, -, hchunk⟩ := exists_of_forall₂_right (mapM_eq_ok_iff.1 h) hf
  split at hchunk
  next f' hdecoded =>
    cases hchunk
    apply isDecoded_of_ofText? hdecoded
  · contradiction

/-! ### What documents keep -/

/-- The field with no rent payer in the place of an empty one. -/
def Field.withoutEmptyPayer (f : Field) : Field :=
  { f with rentPayer := f.rentPayer.filter (· != "") }

/-- The record with no rent payer in the place of an empty one. -/
def Record.withoutEmptyPayers (r : Record) : Record :=
  { r with accounts := r.accounts.map Field.withoutEmptyPayer }

/-- What a document keeps of a field that is decoded. -/
theorem Field.IsDecoded.normal_eq {f : Field} (h : f.IsDecoded) :
  f.normal = f.withoutEmptyPayer
  := by
  have hpayer : normalOption f.rentPayer = f.rentPayer.filter (· != "") := by
    cases hrent : f.rentPayer with
    | none => rfl
    | some t => rw [normalOption, Option.map_some, normalText_eq_self (h.rentPayer t hrent)]
  rw [Field.normal, Field.withoutEmptyPayer, normalText_eq_self h.name,
    normalText_eq_self h.wrapper, normalText_eq_self h.inner, normalOption_eq_self h.lifetime,
    map_normalText_eq_self h.seeds, map_normalText_eq_self h.validations, hpayer]

/-- What a document keeps of a record whose fields are decoded. -/
theorem Record.normal_eq_of_isDecoded {r : Record} (hid : IsNormal r.structId)
    (hname : IsNormal r.name) (h : ∀ f ∈ r.accounts, f.IsDecoded) :
  r.normal = r.withoutEmptyPayers
  := by
  rw [Record.normal, Record.withoutEmptyPayers, normalText_eq_self hid, normalText_eq_self hname]
  congr 1
  apply List.map_congr_left
  intro f hf
  apply (h f hf).normal_eq

end AnchorIndex.Account

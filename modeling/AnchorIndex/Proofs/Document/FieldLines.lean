import AnchorIndex.Document.Decode
import AnchorIndex.Proofs.Datum.Entries
import AnchorIndex.Proofs.Datum.Traversal
import AnchorIndex.Proofs.Document.Normal
import AnchorIndex.Proofs.Text.Numerals

/-!
# Lines of fields

Each line that is written for a field is recognised for what it is, whatever the values are: the
line of a key (`readKeyLine?_keyLine`) is neither blank nor an item, and the line of an item
(`readItemLine?_itemLine`) belongs to the list above it. So the lines of a field are read as one
value (`ReadsAs`), or they cannot be read at all (`exists_readsAs_or`); a value of the type of the
field is read as its normal form (`readsAs_normal`). The order in which the fields of a section
stand does not matter (`readFields_perm_iff`).
-/

namespace AnchorIndex.Document

open Text

/-! ### Lines of keys -/

/-- The line of a key has no blanks at its end. -/
theorem keyLine_eq (key : String) (value : List Char) :
  keyLine key value
    = '-' :: ' ' :: (key.toList ++ ':' :: if allBlank value then [] else ' ' :: stripRight value)
  := by
  have hline : "- ".toList ++ key.toList ++ ": ".toList ++ value
      = ('-' :: ' ' :: key.toList ++ [':']) ++ ' ' :: value := by
    simp
  have hkey : stripRight ('-' :: ' ' :: key.toList ++ [':'])
      = '-' :: ' ' :: key.toList ++ [':'] := by
    rw [stripRight_append]
    rfl
  have hblank : allBlank (' ' :: value) = allBlank value := rfl
  rw [keyLine, hline, stripRight_append, hkey, stripRight_cons, hblank]
  split <;> simp

/-- A name ends where no character of a name follows. -/
theorem name?_append {key : String} (hk : isName key = true) {c : Char}
    (hc : isNameChar c = false) (r : List Char) :
  name? (key.toList ++ c :: r) = some (key.toList, c :: r)
  := by
  rw [isName] at hk
  cases hkey : key.toList with
  | nil => simp [hkey] at hk
  | cons d k =>
    simp only [hkey, Bool.and_eq_true, List.all_eq_true] at hk
    rw [List.cons_append, name?, if_pos hk.1, List.takeWhile_append_of_pos hk.2,
      List.dropWhile_append_of_pos hk.2]
    simp [hc]

/-- The line of a key gives the key and, up to blanks at its ends, the value. -/
theorem readKeyLine?_keyLine {key : String} (hk : isName key = true) (value : List Char) :
  ∃ v, readKeyLine? (keyLine key value) = some (key.toList, v) ∧ strip v = strip value
  := by
  have htrim : stripRight (keyLine key value) = keyLine key value := stripRight_stripRight _
  have hname := name?_append hk (c := ':') rfl
  rw [readKeyLine?, htrim, keyLine_eq]
  by_cases hv : allBlank value = true
  · use []
    rw [if_pos hv]
    constructor
    · simp [afterPiece?, keyValue?, hname]
    · rw [strip_eq_nil_iff.2 hv]
      rfl
  · use stripRight value
    rw [if_neg hv]
    constructor
    · have hblank : isBlank ' ' = true := rfl
      simp [afterPiece?, keyValue?, hname, hblank]
    · apply strip_stripRight

theorem allBlank_keyLine (key : String) (value : List Char) :
  allBlank (keyLine key value) = false
  := by
  rw [keyLine_eq]
  rfl

theorem readItemLine?_keyLine (key : String) (value : List Char) :
  readItemLine? (keyLine key value) = none
  := by
  rw [keyLine_eq]
  rfl

section Fields

variable {l : Layout} (hl : l.WellFormed) {f : FieldSpec} (hf : f ∈ l.fields) {p : Progress}
  (hp : p.values.lookup f.key = none)

include hl hf hp

/-- A line of a key adds the value to which it reads. -/
theorem readLine_keyLine {value : List Char} {v : Value} (ht : f.type ≠ .textList)
    (hv : readValue f.type (strip value) = .ok v) :
  p.readLine l (keyLine f.key value) = .ok ⟨(f.key, v) :: p.values, false⟩
  := by
  obtain ⟨v', hline, hstrip⟩ := readKeyLine?_keyLine (hl.isName f hf) value
  rw [Progress.readLine, allBlank_keyLine, readItemLine?_keyLine]
  simp [Progress.readField, hline, hl.field?_eq hf, hp, ht, hstrip, hv]

/-- A line of the key of a list opens the list. -/
theorem readLine_listKey (ht : f.type = .textList) :
  p.readLine l (keyLine f.key []) = .ok ⟨(f.key, .texts []) :: p.values, true⟩
  := by
  obtain ⟨v', hline, hstrip⟩ := readKeyLine?_keyLine (hl.isName f hf) []
  have hempty : strip v' = [] := hstrip
  rw [Progress.readLine, allBlank_keyLine, readItemLine?_keyLine]
  simp [Progress.readField, hline, hl.field?_eq hf, hp, ht, hempty]

omit hp in
/-- A line of a key whose value cannot be read is not read anywhere. -/
theorem readLine_keyLine_ne_ok {value : List Char} {reason : String} (ht : f.type ≠ .textList)
    (hv : readValue f.type (strip value) = .error reason) (p q : Progress) :
  p.readLine l (keyLine f.key value) ≠ .ok q
  := by
  obtain ⟨v', hline, hstrip⟩ := readKeyLine?_keyLine (hl.isName f hf) value
  rw [Progress.readLine, allBlank_keyLine, readItemLine?_keyLine]
  simp only [Bool.false_eq_true, if_false, Progress.readField, hline, String.ofList_toList,
    hl.field?_eq hf, hstrip, hv, if_neg ht]
  split
  · simp
  · simp

end Fields

/-! ### Lines of items -/

/-- The line of an item gives the item. -/
theorem readItemLine?_itemLine (item : String) :
  readItemLine? (itemLine item) = some (oneLine item)
  := rfl

/-- A line of an item adds the item to the list that is open. -/
theorem readLine_itemLine (l : Layout) (key : String) (items : List String)
    (vs : List (String × Value)) (item : String) :
  Progress.readLine l ⟨(key, .texts items) :: vs, true⟩ (itemLine item)
    = .ok ⟨(key, .texts (items ++ [normalText item])) :: vs, true⟩
  := by
  have hblank : allBlank (itemLine item) = false := rfl
  have hitem : String.ofList (strip (oneLine item)) = normalText item := by
    rw [oneLine, foldBreaks_eq_foldRuns, normalText]
  simp [Progress.readLine, hblank, readItemLine?_itemLine, Progress.addItem?, hitem]

theorem foldlM_itemLines (l : Layout) (key : String) (items read : List String)
    (vs : List (String × Value)) :
  (items.map itemLine).foldlM (Progress.readLine l) ⟨(key, .texts read) :: vs, true⟩
    = .ok ⟨(key, .texts (read ++ items.map normalText)) :: vs, true⟩
  := by
  induction items generalizing read with
  | nil => simp [pure, Except.pure]
  | cons item items ih =>
    rw [List.map_cons, List.foldlM_cons, readLine_itemLine]
    change (items.map itemLine).foldlM _ _ = _
    rw [ih]
    simp

/-! ### Values -/

/-- A text is cut at the first occurrence of a character. -/
theorem cutAt?_append {mark : Char} {front : List Char} (h : mark ∉ front) (after : List Char) :
  cutAt? [mark] (front ++ mark :: after) = some (front, after)
  := by
  induction front with
  | nil => simp [cutAt?, afterPiece?]
  | cons c front ih =>
    rw [List.mem_cons, not_or] at h
    have hcut := ih h.2
    rw [List.cons_append, cutAt?]
    simp [afterPiece?, h.1, hcut]

/-- A range that does not start below zero reads back. -/
theorem readRange_inLine {first : Int} (h : 0 ≤ first) (last : Int) :
  readRange (Value.range first last).inLine = .ok (.range first last)
  := by
  have hminus : '-' ∉ (toString first).toList := by
    intro hmem
    obtain hd | ⟨hn, -⟩ := mem_toString_int hmem
    · contradiction
    · omega
  have hne : ((toString first).toList ++ '-' :: (toString last).toList).isEmpty = false := by
    simp
  rw [Value.inLine, readRange, hne, cutAt?_append hminus]
  simp only [Bool.false_eq_true, if_false, readInteger, readInt?_toString]
  rfl

/-- A range that starts below zero does not read back. -/
theorem readRange_inLine_of_neg {first : Int} (h : first < 0) (last : Int) :
  ∃ reason, readRange (Value.range first last).inLine = .error reason
  := by
  have hnone : '-' ∉ ([] : List Char) := List.not_mem_nil
  have hcut := cutAt?_append hnone (Nat.toDigits 10 first.natAbs ++ '-' :: (toString last).toList)
  rw [List.nil_append] at hcut
  use notInteger []
  rw [Value.inLine, toList_toString_int, if_pos h, List.cons_append, readRange, hcut]
  rfl

theorem strip_inLine_range (first last : Int) :
  strip (Value.range first last).inLine = (Value.range first last).inLine
  := by
  apply strip_eq_self
  intro c hc
  rw [Value.inLine, List.mem_append, List.mem_cons] at hc
  obtain hc | rfl | hc := hc
  · apply isBlank_of_mem_toString_int hc
  · rfl
  · apply isBlank_of_mem_toString_int hc

/-- The text of a value reads as the normal value. -/
theorem readValue_inLine {type : FieldType} {v : Value} (h : v.Fits type) (ht : type ≠ .textList) :
  readValue type (strip v.inLine) = .ok (v.normal type)
  := by
  cases h with
  | text s =>
    simp [readValue, Value.inLine, Value.normal, normalText, oneLine, foldBreaks_eq_foldRuns]
  | noText => rfl
  | optionalText s =>
    have hempty : (strip (oneLine s)).isEmpty = true ↔ normalText s = "" := by
      rw [normalText, oneLine, foldBreaks_eq_foldRuns, List.isEmpty_iff, String.ofList_eq_empty_iff]
    rw [readValue, Value.inLine, Value.normal]
    by_cases hs : normalText s = ""
    · simp [hempty.2 hs, hs]
    · rw [if_neg (by simpa [hempty] using hs), if_neg (by simp [hs]), normalText, oneLine,
        foldBreaks_eq_foldRuns]
  | integer n =>
    have hstrip : strip (toString n).toList = (toString n).toList :=
      strip_eq_self fun c hc => isBlank_of_mem_toString_int hc
    rw [readValue, Value.inLine, hstrip, readInteger, readInt?_toString]
    rfl
  | boolean b => cases b <;> rfl
  | texts items => contradiction
  | noRange => rfl
  | range first last hfirst =>
    rw [readValue, strip_inLine_range, readRange_inLine hfirst]
    rfl

/-! ### Lines of fields -/

/-- A field that is no list has one line. -/
theorem fieldLines_eq {f : FieldSpec} {v : Value} (h : v.Fits f.type) (ht : f.type ≠ .textList) :
  fieldLines f v = [keyLine f.key v.inLine]
  := by
  obtain ⟨key, type⟩ := f
  cases h with
  | boolean b => cases b <;> rfl
  | texts items => contradiction
  | _ => rfl

/-- In a section in which the field does not stand yet, its lines with the first value are read as
the second one. -/
def ReadsAs (l : Layout) (f : FieldSpec) (v w : Value) : Prop :=
  ∀ p : Progress, p.values.lookup f.key = none →
    ∃ listing, (fieldLines f v).foldlM (Progress.readLine l) p
      = .ok ⟨(f.key, w) :: p.values, listing⟩

/-- The line of a field that is no list is that of its key, whatever the value is. -/
theorem exists_fieldLines_eq {f : FieldSpec} (ht : f.type ≠ .textList) (v : Value) :
  ∃ value, fieldLines f v = [keyLine f.key value]
  := by
  rw [fieldLines.eq_def]
  split
  · contradiction
  · contradiction
  all_goals exact ⟨_, rfl⟩

/-- The lines of a list are that of its key and those of items, whatever the value is. -/
theorem exists_fieldLines_eq_of_textList {f : FieldSpec} (ht : f.type = .textList) (v : Value) :
  ∃ items : List String, fieldLines f v = keyLine f.key [] :: items.map itemLine
  := by
  rw [fieldLines.eq_def, ht]
  cases v with
  | texts items => exact ⟨items, rfl⟩
  | _ => exact ⟨[], rfl⟩

section

variable {l : Layout} (hl : l.WellFormed) {f : FieldSpec} (hf : f ∈ l.fields)

include hl hf

theorem readsAs_of_textList (ht : f.type = .textList) {v : Value} {items : List String}
    (hv : fieldLines f v = keyLine f.key [] :: items.map itemLine) :
  ReadsAs l f v (.texts (items.map normalText))
  := by
  intro p hp
  use true
  rw [hv, List.foldlM_cons, readLine_listKey hl hf hp ht]
  apply foldlM_itemLines l f.key items [] p.values

theorem readsAs_of_readValue (ht : f.type ≠ .textList) {v w : Value} {value : List Char}
    (hv : fieldLines f v = [keyLine f.key value]) (hw : readValue f.type (strip value) = .ok w) :
  ReadsAs l f v w
  := by
  intro p hp
  use false
  rw [hv, List.foldlM_cons, readLine_keyLine hl hf hp ht hw]
  rfl

/-- What the line of a field is read as is what its text is read as. -/
theorem readValue_of_readsAs (ht : f.type ≠ .textList) {v w : Value} {value : List Char}
    (hv : fieldLines f v = [keyLine f.key value]) (h : ReadsAs l f v w) :
  readValue f.type (strip value) = .ok w
  := by
  obtain ⟨listing, hread⟩ := h ⟨[], false⟩ rfl
  rw [hv, List.foldlM_cons] at hread
  obtain ⟨q, hline, hq⟩ := bind_eq_ok_iff.1 hread
  cases hw : readValue f.type (strip value) with
  | ok w' =>
    rw [readLine_keyLine hl hf rfl ht hw] at hline
    cases hline
    cases hq
    rfl
  | error reason => exact absurd hline (readLine_keyLine_ne_ok hl hf ht hw _ q)

/-- The lines of a field read as its normal value. -/
theorem readsAs_normal {v : Value} (hv : v.Fits f.type) :
  ReadsAs l f v (v.normal f.type)
  := by
  by_cases ht : f.type = .textList
  · obtain ⟨items, rfl⟩ : ∃ items, v = .texts items := by
      rw [ht] at hv
      cases hv with
      | texts items => exact ⟨items, rfl⟩
    apply readsAs_of_textList hl hf ht
    rw [fieldLines]
    simp [ht]
  · apply readsAs_of_readValue hl hf ht (fieldLines_eq hv ht) (readValue_inLine hv ht)

/-- The lines of a field are read as a value, or they cannot be read anywhere. -/
theorem exists_readsAs_or (v : Value) :
  (∃ w, ReadsAs l f v w) ∨ ∀ p q, (fieldLines f v).foldlM (Progress.readLine l) p ≠ .ok q
  := by
  by_cases ht : f.type = .textList
  · left
    obtain ⟨items, hv⟩ := exists_fieldLines_eq_of_textList ht v
    exact ⟨_, readsAs_of_textList hl hf ht hv⟩
  · obtain ⟨value, hv⟩ := exists_fieldLines_eq ht v
    cases hw : readValue f.type (strip value) with
    | ok w =>
      left
      exact ⟨w, readsAs_of_readValue hl hf ht hv hw⟩
    | error reason =>
      right
      intro p q hq
      rw [hv, List.foldlM_cons] at hq
      obtain ⟨q', hline, -⟩ := bind_eq_ok_iff.1 hq
      apply readLine_keyLine_ne_ok hl hf ht hw p q' hline

end

/-- The lines of several fields read as their values, the latest first. -/
theorem foldlM_fields {l : Layout} {s : Section} {w : FieldSpec → Value} {fs : List FieldSpec}
    (hn : (fs.map (·.key)).Nodup) {p : Progress} (hp : ∀ f ∈ fs, p.values.lookup f.key = none)
    (hs : ∀ f ∈ fs, ReadsAs l f (s.get f.key) (w f)) :
  ∃ listing, (fs.flatMap fun f => fieldLines f (s.get f.key)).foldlM (Progress.readLine l) p
    = .ok ⟨(fs.map fun f => (f.key, w f)).reverse ++ p.values, listing⟩
  := by
  induction fs generalizing p with
  | nil => exact ⟨p.listing, rfl⟩
  | cons f fs ih =>
    rw [List.map_cons, List.nodup_cons] at hn
    obtain ⟨listing, hf⟩ := hs f List.mem_cons_self p (hp f List.mem_cons_self)
    have hrest : ∀ g ∈ fs, ((f.key, w f) :: p.values).lookup g.key = none := by
      intro g hg
      rw [lookup_cons_eq_ite, if_neg]
      · apply hp g (List.mem_cons_of_mem f hg)
      · intro heq
        apply hn.1
        rw [← heq]
        apply List.mem_map_of_mem hg
    obtain ⟨listing', hfs'⟩ := ih hn.2 (p := ⟨(f.key, w f) :: p.values, listing⟩) hrest
      fun g hg => hs g (List.mem_cons_of_mem f hg)
    use listing'
    rw [List.flatMap_cons, List.foldlM_append, hf]
    apply Eq.trans hfs'
    simp

/-! ### Fields of a section -/

/-- The lines of fields of a section. -/
def bodyLines (fs : List FieldSpec) (s : Section) : List (List Char) :=
  fs.flatMap fun f => fieldLines f (s.get f.key)

section

variable {l : Layout} (hl : l.WellFormed) {fs : List FieldSpec} (hfs : fs.Perm l.fields)
  {s : Section}

include hl hfs

/-- The lines of the fields of a section read as their values, in whatever order these stand. -/
theorem readFields_of_readsAs {w : FieldSpec → Value}
    (hs : ∀ f ∈ l.fields, ReadsAs l f (s.get f.key) (w f)) :
  readFields l (bodyLines fs s) = .ok (l.fields.map fun f => (f.key, w f))
  := by
  have hn : (fs.map (·.key)).Nodup := (hfs.map _).nodup_iff.2 hl.nodup
  obtain ⟨listing, hread⟩ := foldlM_fields hn (p := ⟨[], false⟩) (fun _ _ => rfl)
    fun f hf => hs f (hfs.mem_iff.1 hf)
  have hkeys : ((fs.map fun f => (f.key, w f)).map Prod.fst).Nodup := by
    simpa [Function.comp_def] using hn
  rw [readFields, bodyLines, hread]
  apply mapM_eq_ok_map
  intro f hf
  have hmem : (f.key, w f) ∈ fs.map fun f => (f.key, w f) :=
    List.mem_map_of_mem (f := fun f : FieldSpec => (f.key, w f)) (hfs.mem_iff.2 hf)
  rw [finishField, List.append_nil, lookup_reverse hkeys, (lookup_eq_some_iff_mem hkeys).2 hmem]

/-- If the lines of the fields can be read, those of each field are read as a value. -/
theorem exists_readsAs_of_readFields {vs : List (String × Value)}
    (h : readFields l (bodyLines fs s) = .ok vs) :
  ∃ w : FieldSpec → Value, ∀ f ∈ l.fields, ReadsAs l f (s.get f.key) (w f)
  := by
  have : Nonempty Value := ⟨.absent⟩
  have hex : ∀ f ∈ l.fields, ∃ w, ReadsAs l f (s.get f.key) w := by
    intro f hf
    obtain hw | hfail := exists_readsAs_or hl hf (s.get f.key)
    · apply hw
    · exfalso
      obtain ⟨q, hq, -⟩ := bind_eq_ok_iff.1 h
      apply foldlM_flatMap_ne_ok (hfs.mem_iff.2 hf) hfail _ q hq
  choose! w hw using hex
  exact ⟨w, hw⟩

end

/-- Fields that can be read in one order can be read in another one. -/
theorem readFields_of_perm {l : Layout} (hl : l.WellFormed) {fs gs : List FieldSpec}
    (hfs : fs.Perm l.fields) (hgs : gs.Perm l.fields) {s : Section} {vs : List (String × Value)}
    (h : readFields l (bodyLines fs s) = .ok vs) :
  readFields l (bodyLines gs s) = .ok vs
  := by
  obtain ⟨w, hw⟩ := exists_readsAs_of_readFields hl hfs h
  rw [readFields_of_readsAs hl hgs hw, ← h, readFields_of_readsAs hl hfs hw]

/-- The order in which the fields of a section stand does not matter. -/
theorem readFields_perm_iff {l : Layout} (hl : l.WellFormed) {fs : List FieldSpec}
    (hfs : fs.Perm l.fields) {s : Section} {vs : List (String × Value)} :
  readFields l (bodyLines fs s) = .ok vs ↔ readFields l (bodyLines l.fields s) = .ok vs
  := ⟨readFields_of_perm hl hfs (.refl l.fields), readFields_of_perm hl (.refl l.fields) hfs⟩

theorem faultIn_eq_ok_iff {document : String} {lines : List (List Char)} {α : Type}
    {r : Except Flaw α} {a : α} :
  faultIn document lines r = .ok a ↔ r = .ok a
  := by
  cases r with
  | error flaw =>
    constructor
    · intro h
      cases h
    · intro h
      cases h
  | ok b =>
    constructor
    · intro h
      cases h
      rfl
    · intro h
      cases h
      rfl

end AnchorIndex.Document

import AnchorIndex.Proofs.Document.FieldLines
import AnchorIndex.Proofs.Text.Splitting

/-!
# What is read is normal

Whatever stands in a document, the records that are read from it hold values of the types of their
fields, and these are normal: writing them and reading them again changes nothing
(`isNormal_of_mem_decode`). Each line that is read keeps the fields that are read so far normal
(`Progress.IsNormal.readLine`).
-/

namespace AnchorIndex.Document

open Text

/-! ### Normal values and records -/

/-- The value is one of a field of the type, and a document keeps it as it is. -/
structure Value.IsNormal (type : FieldType) (v : Value) : Prop where
  fits : v.Fits type
  normal_eq : v.normal type = v

/-- The section has values for the fields of the layout, and a document keeps it as it is. -/
structure Section.IsNormal (l : Layout) (s : Section) : Prop where
  fits : s.Fits l
  normal_eq : s.normal l = s

/-- The record has the values that the schema asks for, and a document keeps it as it is. -/
structure Record.IsNormal (schema : Schema) (r : Record) : Prop where
  fits : r.Fits schema
  normal_eq : r.normal schema = r

/-! ### Values -/

theorem unbroken_of_subset {cs line : List Char} (hline : Unbroken line) (h : cs ⊆ line) :
  Unbroken cs
  := fun c hc => hline c (h hc)

theorem notMem_front_of_cutAt? {mark : Char} {cs front after : List Char}
    (h : cutAt? [mark] cs = some (front, after)) :
  mark ∉ front
  := by
  induction cs generalizing front with
  | nil => contradiction
  | cons c r ih =>
    rw [cutAt?] at h
    by_cases hc : mark = c
    · simp only [afterPiece?, if_pos hc, Option.some.injEq, Prod.mk.injEq] at h
      simp [← h.1]
    · simp only [afterPiece?, if_neg hc] at h
      split at h
      next front' after' hcut =>
        cases h
        rw [List.mem_cons, not_or]
        exact ⟨hc, ih hcut⟩
      · contradiction

/-- A numeral without a minus is not below zero. -/
theorem nonneg_of_readInt? {cs : List Char} (hminus : '-' ∉ cs) {n : Int}
    (h : readInt? cs = some n) :
  0 ≤ n
  := by
  have hmem : ∀ c, c ∈ ((cs.dropWhile isPadding).reverse.dropWhile isPadding).reverse → c ∈ cs := by
    intro c hc
    have hrev := (List.dropWhile_suffix isPadding).subset (List.mem_reverse.1 hc)
    exact (List.dropWhile_suffix isPadding).subset (List.mem_reverse.1 hrev)
  rw [readInt?] at h
  split at h
  next r hr =>
    exfalso
    apply hminus
    apply hmem
    rw [hr]
    apply List.mem_cons_self
  · obtain ⟨_, hlift, rfl⟩ := Option.map_eq_some_iff.1 h
    obtain ⟨m, -, hm⟩ := Option.bind_eq_some_iff.1 hlift
    cases hm
    omega
  · obtain ⟨_, hlift, rfl⟩ := Option.map_eq_some_iff.1 h
    obtain ⟨m, -, hm⟩ := Option.bind_eq_some_iff.1 hlift
    cases hm
    omega

theorem isNormal_of_readRange {cs : List Char} {v : Value} (h : readRange cs = .ok v) :
  v.IsNormal .range
  := by
  rw [readRange] at h
  split at h
  · cases h
    exact ⟨.noRange, rfl⟩
  · split at h
    · contradiction
    next front after hcut =>
      obtain ⟨first, hfirst, h⟩ := bind_eq_ok_iff.1 h
      obtain ⟨last, hlast, h⟩ := bind_eq_ok_iff.1 h
      cases h
      rw [readInteger] at hfirst
      split at hfirst
      next n hn =>
        cases hfirst
        have hnonneg := nonneg_of_readInt? (notMem_front_of_cutAt? hcut) hn
        exact ⟨.range first last hnonneg, rfl⟩
      · contradiction

/-- A value that is read from an unbroken text without blanks at its ends is normal. -/
theorem isNormal_of_readValue {type : FieldType} (htype : type ≠ .textList) {cs : List Char}
    (hcs : Unbroken cs) {v : Value} (h : readValue type (strip cs) = .ok v) :
  v.IsNormal type
  := by
  have htext : normalText (String.ofList (strip cs)) = String.ofList (strip cs) :=
    normalText_eq_self (isNormal_strip hcs)
  cases type with
  | text =>
    cases h
    use .text _
    simp [Value.normal, htext]
  | optionalText =>
    rw [readValue] at h
    split at h
    · cases h
      exact ⟨.noText, rfl⟩
    next hne =>
      cases h
      use .optionalText _
      have : strip cs ≠ [] := by simpa using hne
      simp [Value.normal, htext, this]
  | integer =>
    rw [readValue] at h
    cases hn : readInteger (strip cs) with
    | error reason => simp [hn, Except.map] at h
    | ok n =>
      rw [hn] at h
      cases h
      exact ⟨.integer n, rfl⟩
  | boolean =>
    rw [readValue] at h
    split at h
    · cases h
      exact ⟨.boolean true, rfl⟩
    · split at h
      · cases h
        exact ⟨.boolean false, rfl⟩
      · contradiction
  | textList => contradiction
  | range =>
    rw [readValue] at h
    apply isNormal_of_readRange h

/-! ### Lines -/

/-- The values that are read so far are normal values of fields of the layout. -/
def Progress.IsNormal (l : Layout) (p : Progress) : Prop :=
  ∀ entry ∈ p.values, ∃ f ∈ l.fields, f.key = entry.1 ∧ entry.2.IsNormal f.type

theorem subset_of_keyValue? {cs key value : List Char} (h : keyValue? cs = some (key, value)) :
  value ⊆ cs
  := by
  rw [keyValue?] at h
  have hrest : ∀ key rest, name? cs = some (key, rest) → rest ⊆ cs := by
    intro key rest hname
    cases cs with
    | nil => contradiction
    | cons c r =>
      rw [name?] at hname
      split at hname
      · cases hname
        apply List.subset_cons_of_subset c (List.dropWhile_suffix isNameChar).subset
      · contradiction
  split at h
  · cases h
    simp
  next key' c value' hname =>
    split at h
    · cases h
      intro d hd
      apply hrest _ _ hname
      simp [hd]
    · contradiction
  · contradiction

theorem subset_of_readKeyLine? {line key value : List Char}
    (h : readKeyLine? line = some (key, value)) :
  value ⊆ line
  := by
  rw [readKeyLine?, Option.bind_eq_some_iff] at h
  obtain ⟨rest, hrest, hvalue⟩ := h
  have hright : stripRight line ⊆ line := (List.rdropWhile_prefix isBlank line).subset
  rw [afterPiece?_eq_some_iff] at hrest
  intro c hc
  apply hright
  rw [hrest]
  apply List.mem_append_right _ (subset_of_keyValue? hvalue hc)

theorem subset_of_readItemLine? {line item : List Char} (h : readItemLine? line = some item) :
  item ⊆ line
  := by
  rw [readItemLine?, Option.bind_eq_some_iff] at h
  obtain ⟨rest, hrest, hitem⟩ := h
  rw [afterPiece?_eq_some_iff] at hitem
  cases line with
  | nil => contradiction
  | cons c line =>
    rw [afterBlanks?] at hrest
    split at hrest
    · cases hrest
      intro d hd
      apply List.mem_cons_of_mem
      apply (List.dropWhile_suffix isBlank).subset
      change d ∈ stripLeft line
      rw [hitem]
      apply List.mem_append_right _ hd
    · contradiction

namespace Progress.IsNormal

variable {l : Layout} {p p' : Progress}

/-- An item that is added to a list is normal, and so is the list. -/
theorem addItem? (hp : p.IsNormal l) {item : List Char} (hitem : Unbroken item)
    (h : p.addItem? (String.ofList (strip item)) = some p') :
  p'.IsNormal l
  := by
  rw [Progress.addItem?] at h
  split at h
  next key items rest hlisting hvalues =>
    cases h
    intro entry hentry
    rw [IsNormal, hvalues] at hp
    obtain rfl | hentry := List.mem_cons.1 hentry
    · obtain ⟨f, hf, hkey, hv⟩ := hp (key, .texts items) List.mem_cons_self
      refine ⟨f, hf, hkey, ?_⟩
      have heq := hv.normal_eq
      have hfits := hv.fits
      generalize f.type = type at heq hfits
      cases hfits
      have hitems : items.map normalText = items := by simpa [Value.normal] using heq
      use .texts _
      simp [Value.normal, hitems, normalText_eq_self (isNormal_strip hitem)]
    · apply hp entry (List.mem_cons_of_mem _ hentry)
  · contradiction

theorem cons (hp : p.IsNormal l) {f : FieldSpec} (hf : f ∈ l.fields) {v : Value}
    (hv : v.IsNormal f.type) (listing : Bool) :
  Progress.IsNormal l ⟨(f.key, v) :: p.values, listing⟩
  := by
  intro entry hentry
  obtain rfl | hentry := List.mem_cons.1 hentry
  · exact ⟨f, hf, rfl, hv⟩
  · apply hp entry hentry

theorem readField (hp : p.IsNormal l) {line : List Char} (hline : Unbroken line)
    (h : p.readField l line = .ok p') :
  p'.IsNormal l
  := by
  rw [Progress.readField] at h
  split at h
  · contradiction
  next key value hkey =>
    split at h
    · contradiction
    next f hfield =>
      have hf : f ∈ l.fields := List.mem_of_find?_eq_some hfield
      split at h
      · contradiction
      · split at h
        next htype =>
          simp only at h
          split at h
          · cases h
            apply hp.cons hf
            rw [htype]
            exact ⟨.texts [], rfl⟩
          · contradiction
        next htype =>
          simp only at h
          split at h
          next v hv =>
            cases h
            apply hp.cons hf
            apply isNormal_of_readValue htype
              (unbroken_of_subset hline (subset_of_readKeyLine? hkey)) hv
          · contradiction

/-- A line that is read keeps the values normal. -/
theorem readLine (hp : p.IsNormal l) {line : List Char} (hline : Unbroken line)
    (h : p.readLine l line = .ok p') :
  p'.IsNormal l
  := by
  rw [Progress.readLine] at h
  split at h
  · cases h
    apply hp
  · split at h
    next item hitem =>
      split at h
      next hadd =>
        cases h
        apply hp.addItem? (unbroken_of_subset hline (subset_of_readItemLine? hitem)) hadd
      · contradiction
    · apply hp.readField hline h

end Progress.IsNormal

/-! ### Sections -/

/-- The value of a field after all lines. -/
def finishedValue (values : List (String × Value)) (f : FieldSpec) : Value :=
  match values.lookup f.key with
  | some v => v
  | none => if f.type = .textList then .texts [] else .absent

theorem finishedValue_of_some {values : List (String × Value)} {f : FieldSpec} {v : Value}
    (h : values.lookup f.key = some v) :
  finishedValue values f = v
  := by
  rw [finishedValue, h]

theorem finishedValue_of_none {values : List (String × Value)} {f : FieldSpec}
    (h : values.lookup f.key = none) :
  finishedValue values f = if f.type = .textList then .texts [] else .absent
  := by
  rw [finishedValue, h]

/-- A field that can be finished has its value, which is normal. -/
theorem finishField_eq {l : Layout} (hl : l.WellFormed) {p : Progress} (hp : p.IsNormal l)
    {f : FieldSpec} (hf : f ∈ l.fields) {entry : String × Value}
    (h : finishField p.values f = .ok entry) :
  entry = (f.key, finishedValue p.values f) ∧ (finishedValue p.values f).IsNormal f.type
  := by
  rw [finishField] at h
  cases hlookup : p.values.lookup f.key with
  | some v =>
    rw [hlookup] at h
    cases h
    rw [finishedValue_of_some hlookup]
    obtain ⟨g, hg, hkey, hnormal⟩ := hp _ (mem_of_lookup_eq_some hlookup)
    have heq : g = f := List.inj_on_of_nodup_map hl.nodup hg hf hkey
    exact ⟨rfl, heq ▸ hnormal⟩
  | none =>
    rw [hlookup] at h
    rw [finishedValue_of_none hlookup]
    dsimp only at h
    split at h
    · contradiction
    next hrequired =>
      cases h
      use rfl
      cases htype : f.type with
      | text => simp [htype, FieldType.isRequired] at hrequired
      | integer => simp [htype, FieldType.isRequired] at hrequired
      | boolean => simp [htype, FieldType.isRequired] at hrequired
      | optionalText => exact ⟨.noText, rfl⟩
      | textList => exact ⟨.texts [], rfl⟩
      | range => exact ⟨.noRange, rfl⟩

/-- A section has the values that it lists for the fields of its layout. -/
theorem get_map_fields {l : Layout} (hl : l.WellFormed) (title : String) (value : FieldSpec → Value)
    {f : FieldSpec} (hf : f ∈ l.fields) :
  Section.get ⟨title, l.fields.map fun f => (f.key, value f)⟩ f.key = value f
  := by
  have hkeys : ((l.fields.map fun f => (f.key, value f)).map Prod.fst).Nodup := by
    rw [List.map_map]
    apply hl.nodup
  have hmem : (f.key, value f) ∈ l.fields.map fun f => (f.key, value f) :=
    List.mem_map_of_mem (f := fun f => (f.key, value f)) hf
  rw [Section.get, (lookup_eq_some_iff_mem hkeys).2 hmem]
  rfl

/-- A section with a normal title and normal values is normal. -/
theorem isNormal_of_values {l : Layout} (hl : l.WellFormed) {title : String}
    (htitle : IsNormal title) {value : FieldSpec → Value}
    (hvalue : ∀ f ∈ l.fields, (value f).IsNormal f.type) :
  Section.IsNormal l ⟨title, l.fields.map fun f => (f.key, value f)⟩
  := by
  constructor
  · intro f hf
    rw [get_map_fields hl title value hf]
    exact (hvalue f hf).fits
  · rw [Section.normal, normalText_eq_self htitle]
    congr 1
    apply List.map_congr_left
    intro f hf
    rw [get_map_fields hl title value hf, (hvalue f hf).normal_eq]

/-- The lines of a section are read into normal values. -/
theorem isNormal_of_readFields {l : Layout} (hl : l.WellFormed) {lines : List (List Char)}
    (hlines : ∀ line ∈ lines, Unbroken line) {values : List (String × Value)}
    (h : readFields l lines = .ok values) {title : String} (htitle : IsNormal title) :
  Section.IsNormal l ⟨title, values⟩
  := by
  obtain ⟨p, hp, hvalues⟩ := bind_eq_ok_iff.1 h
  have hnormal : p.IsNormal l := by
    apply foldlM_preserves _ _ hp
    · intro line hline q q' hq hq'
      apply hq.readLine (hlines line hline) hq'
    · intro entry hentry
      contradiction
  have hfinish : ∀ f ∈ l.fields, finishField p.values f = .ok (f.key, finishedValue p.values f) ∧
      (finishedValue p.values f).IsNormal f.type := by
    intro f hf
    obtain ⟨entry, -, hentry⟩ := exists_of_mem_of_mapM hvalues hf
    obtain ⟨rfl, hvalue⟩ := finishField_eq hl hnormal hf hentry
    exact ⟨hentry, hvalue⟩
  have hmap := mapM_eq_ok_map fun f hf => (hfinish f hf).1
  rw [hmap] at hvalues
  cases hvalues
  apply isNormal_of_values hl htitle fun f hf => (hfinish f hf).2

theorem isNormal_readTitle (level : Nat) {heading : List Char} (h : Unbroken heading) :
  IsNormal (readTitle level heading)
  := by
  apply isNormal_strip
  apply unbroken_of_subset h (List.drop_subset (level + 1) heading)

/-! ### Records -/

/-- The lines before the first heading and those of the sections are lines of the text. -/
theorem mem_of_mem_splitSections {level : Nat} {lines : List (List Char)} :
  (∀ line ∈ (splitSections level lines).1, line ∈ lines) ∧
    ∀ sec ∈ (splitSections level lines).2, ∀ line ∈ sec, line ∈ lines
  := by
  induction lines with
  | nil => simp [splitSections]
  | cons line lines ih =>
    obtain ⟨hfront, hsections⟩ := ih
    have hcons : splitSections level (line :: lines)
        = consLine level line (splitSections level lines) := rfl
    rw [hcons, consLine]
    split
    · constructor
      · intro l hl
        contradiction
      · intro sec hsec l hl
        obtain rfl | hsec := List.mem_cons.1 hsec
        · obtain rfl | hl := List.mem_cons.1 hl
          · apply List.mem_cons_self
          · apply List.mem_cons_of_mem line (hfront l hl)
        · apply List.mem_cons_of_mem line (hsections sec hsec l hl)
    · constructor
      · intro l hl
        obtain rfl | hl := List.mem_cons.1 hl
        · apply List.mem_cons_self
        · apply List.mem_cons_of_mem line (hfront l hl)
      · intro sec hsec l hl
        apply List.mem_cons_of_mem line (hsections sec hsec l hl)

theorem unbroken_headD {lines : List (List Char)} (h : ∀ line ∈ lines, Unbroken line) :
  Unbroken (lines.headD [])
  := by
  cases lines with
  | nil => simp [Unbroken]
  | cons line lines => exact h line List.mem_cons_self

theorem unbroken_of_mem_body {level : Nat} {lines : List (List Char)}
    (h : ∀ line ∈ lines, Unbroken line) :
  ∀ line ∈ (splitSections level (lines.drop 1)).1, Unbroken line
  := by
  intro line hline
  apply h
  exact (List.drop_subset 1 lines) (mem_of_mem_splitSections.1 line hline)

/-- A section that is read from unbroken lines is normal. -/
theorem isNormal_of_readLeaf {document : String} {level : Nat} {l : Layout} (hl : l.WellFormed)
    {lines : List (List Char)} (hlines : ∀ line ∈ lines, Unbroken line) {s : Section}
    (h : readLeaf document level l lines = .ok s) :
  s.IsNormal l
  := by
  obtain ⟨values, hvalues, h⟩ := bind_eq_ok_iff.1 h
  rw [faultIn_eq_ok_iff] at hvalues
  split at h
  · cases h
  · cases h
    apply isNormal_of_readFields hl (unbroken_of_mem_body hlines) hvalues
    apply isNormal_readTitle level (unbroken_headD hlines)

/-- A record that is read from unbroken lines is normal. -/
theorem isNormal_of_readRecord {schema : Schema} (hw : schema.WellFormed)
    {lines : List (List Char)} (hlines : ∀ line ∈ lines, Unbroken line) {r : Record}
    (h : readRecord schema lines = .ok r) :
  r.IsNormal schema
  := by
  rw [readRecord] at h
  split at h
  next hnested =>
    obtain ⟨s, hs, h⟩ := bind_eq_ok_iff.1 h
    cases h
    have hmain := isNormal_of_readLeaf hw.layout hlines hs
    constructor
    · rw [Record.Fits, hnested]
      exact ⟨hmain.fits, rfl⟩
    · rw [Record.normal, hnested, hmain.normal_eq]
  next key layout hnested =>
    have hlayout := hw.nested key layout hnested
    obtain ⟨values, hvalues, h⟩ := bind_eq_ok_iff.1 h
    obtain ⟨children, hchildren, h⟩ := bind_eq_ok_iff.1 h
    cases h
    rw [faultIn_eq_ok_iff] at hvalues
    have hmain := isNormal_of_readFields hw.layout (unbroken_of_mem_body hlines) hvalues
      (isNormal_readTitle 1 (unbroken_headD hlines))
    have hchild : ∀ c ∈ children, c.IsNormal layout := by
      intro c hc
      obtain ⟨sec, hsec, hread⟩ := exists_of_mem_mapM hchildren hc
      apply isNormal_of_readLeaf hlayout _ hread
      intro line hline
      apply hlines
      exact (List.drop_subset 1 lines) (mem_of_mem_splitSections.2 sec hsec line hline)
    constructor
    · rw [Record.Fits, hnested]
      exact ⟨hmain.fits, fun c hc => (hchild c hc).fits⟩
    · rw [Record.normal, hnested, hmain.normal_eq]
      congr 1
      calc children.map (·.normal layout)
          = children.map id := List.map_congr_left fun c hc => (hchild c hc).normal_eq
        _ = children := List.map_id children

/-- The records that are read from a text whose lines end in line feeds are normal, whatever the
text is. -/
theorem isNormal_of_mem_decode {schema : Schema} (hw : schema.WellFormed) {text : String}
    (htext : '\r' ∉ text.toList) {rs : List Record} (h : decode schema text = .ok rs) {r : Record}
    (hr : r ∈ rs) :
  r.IsNormal schema
  := by
  have hlines : ∀ line ∈ lines text.toList, Unbroken line := by
    intro line hline c hc
    have hfeed : c ≠ '\n' := by
      rintro rfl
      apply notMem_of_mem_splitAt hline hc
    have hreturn : c ≠ '\r' := by
      rintro rfl
      apply htext (mem_of_mem_splitAt hline hc)
    simp [isBreak, hfeed, hreturn]
  rw [decode] at h
  simp only at h
  split at h
  · contradiction
  · obtain ⟨sec, hsec, hread⟩ := exists_of_mem_mapM h hr
    apply isNormal_of_readRecord hw _ hread
    intro line hline
    apply hlines line (mem_of_mem_splitSections.2 sec hsec line hline)

end AnchorIndex.Document

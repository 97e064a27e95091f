import AnchorIndex.Proofs.Account.Brackets
import AnchorIndex.Proofs.Account.Nested

/-!
# Reading items

An item of an attribute is read as the constraint it stands for (`IsItem.reads`), whatever blanks
stand in it: a flag by its name, an assignment by its key and its value without an error, and a
list of seeds by its elements.
-/

namespace AnchorIndex.Account

open Text (allBlank isBlank isNameChar isNameStart squeeze strip)

/-! ### Errors -/

section

variable {cs ds : List Char}

theorem takeWhile_of_notMem (h : '@' ∉ cs) (ds : List Char) :
  (cs ++ ds).takeWhile (· != '@') = cs ++ ds.takeWhile (· != '@')
  := by
  apply List.takeWhile_append_of_pos
  intro c hc
  rw [bne_iff_ne]
  rintro rfl
  contradiction

/-- An error goes from the first mark on. -/
theorem withoutError_append_error (h : '@' ∉ cs) (error : List Char) :
  withoutError (cs ++ '@' :: error) = strip cs
  := by
  rw [withoutError, takeWhile_of_notMem h]
  simp

theorem withoutError_of_notMem (h : '@' ∉ cs) :
  withoutError cs = strip cs
  := by
  have hwhole := takeWhile_of_notMem h []
  rw [List.takeWhile_nil, List.append_nil] at hwhole
  rw [withoutError, hwhole]

/-- Blanks around a text with an error do not matter. -/
theorem withoutError_strip (cs : List Char) :
  withoutError (strip cs) = withoutError cs
  := by
  obtain ⟨a, b, ha, hb, heq⟩ := Text.exists_eq_append_strip cs
  have ha' : '@' ∉ a := notMem_of_allBlank (by decide) ha
  have hb' : '@' ∉ b := notMem_of_allBlank (by decide) hb
  conv_rhs => rw [heq]
  by_cases herror : '@' ∈ strip cs
  · obtain ⟨front, back, hsplit, hfront⟩ := List.eq_append_cons_of_mem herror
    have hwhole : a ++ (strip cs ++ b) = (a ++ front) ++ '@' :: (back ++ b) := by
      rw [hsplit]
      simp
    have hafront : '@' ∉ a ++ front := by
      rw [List.mem_append, not_or]
      exact ⟨ha', hfront⟩
    have hstrip := Text.strip_append_blank ha Text.allBlank_nil front
    rw [List.append_nil] at hstrip
    rw [hwhole, hsplit, withoutError_append_error hfront, withoutError_append_error hafront,
      hstrip]
  · have hwhole : '@' ∉ a ++ (strip cs ++ b) := by
      rw [List.mem_append, List.mem_append, not_or, not_or]
      exact ⟨ha', herror, hb'⟩
    rw [withoutError_of_notMem herror, withoutError_of_notMem hwhole,
      Text.strip_append_blank ha hb]

/-- A text that is squeezed together with an error. -/
theorem IsError.withoutError_squeeze {error : List Char} (herror : IsError error)
    (h : '@' ∉ cs) {a : List Char} (ha : allBlank a = true) :
  withoutError (a ++ squeeze (cs ++ error)) = squeeze cs
  := by
  have ha' : '@' ∉ a := notMem_of_allBlank (by decide) ha
  have hcs : '@' ∉ squeeze cs := fun hmem => h (Text.mem_of_mem_squeeze hmem (by decide))
  obtain rfl | ⟨error, rfl, -⟩ := herror
  · have hfront : '@' ∉ a ++ squeeze cs := by
      rw [List.mem_append, not_or]
      exact ⟨ha', hcs⟩
    rw [List.append_nil, withoutError_of_notMem hfront, Text.strip_blank_squeeze ha]
  · obtain ⟨x, y, hx, -, -, hsqueeze⟩ := Text.squeeze_append_cons (c := '@') (by decide) cs error
    have hwhole : a ++ squeeze (cs ++ '@' :: error)
        = (a ++ (squeeze cs ++ x)) ++ '@' :: (y ++ squeeze error) := by
      rw [hsqueeze]
      simp
    have hfront : '@' ∉ a ++ (squeeze cs ++ x) := by
      rw [List.mem_append, List.mem_append, not_or, not_or]
      exact ⟨ha', hcs, notMem_of_allBlank (by decide) hx⟩
    rw [hwhole, withoutError_append_error hfront, Text.strip_append_blank ha hx,
      Text.strip_squeeze]

end

/-! ### Keys -/

section

variable {key gap rest : List Char}

/-- Behind a key and blanks the text is read that begins otherwise. -/
theorem key_and_rest {cs : List Char} (hcs : ∀ c ∈ cs, isKeyChar c = true)
    (hgap : allBlank gap = true)
    (hrest : ∀ c ∈ rest.head?, isKeyChar c = false ∧ isBlank c = false) :
  (cs ++ (gap ++ rest)).takeWhile isKeyChar = cs
    ∧ Text.stripLeft ((cs ++ (gap ++ rest)).dropWhile isKeyChar) = rest
  := by
  have hends : ∀ d ∈ (gap ++ rest).head?, isKeyChar d = false := by
    intro d hd
    cases gap with
    | nil => exact (hrest d hd).1
    | cons e gap =>
      cases hd
      have hblank := Text.allBlank_iff.1 hgap d List.mem_cons_self
      cases hkey : isKeyChar d with
      | false => rfl
      | true =>
        rw [isBlank_of_isKeyChar hkey] at hblank
        contradiction
  have hnil : (gap ++ rest).takeWhile isKeyChar = []
      ∧ (gap ++ rest).dropWhile isKeyChar = gap ++ rest := by
    cases hmore : gap ++ rest with
    | nil => exact ⟨rfl, rfl⟩
    | cons d more =>
      have hd := hends d (by rw [hmore]; rfl)
      simp [hd]
  have hstrip : Text.stripLeft rest = rest := by
    cases rest with
    | nil => rfl
    | cons d rest => exact Text.stripLeft_cons_solid (hrest d rfl).2 rest
  rw [List.dropWhile_append_of_pos hcs, List.takeWhile_append_of_pos hcs, hnil.1, hnil.2,
    Text.stripLeft_append_blank hgap, hstrip, List.append_nil]
  exact ⟨rfl, rfl⟩

section

variable {c : Char} {r value : List Char} (hc : isNameStart c = true)

include hc

/-- An item is an assignment if one equals sign stands behind its key. -/
theorem keyValue?_eq_some (h : Text.stripLeft (r.dropWhile isKeyChar) = '=' :: value)
    (hvalue : value.head? ≠ some '=') :
  keyValue? (c :: r) = some (c :: r.takeWhile isKeyChar, strip value)
  := by
  rw [keyValue?, if_pos hc, h]
  split
  next heq =>
    cases heq
    exact absurd rfl hvalue
  next heq =>
    cases heq
    rfl
  next hnot => exact absurd rfl (hnot value)

theorem keyValue?_of_comparison
    (h : Text.stripLeft (r.dropWhile isKeyChar) = '=' :: '=' :: value) :
  keyValue? (c :: r) = none
  := by
  rw [keyValue?, if_pos hc, h]
  rfl

theorem keyValue?_eq_none (h : (Text.stripLeft (r.dropWhile isKeyChar)).head? ≠ some '=') :
  keyValue? (c :: r) = none
  := by
  rw [keyValue?, if_pos hc]
  split
  next heq => exact absurd (congrArg List.head? heq) h
  next heq => exact absurd (congrArg List.head? heq) h
  next => rfl

end

theorem IsKey.keyValue?_assignment (h : IsKey key) (hgap : allBlank gap = true)
    {value : List Char} (hvalue : value.head? ≠ some '=') :
  keyValue? (key ++ (gap ++ '=' :: value)) = some (key, strip value)
  := by
  obtain ⟨c, cs, rfl, hc, hcs⟩ := h
  have hmark : ∀ d ∈ ('=' :: value).head?, isKeyChar d = false ∧ isBlank d = false := by
    intro d hd
    cases hd
    decide
  obtain ⟨hkey, hrest⟩ := key_and_rest hcs hgap hmark
  rw [List.cons_append, keyValue?_eq_some hc hrest hvalue, hkey]

theorem IsKey.keyValue?_flag (h : IsKey key) (hgap : allBlank gap = true)
    (hrest : ∀ c ∈ rest.head?, c = '@') :
  keyValue? (key ++ (gap ++ rest)) = none
  := by
  obtain ⟨c, cs, rfl, hc, hcs⟩ := h
  have hmark : ∀ d ∈ rest.head?, isKeyChar d = false ∧ isBlank d = false := by
    intro d hd
    rw [hrest d hd]
    decide
  obtain ⟨-, hmore⟩ := key_and_rest hcs hgap hmark
  rw [List.cons_append]
  apply keyValue?_eq_none hc
  rw [hmore]
  exact fun hequals => absurd (hrest '=' hequals) (by decide)

theorem IsKey.squeeze_eq_self (h : IsKey key) :
  squeeze key = key
  := Text.squeeze_eq_self fun d hd => isBlank_of_isKeyChar (h.forall_isKeyChar d hd)

/-- A squeezed text that begins with a key. -/
theorem IsKey.exists_squeeze (h : IsKey key) (hgap : allBlank gap = true) {c : Char}
    (hc : isBlank c = false) (rest : List Char) :
  ∃ a b, allBlank a = true ∧ allBlank b = true
    ∧ squeeze (key ++ (gap ++ c :: rest)) = key ++ (a ++ c :: (b ++ squeeze rest))
  := by
  obtain ⟨a, b, ha, hb, -, hsqueeze⟩ := Text.squeeze_append_cons hc (key ++ gap) rest
  refine ⟨a, b, ha, hb, ?_⟩
  rw [← List.append_assoc, hsqueeze, Text.squeeze_append_blank hgap, h.squeeze_eq_self]

theorem head?_blank_append {d : Char} (hd : isBlank d = false) (hgap : allBlank gap = true)
    (hrest : rest.head? ≠ some d) :
  (gap ++ rest).head? ≠ some d
  := by
  cases gap with
  | nil => exact hrest
  | cons c gap =>
    intro heq
    cases heq
    exact notMem_of_allBlank hd hgap List.mem_cons_self

end

/-! ### Lists -/

section

variable {angles : Bool} {parts : List (List Char)} {text : List Char}

theorem IsSeparated.exists_isPart (h : IsSeparated parts text)
    (hparts : ∀ p ∈ parts, IsNested angles false p) :
  ∃ blanks, (∀ b ∈ blanks, allBlank b = true) ∧ text = Text.joinWith ',' (parts ++ blanks)
    ∧ ∀ p ∈ parts ++ blanks, Source.IsPart angles p
  := by
  obtain ⟨blanks, hblanks, htext⟩ := h.exists_joinWith
  refine ⟨blanks, hblanks, htext, ?_⟩
  intro p hp
  obtain hp | hp := List.mem_append.1 hp
  · exact (hparts p hp).isPart
  · exact Source.isPart_of_allBlank (hblanks p hp)

/-- Blank parts are dropped, and no others are, if just those become empty. -/
theorem filter_map_parts {f : List Char → List Char} (hf : ∀ p, f p = [] ↔ allBlank p = true)
    {blanks : List (List Char)} (hparts : ∀ p ∈ parts, allBlank p = false)
    (hblanks : ∀ b ∈ blanks, allBlank b = true) :
  ((parts ++ blanks).map f).filter (!·.isEmpty) = parts.map f
  := by
  have hkept : ∀ p ∈ parts.map f, (!p.isEmpty) = true := by
    intro p hp
    obtain ⟨q, hq, rfl⟩ := List.mem_map.1 hp
    have hne : f q ≠ [] := by
      rw [Ne, hf, hparts q hq]
      exact Bool.false_ne_true
    simpa using hne
  have hdropped : ∀ p ∈ blanks.map f, ¬ (!p.isEmpty) = true := by
    intro p hp
    obtain ⟨q, hq, rfl⟩ := List.mem_map.1 hp
    rw [(hf q).2 (hblanks q hq)]
    exact Bool.false_ne_true
  rw [List.map_append, List.filter_append, List.filter_eq_self.2 hkept,
    List.filter_eq_nil_iff.2 hdropped, List.append_nil]

/-- A list is split into its parts. -/
theorem IsSeparated.splitCommas (h : IsSeparated parts text)
    (hparts : ∀ p ∈ parts, IsNested angles false p ∧ allBlank p = false) :
  Source.splitCommas angles text = parts.map strip
  := by
  obtain ⟨blanks, hblanks, rfl, hisPart⟩ := h.exists_isPart fun p hp => (hparts p hp).1
  rw [Source.splitCommas_joinWith hisPart]
  exact filter_map_parts (fun _ => Text.strip_eq_nil_iff) (fun p hp => (hparts p hp).2) hblanks

/-- A squeezed list is split into its squeezed parts. -/
theorem IsSeparated.splitCommas_squeeze (h : IsSeparated parts text)
    (hparts : ∀ p ∈ parts, IsNested angles false p ∧ allBlank p = false) {a b : List Char}
    (ha : allBlank a = true) (hb : allBlank b = true) :
  Source.splitCommas angles (a ++ (squeeze text ++ b)) = parts.map squeeze
  := by
  obtain ⟨blanks, hblanks, rfl, hisPart⟩ := h.exists_isPart fun p hp => (hparts p hp).1
  rw [Source.splitCommas_squeeze hisPart ha hb]
  exact filter_map_parts (fun _ => Text.squeeze_eq_nil_iff) (fun p hp => (hparts p hp).2) hblanks

/-- The seeds of a list in brackets, with blanks inside and in front of it. -/
theorem IsSeparated.seedList_squeeze (h : IsSeparated parts text)
    (hparts : ∀ p ∈ parts, IsNested false false p ∧ allBlank p = false) {a b : List Char}
    (ha : allBlank a = true) (hb : allBlank b = true) :
  seedList (strip (a ++ squeeze ('[' :: (text ++ ']' :: b)))) = parts.map squeeze
  := by
  have hback : squeeze ('[' :: (text ++ ']' :: b)) = squeeze ('[' :: (text ++ [']'])) := by
    rw [← Text.squeeze_append_blank hb ('[' :: (text ++ [']']))]
    simp
  obtain ⟨x, y, hx, hy, hlist⟩ :=
    @Text.exists_squeeze_brackets '[' ']' (by decide) (by decide) text
  rw [← hback] at hlist
  have hends : Text.headIs '[' (squeeze ('[' :: (text ++ ']' :: b)))
      && Text.lastIs ']' (squeeze ('[' :: (text ++ ']' :: b))) := by
    rw [hlist, Text.headIs, Text.lastIs, ← List.cons_append, List.getLast?_concat]
    rfl
  have hinner : ((squeeze ('[' :: (text ++ ']' :: b))).drop 1).dropLast
      = x ++ (squeeze text ++ y) := by
    rw [hlist, List.drop_succ_cons, List.drop_zero, List.dropLast_concat]
  rw [Text.strip_blank_squeeze ha, seedList, Text.strip_squeeze, if_pos hends, hinner,
    h.splitCommas_squeeze hparts hx hy, List.map_map]
  apply List.map_congr_left
  intro p _
  exact Text.squeeze_squeeze p

end

/-! ### Items -/

/-- The constraint says what the item says. -/
inductive Item.Reads : Item → Constraint → Prop
  | flag (name : List Char) : Reads (.flag name) (.flag name)
  | assignment {key value line read : List Char} (no_seeds : key ≠ "seeds".toList)
    (value_eq : withoutError read = value) :
    Reads (.assignment key value line) (.assignment key read line)
  | seeds {elements : List (List Char)} {read line : List Char}
    (elements_eq : seedList read = elements) :
    Reads (.seeds elements) (.assignment "seeds".toList read line)

section

variable {text : List Char} {item : Item}

theorem isKey_seeds :
  IsKey "seeds".toList
  := ⟨'s', "eeds".toList, rfl, by decide, List.all_eq_true.1 rfl⟩

theorem IsItem.exists_eq_append (h : IsItem text item) :
  ∃ before key rest, allBlank before = true ∧ IsKey key ∧ text = before ++ (key ++ rest)
  := by
  cases h with
  | flag hbefore hname => exact ⟨_, _, _, hbefore, hname.isKey, rfl⟩
  | assignment hbefore hkey => exact ⟨_, _, _, hbefore, hkey, rfl⟩
  | seeds hbefore => exact ⟨_, _, _, hbefore, isKey_seeds, rfl⟩

/-- An item is never blank. -/
theorem IsItem.allBlank_eq_false (h : IsItem text item) :
  allBlank text = false
  := by
  obtain ⟨before, key, rest, hbefore, hkey, rfl⟩ := h.exists_eq_append
  obtain ⟨c, cs, rfl, hc, -⟩ := hkey
  have hsolid := Text.isBlank_of_isNameChar (Text.isNameChar_of_isNameStart hc)
  rw [Text.allBlank_append, hbefore, List.cons_append, allBlank, List.all_cons, hsolid]
  rfl

theorem IsError.isNested {error : List Char} (h : IsError error) :
  IsNested false false error ∧ Ends error
  := by
  obtain rfl | ⟨error, rfl, hvalue⟩ := h
  · exact ⟨.nil, nofun⟩
  · exact ⟨isNested_cons ⟨by decide, nofun⟩ (by decide) hvalue.1, ends_cons (by decide) error⟩

/-- A key with blanks around it may stand in front of a nested text. -/
theorem IsKey.isNested_append {before key gap rest : List Char} (hkey : IsKey key)
    (hbefore : allBlank before = true) (hgap : allBlank gap = true)
    (hrest : IsNested false false rest) (hends : Ends rest) :
  IsNested false false (before ++ (key ++ (gap ++ rest)))
  := by
  have hcalm : ∀ c ∈ before ++ (key ++ gap), IsPlain false c ∧ c ≠ '/' := by
    intro c hc
    rw [List.mem_append, List.mem_append] at hc
    obtain hc | hc | hc := hc
    · exact isPlain_of_allBlank hbefore c hc
    · exact hkey.isPlain c hc
    · exact isPlain_of_allBlank hgap c hc
  have happend := (isNested_of_forall hcalm).append hrest hends
  simpa using happend

/-- Brackets and literals end in the item in which they begin. -/
theorem IsItem.isNested (h : IsItem text item) :
  IsNested false false text
  := by
  have hmark : ∀ {rest : List Char}, IsNested false false rest →
      IsNested false false ('=' :: rest) ∧ Ends ('=' :: rest) := fun hrest =>
    ⟨isNested_cons ⟨by decide, nofun⟩ (by decide) hrest, ends_cons (by decide) _⟩
  cases h with
  | flag hbefore hname hgap herror =>
    obtain ⟨hnested, hends⟩ := herror.isNested
    exact hname.isKey.isNested_append hbefore hgap hnested hends
  | assignment hbefore hkey _ hgap hvalue _ herror =>
    obtain ⟨hnested, hends⟩ := herror.isNested
    obtain ⟨hassigned, hends⟩ := hmark (hvalue.1.append hnested hends)
    exact hkey.isNested_append hbefore hgap hassigned hends
  | @seeds _ _ _ _ after _ hbefore hgap₁ hgap₂ hseparated helements hafter =>
    have hlist := hseparated.isNested fun e he => (helements e he).1.1
    have hback : IsNested false false after := isNested_of_allBlank hafter
    have hgroup := IsNested.group .square nofun hlist nofun hback
    obtain ⟨hassigned, hends⟩ := hmark
      ((isNested_of_allBlank hgap₂).append hgroup (ends_cons (by decide) _))
    exact isKey_seeds.isNested_append hbefore hgap₁ hassigned hends

/-- A value does not begin with the sign of an assignment, whatever error follows it. -/
theorem IsError.head?_squeeze_append {value error a : List Char} (herror : IsError error)
    (hvalue : (Text.stripLeft value).head? ≠ some '=') (ha : allBlank a = true) :
  (a ++ squeeze (value ++ error)).head? ≠ some '='
  := by
  apply head?_blank_append (by decide) ha
  rw [← Text.head?_squeeze] at hvalue
  obtain rfl | ⟨error, rfl, -⟩ := herror
  · rw [List.append_nil]
    exact hvalue
  · obtain ⟨x, y, hx, -, -, hsqueeze⟩ := Text.squeeze_append_cons (c := '@') (by decide) value error
    rw [hsqueeze, List.head?_append]
    cases hhead : (squeeze value).head? with
    | none =>
      rw [Option.none_or]
      exact head?_blank_append (by decide) hx (by simp)
    | some c =>
      rw [Option.some_or, ← hhead]
      exact hvalue

/-- An item is read as the constraint it stands for. -/
theorem IsItem.reads (h : IsItem text item) :
  item.Reads (.ofItem (squeeze text))
  := by
  cases h with
  | @flag before name gap error hbefore hname hgap herror =>
    have hnamed : '@' ∉ name ++ gap := by
      rw [List.mem_append, not_or]
      refine ⟨?_, notMem_of_allBlank (by decide) hgap⟩
      intro hmem
      have hkey := hname.isKey.forall_isKeyChar '@' hmem
      contradiction
    have hread := herror.withoutError_squeeze hnamed Text.allBlank_nil
    -- behind the name there is nothing or an error, so no sign of an assignment
    have hnone : keyValue? (squeeze (name ++ (gap ++ error))) = none := by
      obtain rfl | ⟨error, rfl, -⟩ := herror
      · have hflag := @IsKey.keyValue?_flag name [] [] hname.isKey Text.allBlank_nil nofun
        rw [List.append_nil, List.append_nil] at hflag
        rwa [List.append_nil, Text.squeeze_append_blank hgap, hname.isKey.squeeze_eq_self]
      · obtain ⟨a, b, ha, -, hsqueeze⟩ :=
          hname.isKey.exists_squeeze hgap (c := '@') (by decide) error
        rw [hsqueeze]
        exact hname.isKey.keyValue?_flag ha (by simp)
    rw [Text.squeeze_blank_append hbefore, Constraint.ofItem, hnone]
    rw [List.nil_append, Text.squeeze_append_blank hgap, hname.isKey.squeeze_eq_self,
      List.append_assoc] at hread
    dsimp only
    rw [hread]
    exact .flag name
  | @assignment before key gap value error hbefore hkey hseeds hgap hvalue hcomparison herror =>
    obtain ⟨a, b, ha, hb, hsqueeze⟩ :=
      hkey.exists_squeeze hgap (c := '=') (by decide) (value ++ error)
    have hread := hkey.keyValue?_assignment ha (herror.head?_squeeze_append hcomparison hb)
    rw [← hsqueeze] at hread
    rw [Text.squeeze_blank_append hbefore, Constraint.ofItem, hread]
    apply Item.Reads.assignment hseeds
    rw [withoutError_strip, herror.withoutError_squeeze hvalue.2 hb]
  | @seeds before gap₁ gap₂ list after elements hbefore hgap₁ hgap₂ hseparated helements hafter =>
    obtain ⟨a, b, ha, hb, hsqueeze⟩ :=
      isKey_seeds.exists_squeeze hgap₁ (c := '=') (by decide)
        (gap₂ ++ '[' :: (list ++ ']' :: after))
    have hlist : (squeeze ('[' :: (list ++ ']' :: after))).head? ≠ some '=' := by
      rw [Text.head?_squeeze, Text.stripLeft_cons_solid (by decide)]
      simp
    -- the blanks in front of the list and those in front of its mark are squeezed into one gap
    rw [Text.squeeze_blank_append hgap₂] at hsqueeze
    have hread := isKey_seeds.keyValue?_assignment ha (head?_blank_append (by decide) hb hlist)
    rw [← hsqueeze] at hread
    rw [Text.squeeze_blank_append hbefore, Constraint.ofItem, hread]
    apply Item.Reads.seeds
    exact hseparated.seedList_squeeze
      (fun e he => ⟨(helements e he).1.1, (helements e he).2⟩) hb hafter

/-- The items of an attribute make up a nested text. -/
theorem IsSeparated.isNested_items {texts : List (List Char)} {items : List Item} {body : List Char}
    (h : IsSeparated texts body) (hitems : List.Forall₂ IsItem texts items) :
  IsNested false true body
  := by
  apply h.isNested
  intro t ht
  obtain ⟨item, -, hitem⟩ := exists_of_forall₂_left hitems ht
  exact hitem.isNested

end

end AnchorIndex.Account

import AnchorIndex.Proofs.Account.Comments
import AnchorIndex.Proofs.Account.Items
import AnchorIndex.Proofs.Account.Declarations

/-!
# Reading account fields

The constraints of an account field are those that the items of its attributes stand for, in their
order (`reads_constraints`). The declaration behind the attributes adds none.

So the text of an account field is read as what its attributes and its declaration say
(`exists_field_of_attributes`): the decoded field has the name and the type that are declared, and
its flags, seeds, payers and validations are those of the items of all its attributes, in their
order.
-/

namespace AnchorIndex.Account

open Text (allBlank squeeze strip)

/-! ### Attributes -/

theorem hash_mem_attributeStart :
  '#' ∈ attributeStart
  := by decide

theorem notInfix_of_notMem {cs : List Char} (h : '#' ∉ cs) :
  ¬ attributeStart <:+: cs
  := fun hoccurs => h (hoccurs.subset hash_mem_attributeStart)

section

variable {text : List Char} {texts : List (List Char)} {items : List Item}

/-- The items of an attribute are read one by one. -/
theorem reads_of_isItem (h : List.Forall₂ IsItem texts items) {body : List Char}
    (hseparated : IsSeparated texts body) :
  List.Forall₂ Item.Reads items
    ((Source.splitCommas false body).map fun item => Constraint.ofItem (squeeze item))
  := by
  have hparts : ∀ t ∈ texts, IsNested false false t ∧ allBlank t = false := by
    intro t ht
    obtain ⟨item, -, hitem⟩ := exists_of_forall₂_left h ht
    exact ⟨hitem.isNested, hitem.allBlank_eq_false⟩
  rw [hseparated.splitCommas hparts, List.map_map]
  clear hseparated hparts
  induction h with
  | nil => exact .nil
  | cons hitem _ ih =>
    refine .cons ?_ ih
    rw [Function.comp_apply, Text.squeeze_strip]
    exact hitem.reads

/-- The constraints of an attribute are followed by those of the text behind it. -/
theorem IsAttribute.exists_constraints_append (h : IsAttribute text items) (more : List Char) :
  ∃ cs, List.Forall₂ Item.Reads items cs ∧ constraints (text ++ more) = cs ++ constraints more
  := by
  cases h with
  | @intro indent body gap texts items hindent hitems hseparated hgap =>
    have hclosing := (hseparated.isNested_items hitems).cutAtClosing?_append [']']
    have hcut : Text.cutAt? attributeStart ("#[account(".toList ++ (body ++ [')', ']']))
      = some ([], '(' :: (body ++ [')', ']'])) := rfl
    have hcontent : attributeContent? ('(' :: (body ++ [')', ']'])) = some (body ++ [')', ']']) :=
      rfl
    have hafter : Text.cutAt? attributeStart [')', ']'] = none := rfl
    have hbodies : attributeBodies ("#[account(".toList ++ (body ++ [')', ']'])) = [body] := by
      rw [attributeBodies_of_filled hcut hcontent hclosing, attributeBodies_of_none hafter]
    have hclosed : AttributesClosed ("#[account(".toList ++ (body ++ [')', ']'])) :=
      .filled hcut hcontent hclosing (.none hafter)
    have hparted : Text.Parted attributeStart ("#[account(".toList ++ (body ++ [')', ']']))
        (gap ++ '\n' :: more) := by
      left
      intro c hc
      rw [← List.append_assoc, List.getLast?_append] at hc
      cases hc
      decide
    have htext :
        indent ++ ("#[account(".toList ++ (body ++ (')' :: ']' :: (gap ++ ['\n'])))) ++ more
        = indent ++ (("#[account(".toList ++ (body ++ [')', ']'])) ++ (gap ++ '\n' :: more)) := by
      simp
    have hline : allBlank ['\n'] = true := rfl
    refine ⟨_, reads_of_isItem hitems hseparated, ?_⟩
    rw [htext, constraints_blank_append hindent, constraints_append hclosed hparted,
      constraints_blank_append hgap]
    have hmore := constraints_blank_append hline more
    rw [List.singleton_append] at hmore
    rw [hmore, constraints, hbodies, List.flatMap_singleton]

end

/-! ### Declarations -/

section

variable {text name : List Char} {type : AccountType}

theorem IsName.notMem_hash (h : IsName name) :
  '#' ∉ name
  := by
  intro hmem
  have hkey := h.isKey.forall_isKeyChar '#' hmem
  contradiction

theorem notMem_attributeStart_of_allBlank {blanks : List Char} (h : allBlank blanks = true) :
  ∀ c ∈ blanks, c ∉ attributeStart
  := fun c hc => notMem_attributeStart_of_isBlank (Text.allBlank_iff.1 h c hc)

/-- No attribute begins in a declaration. -/
theorem IsDeclaration.constraints_eq_nil (h : IsDeclaration text name type) :
  constraints text = []
  := by
  cases h with
  | @intro indent visibility name gap before cs comma after type hindent hvisibility _ hname hgap _
      hbefore _ _ hnone hcomma hafter =>
    have hhead : '#' ∉ (indent ++ (visibility ++ (name ++ gap))) ++ ':' :: before := by
      simp only [List.mem_append, List.mem_cons, not_or]
      exact ⟨⟨notMem_of_allBlank (by decide) hindent, hvisibility.notMem (by decide) (by decide),
        hname.notMem_hash, notMem_of_allBlank (by decide) hgap⟩, by decide,
        notMem_of_allBlank (by decide) hbefore⟩
    have hcolon : ∀ c ∈ ':' :: before, c ∉ attributeStart :=
      List.forall_mem_cons.2 ⟨by decide, notMem_attributeStart_of_allBlank hbefore⟩
    have htail : ∀ c ∈ comma ++ after, c ∉ attributeStart := by
      rw [List.forall_mem_append]
      refine ⟨?_, notMem_attributeStart_of_allBlank hafter⟩
      obtain rfl | ⟨blanks, hblanks, rfl⟩ := hcomma
      · simp
      · rw [List.forall_mem_append]
        exact ⟨notMem_attributeStart_of_allBlank hblanks, List.forall_mem_singleton.2 (by decide)⟩
    have hparted : Text.Parted attributeStart
        ((indent ++ (visibility ++ (name ++ gap))) ++ ':' :: before) (cs ++ (comma ++ after)) := by
      left
      intro c hc
      rw [List.getLast?_append_cons] at hc
      exact hcolon c (List.mem_of_getLast? hc)
    have htext :
        indent ++ (visibility ++ (name ++ (gap ++ ':' :: (before ++ (cs ++ (comma ++ after))))))
        = ((indent ++ (visibility ++ (name ++ gap))) ++ ':' :: before)
          ++ (cs ++ (comma ++ after)) := by simp
    have hend : ¬ attributeStart <:+: comma ++ after :=
      notInfix_of_notMem fun hmem => htail '#' hmem hash_mem_attributeStart
    rw [htext, constraints_append_of_notInfix (notInfix_of_notMem hhead) hparted,
      constraints_append_of_notInfix hnone (.inr fun c hc => htail c (List.mem_of_head? hc)),
      constraints, attributeBodies_of_none (Text.cutAt?_eq_none_iff.2 hend)]
    rfl

end

/-- The constraints of a field are what the items of its attributes say. -/
theorem reads_constraints {texts : List (List Char)} {items : List (List Item)}
    (h : List.Forall₂ IsAttribute texts items) {text name : List Char} {type : AccountType}
    (hdeclaration : IsDeclaration text name type) :
  List.Forall₂ Item.Reads items.flatten (constraints (texts.flatten ++ text))
  := by
  induction h with
  | nil =>
    rw [List.flatten_nil, List.flatten_nil, List.nil_append, hdeclaration.constraints_eq_nil]
    exact .nil
  | @cons front _ texts _ hattribute _ ih =>
    obtain ⟨cs, hcs, hconstraints⟩ := hattribute.exists_constraints_append (texts.flatten ++ text)
    rw [List.flatten_cons, List.flatten_cons, List.append_assoc, hconstraints]
    exact List.rel_append hcs ih

end AnchorIndex.Account

namespace AnchorIndex.Account

/-! ### What items say -/

/-- The value that an item gives to a key. -/
def Item.value? (key : List Char) : Item → Option (List Char)
  | flag _ => none
  | assignment k value _ => if k = key then some value else none
  | seeds _ => none

/-- The line of an item with one of the keys. -/
def Item.line? (keys : List (List Char)) : Item → Option (List Char)
  | flag _ => none
  | assignment k _ line => if keys.contains k then some line else none
  | seeds _ => none

/-- The seeds that an item lists. -/
def Item.elements : Item → List (List Char)
  | flag _ => []
  | assignment _ _ _ => []
  | seeds elements => elements

/-- The last value that some items give to a key. -/
def lastItemValue? (key : List Char) (items : List Item) : Option (List Char) :=
  (items.filterMap (Item.value? key)).getLast?

/-! ### What constraints say -/

section

variable {item : Item} {c : Constraint} {items : List Item} {cs : List Constraint}

theorem Item.Reads.isFlag_iff (h : item.Reads c) (names : List (List Char)) :
  c.isFlag names = true ↔ ∃ name ∈ names, item = .flag name
  := by
  cases h with
  | flag name => simp [Constraint.isFlag]
  | assignment => simp [Constraint.isFlag]
  | seeds => simp [Constraint.isFlag]

theorem Item.Reads.value?_eq (h : item.Reads c) {key : List Char} (hkey : key ≠ "seeds".toList) :
  (c.value? key).map withoutError = item.value? key
  := by
  cases h with
  | flag name => rfl
  | @assignment k value line read _ hvalue =>
    rw [Constraint.value?, Item.value?]
    split
    · rw [Option.map_some, hvalue]
    · rfl
  | seeds =>
    rw [Constraint.value?, if_neg hkey.symm]
    rfl

theorem Item.Reads.seeds_eq (h : item.Reads c) :
  ((c.value? "seeds".toList).map seedList).getD [] = item.elements
  := by
  cases h with
  | flag name => rfl
  | assignment hseeds _ =>
    rw [Constraint.value?, if_neg hseeds]
    rfl
  | seeds heq =>
    rw [Constraint.value?, if_pos rfl, Option.map_some, Option.getD_some, heq]
    rfl

theorem Item.Reads.validation?_eq (h : item.Reads c) :
  c.validation? = item.line? validationKeys
  := by
  cases h with
  | flag name => rfl
  | assignment => rfl
  | seeds =>
    rw [Constraint.validation?, if_neg (by decide)]
    rfl

/-- Constraints give what the items give that they are read from. -/
theorem filterMap_of_reads {f : Item → Option (List Char)} {g : Constraint → Option (List Char)}
    (h : List.Forall₂ Item.Reads items cs) (hfg : ∀ {item c}, item.Reads c → g c = f item) :
  cs.filterMap g = items.filterMap f
  := by
  induction h with
  | nil => rfl
  | cons hitem _ ih => rw [List.filterMap_cons, List.filterMap_cons, hfg hitem, ih]

theorem any_isFlag_iff (h : List.Forall₂ Item.Reads items cs) (names : List (List Char)) :
  cs.any (Constraint.isFlag names) = true ↔ ∃ name ∈ names, Item.flag name ∈ items
  := by
  rw [List.any_eq_true]
  constructor
  · rintro ⟨c, hc, hflag⟩
    obtain ⟨item, hitem, hread⟩ := exists_of_forall₂_right h hc
    obtain ⟨name, hname, rfl⟩ := (hread.isFlag_iff names).1 hflag
    exact ⟨name, hname, hitem⟩
  · rintro ⟨name, hname, hitem⟩
    obtain ⟨c, hc, hread⟩ := exists_of_forall₂_left h hitem
    exact ⟨c, hc, (hread.isFlag_iff names).2 ⟨name, hname, rfl⟩⟩

theorem lastValue?_eq (h : List.Forall₂ Item.Reads items cs) {key : List Char}
    (hkey : key ≠ "seeds".toList) :
  lastValue? key cs = (lastItemValue? key items).map String.ofList
  := by
  have hvalues : (cs.filterMap (Constraint.value? key)).map withoutError
      = items.filterMap (Item.value? key) := by
    rw [List.map_filterMap]
    exact filterMap_of_reads h fun hread => hread.value?_eq hkey
  rw [lastItemValue?, ← hvalues, List.getLast?_map, Option.map_map]
  rfl

theorem flatMap_seedList (h : List.Forall₂ Item.Reads items cs) :
  (cs.filterMap (Constraint.value? "seeds".toList)).flatMap seedList = items.flatMap Item.elements
  := by
  induction h with
  | nil => rfl
  | @cons item c _ _ hread _ ih =>
    rw [List.flatMap_cons, ← ih, ← hread.seeds_eq, List.filterMap_cons]
    cases c.value? "seeds".toList <;> rfl

end

/-! ### Fields -/

/-- Reading inverts the grammar. Whatever items the attributes above a declaration have, however
these are laid out and however brackets are nested in them, the text is read as a field with what
the declaration and the items say: each flag and value counts in whatever attribute it stands, of
several payers the last one pays, and the target of closing pays if there is no payer. -/
theorem exists_field_of_attributes {attributes : List (List Char)} {items : List (List Item)}
    (hattributes : List.Forall₂ IsAttribute attributes items) {declaration name : List Char}
    {type : AccountType} (hdeclaration : IsDeclaration declaration name type) :
  ∃ f, Field.ofText? (attributes.flatten ++ declaration) = some f
    ∧ f.name = String.ofList name
    ∧ f.wrapper = type.wrapper ∧ f.lifetime = type.lifetime ∧ f.inner = type.inner
    ∧ (f.isMut = true ↔ Item.flag "mut".toList ∈ items.flatten)
    ∧ (f.isInit = true ↔ Item.flag "init".toList ∈ items.flatten
        ∨ Item.flag "init_if_needed".toList ∈ items.flatten
        ∨ Item.flag "init_if_necessary".toList ∈ items.flatten)
    ∧ f.seeds = (items.flatten.flatMap Item.elements).map String.ofList
    ∧ f.isDerived = !f.seeds.isEmpty
    ∧ f.isClose = (lastItemValue? "close".toList items.flatten).isSome
    ∧ f.rentPayer = ((lastItemValue? "payer".toList items.flatten).or
        (lastItemValue? "close".toList items.flatten)).map String.ofList
    ∧ f.validations = (items.flatten.filterMap
        (Item.line? ["constraint".toList, "has_one".toList, "address".toList])).map String.ofList
  := by
  obtain ⟨read, hread, htype⟩ := hdeclaration.exists_declaration?
  have hitems := reads_constraints hattributes hdeclaration
  have hvalidations := filterMap_of_reads hitems fun hread => hread.validation?_eq
  refine ⟨.ofParts name type (constraints (attributes.flatten ++ declaration)), ?_, rfl, rfl, rfl,
    rfl, ?_, ?_, ?_, ?_, ?_, ?_, ?_⟩
  · rw [Field.ofText?, declaration?_attributes_append hattributes, hread, Option.map_some]
    dsimp only
    rw [htype]
  · rw [Field.ofParts, any_isFlag_iff hitems]
    simp
  · rw [Field.ofParts, any_isFlag_iff hitems]
    simp [initFlags]
  · rw [Field.ofParts, flatMap_seedList hitems]
  · rw [Field.ofParts]
    simp
  · rw [Field.ofParts, lastValue?_eq hitems (by decide), Option.isSome_map]
  · rw [Field.ofParts, lastValue?_eq hitems (by decide), lastValue?_eq hitems (by decide),
      Option.map_or]
  · rw [Field.ofParts, hvalidations]
    rfl

/-- A vault with two attributes, over several lines and with brackets in its seeds. -/
theorem exists_field_of_attributes_vault :
  let attributes :=
    ["#[account(mut,\n    seeds = [b\"v\", a.key()],\n    payer = a @ E::Bad,\n)]\n".toList,
      "#[account(close = sink)]\n".toList]
  let items := [[.flag "mut".toList, .seeds ["b\"v\"".toList, "a.key()".toList],
      .assignment "payer".toList "a".toList "payer = a @ E::Bad".toList],
    [.assignment "close".toList "sink".toList "close = sink".toList]]
  let declaration := "pub vault: Box<Account<'info, Vault>>,".toList
  let type : AccountType := ⟨"Account", some "'info", "Vault"⟩
  List.Forall₂ IsAttribute attributes items ∧ IsDeclaration declaration "vault".toList type
    ∧ ∃ f, Field.ofText? (attributes.flatten ++ declaration) = some f
      ∧ f.name = "vault" ∧ f.isMut = true ∧ f.isInit = false
      ∧ f.seeds = ["b\"v\"", "a.key()"] ∧ f.rentPayer = some "a" ∧ f.isClose = true
  := by
  intro attributes items declaration type
  have hmut : IsItem "mut".toList (.flag "mut".toList) :=
    @IsItem.flag [] "mut".toList [] [] rfl
      ⟨'m', "ut".toList, rfl, by decide, List.all_eq_true.1 rfl⟩ rfl (.inl rfl)
  have hseeds : IsItem "\n    seeds = [b\"v\", a.key()]".toList
      (.seeds ["b\"v\"".toList, "a.key()".toList]) := by
    have hbump : IsNested false false "b\"v\"".toList :=
      isNested_cons ⟨by decide, nofun⟩ (by decide)
        (@IsNested.literal false false ['v'] [] rfl (List.forall_mem_singleton.2 (by decide)) .nil)
    have hkey : IsNested false false " a.key()".toList :=
      IsNested.append (isNested_of_all (by decide) : IsNested false false " a.key".toList)
        (@IsNested.group false false [] [] .round nofun .nil nofun .nil) (ends_cons (by decide) _)
    have helements : ∀ e ∈ ["b\"v\"".toList, " a.key()".toList],
        IsValue e ∧ Text.allBlank e = false := by
      rw [List.forall_mem_cons, List.forall_mem_singleton]
      exact ⟨⟨⟨hbump, by decide⟩, rfl⟩, ⟨hkey, by decide⟩, rfl⟩
    exact @IsItem.seeds "\n    ".toList " ".toList " ".toList "b\"v\", a.key()".toList []
      ["b\"v\"".toList, " a.key()".toList] rfl rfl rfl (.inl rfl) helements rfl
  have hpayer : IsItem "\n    payer = a @ E::Bad".toList
      (.assignment "payer".toList "a".toList "payer = a @ E::Bad".toList) :=
    @IsItem.assignment "\n    ".toList "payer".toList " ".toList " a ".toList "@ E::Bad".toList rfl
      ⟨'p', "ayer".toList, rfl, by decide, List.all_eq_true.1 rfl⟩ (by decide) rfl
      ⟨isNested_of_all (by decide), by decide⟩ (by decide)
      (.inr ⟨" E::Bad".toList, rfl, isNested_of_all (by decide), by decide⟩)
  have hclose : IsItem "close = sink".toList
      (.assignment "close".toList "sink".toList "close = sink".toList) :=
    @IsItem.assignment [] "close".toList " ".toList " sink".toList [] rfl
      ⟨'c', "lose".toList, rfl, by decide, List.all_eq_true.1 rfl⟩ (by decide) rfl
      ⟨isNested_of_all (by decide), by decide⟩ (by decide) (.inl rfl)
  have hattributes : List.Forall₂ IsAttribute attributes items :=
    .cons (@IsAttribute.intro [] _ [] _ _ rfl (.cons hmut (.cons hseeds (.cons hpayer .nil)))
      (.inr ⟨"\n".toList, rfl, rfl⟩) rfl)
    (.cons (@IsAttribute.intro [] _ [] _ _ rfl (.cons hclose .nil) (.inl rfl) rfl) .nil)
  have hlifetime : IsNested true false "'info".toList :=
    .lifetime rfl ⟨'i', rfl, by decide⟩ (by decide) (isNested_of_all (by decide))
  have harguments : ∀ a ∈ ["'info".toList, " Vault".toList],
      IsNested true false a ∧ Text.allBlank a = false := by
    rw [List.forall_mem_cons, List.forall_mem_singleton]
    exact ⟨⟨hlifetime, rfl⟩, isNested_of_all (by decide), rfl⟩
  have htype : IsType "Box<Account<'info, Vault>>".toList type :=
    @IsType.boxed [] _ [] _ rfl (@IsPathType.generic "Account".toList "'info, Vault".toList
      ["'info".toList, " Vault".toList] ⟨by decide, List.all_eq_true.1 rfl⟩ (.inl rfl)
      harguments) rfl
  have hdeclaration : IsDeclaration declaration "vault".toList type :=
    @IsDeclaration.intro [] _ "vault".toList [] " ".toList _ ",".toList [] type rfl
      (@IsVisibility.pub " ".toList rfl (by decide)) (by decide)
      ⟨'v', "ault".toList, rfl, by decide, List.all_eq_true.1 rfl⟩ rfl (by decide) rfl (by decide)
      htype
      (by decide +kernel) (.inr ⟨[], rfl, rfl⟩) rfl
  obtain ⟨f, hf, hname, -, -, -, hchanged, hcreated, hlist, -, hclosed, hrent, -⟩ :=
    exists_field_of_attributes hattributes hdeclaration
  have hinit : f.isInit = false := by
    rw [← Bool.not_eq_true, hcreated]
    decide
  exact ⟨hattributes, hdeclaration, f, hf, hname.trans rfl, hchanged.2 (by decide), hinit,
    hlist.trans rfl, hrent.trans rfl, hclosed.trans rfl⟩

end AnchorIndex.Account

import AnchorIndex.Proofs.Account.Endings
import AnchorIndex.Proofs.Source.Quoting

/-!
# Literals in constraints

What stands in a text literal among the constraints of an account is of no importance for the field,
but for the seed or the validation that holds the literal: two fields with different contents of a
literal are the same apart from it (`ofText?_inQuotes`). This takes contents whose parentheses are
balanced and that do not end with a backslash (`IsCalm`), since parentheses are counted in literals
as well, and a quote behind a backslash is never taken for the end of a literal
(`literal_changes_field`).
-/

namespace AnchorIndex.Account

open Source (OneApart Piece Sealed LiteralsClosed cutAtClosing? depthAfter inQuotes mask)
open Text (allBlank lines squeeze strip unlines)

/-! ### Items with a literal -/

section

variable {u v front : List Char}

theorem takeWhile_append_quote {p : Char → Bool} (hp : p '"' = false) (front rest : List Char) :
  (front ++ '"' :: rest).takeWhile p = front.takeWhile p
    ∧ (front ++ '"' :: rest).dropWhile p = front.dropWhile p ++ '"' :: rest
  := by
  induction front with
  | nil => simp [hp]
  | cons c front ih =>
    by_cases hc : p c = true
    · simp [hc, ih]
    · simp [hc]

/-- The key of an assignment, the equals sign behind it and what is between them hold no quote. -/
theorem exists_key_append {c : Char} {value : List Char} (hc : Text.isNameStart c = true)
    (h : Text.stripLeft (front.dropWhile isKeyChar) = '=' :: value) :
  ∃ before, c :: front = before ++ value ∧ '"' ∉ before
  := by
  have hgap := @List.takeWhile_append_dropWhile _ Text.isBlank (front.dropWhile isKeyChar)
  rw [← Text.stripLeft, h] at hgap
  refine ⟨c :: (front.takeWhile isKeyChar
    ++ ((front.dropWhile isKeyChar).takeWhile Text.isBlank ++ ['='])), ?_, ?_⟩
  · have hfront := @List.takeWhile_append_dropWhile _ isKeyChar front
    rw [← hgap] at hfront
    simpa using hfront.symm
  · intro hmem
    simp only [List.mem_cons, List.mem_append, List.not_mem_nil, or_false] at hmem
    obtain rfl | hmem | hmem | hmem := hmem
    · contradiction
    · exact absurd (List.mem_takeWhile_imp hmem) (by decide)
    · exact absurd (List.mem_takeWhile_imp hmem) (by decide)
    · contradiction

/-- Whether an item with a literal is an assignment does not depend on the literal, unless its key
has one. -/
theorem keyValue?_append_quote (front : List Char) :
  (∀ rest, keyValue? (front ++ '"' :: rest) = none)
    ∨ ∃ before key value, front = before ++ value ∧ '"' ∉ before
      ∧ ∀ rest, keyValue? (front ++ '"' :: rest) = some (key, strip (value ++ '"' :: rest))
  := by
  cases front with
  | nil => exact .inl fun rest => rfl
  | cons c front =>
    by_cases hc : Text.isNameStart c = true
    · have hrest : ∀ rest, Text.stripLeft ((front ++ '"' :: rest).dropWhile isKeyChar)
          = Text.stripLeft (front.dropWhile isKeyChar) ++ '"' :: rest := by
        intro rest
        rw [(takeWhile_append_quote (p := isKeyChar) (by decide) front rest).2,
          Text.stripLeft_append_cons (by decide)]
      cases hvalue : Text.stripLeft (front.dropWhile isKeyChar) with
      | nil =>
        left
        intro rest
        rw [List.cons_append]
        apply keyValue?_eq_none hc
        simp [hrest, hvalue]
      | cons d value =>
        by_cases hd : d = '='
        · subst hd
          by_cases hequals : value.head? = some '='
          · left
            obtain ⟨value, rfl⟩ := List.head?_eq_some_iff.1 hequals
            intro rest
            rw [List.cons_append]
            apply keyValue?_of_comparison hc
            rw [hrest, hvalue]
            rfl
          · right
            obtain ⟨before, hbefore, hnone⟩ := exists_key_append hc hvalue
            refine ⟨before, c :: front.takeWhile isKeyChar, value, hbefore, hnone, fun rest => ?_⟩
            have hhead : (value ++ '"' :: rest).head? ≠ some '=' := by
              cases value with
              | nil => simp
              | cons e value => exact hequals
            rw [List.cons_append, keyValue?_eq_some hc (by rw [hrest, hvalue]; rfl) hhead,
              (takeWhile_append_quote (p := isKeyChar) (by decide) front rest).1]
        · left
          intro rest
          rw [List.cons_append]
          apply keyValue?_eq_none hc
          simpa [hrest, hvalue] using hd
    · left
      intro rest
      rw [List.cons_append, keyValue?, if_neg hc]

variable (h : Source.Twins u v)

include h

/-- Of two items that differ in a literal both are assignments with the same key, or none is. -/
theorem keyValue?_twins :
  (keyValue? u = none ∧ keyValue? v = none)
    ∨ ∃ key x y, keyValue? u = some (key, x) ∧ keyValue? v = some (key, y) ∧ Source.Twins x y
  := by
  obtain ⟨front, content, content', back, hfront, hcontent, hcontent', rfl, rfl⟩ := h
  obtain hnone | ⟨before, key, value, rfl, hbefore, hsome⟩ := keyValue?_append_quote front
  · exact .inl ⟨hnone _, hnone _⟩
  · rw [Source.literalsClosed_append_iff hbefore] at hfront
    refine .inr ⟨key, _, _, hsome _, hsome _, Source.Twins.strip ?_⟩
    exact ⟨value, content, content', back, hfront, hcontent, hcontent', rfl, rfl⟩

/-- What is in front of an error is the same in both texts, or it has a literal in both. -/
theorem withoutError_twins :
  withoutError u = withoutError v ∨ '"' ∈ withoutError u ∧ '"' ∈ withoutError v
  := by
  obtain ⟨front, content, content', back, -, -, -, rfl, rfl⟩ := h
  by_cases herror : '@' ∈ front
  · left
    obtain ⟨before, behind, rfl, hbefore⟩ := List.eq_append_cons_of_mem herror
    have htake : ∀ rest, (before ++ '@' :: behind ++ rest).takeWhile (· != '@') = before := by
      intro rest
      rw [List.append_assoc, List.takeWhile_append_of_pos]
      · simp
      · intro c hc
        rw [bne_iff_ne]
        rintro rfl
        contradiction
    rw [withoutError, withoutError, htake, htake]
  · right
    have hmem : ∀ content, '"' ∈ withoutError (front ++ inQuotes content back) := by
      intro content
      have htake : (front ++ inQuotes content back).takeWhile (· != '@')
          = front ++ '"' :: (content ++ '"' :: back).takeWhile (· != '@') := by
        rw [List.takeWhile_append_of_pos]
        · rfl
        · intro c hc
          rw [bne_iff_ne]
          rintro rfl
          contradiction
      rw [withoutError, htake, strip, Text.stripLeft_append_cons (by decide),
        Text.stripRight_append]
      simp [Text.allBlank, Text.isBlank, Text.stripRight_cons]
    exact ⟨hmem content, hmem content'⟩

end

/-- Constraints that are read from items with different contents of a literal. -/
inductive Constraint.Twins : Constraint → Constraint → Prop
  | flag {name name' : List Char} (same : name = name' ∨ '"' ∈ name ∧ '"' ∈ name') :
    Twins (.flag name) (.flag name')
  | assignment (key : List Char) {value value' item item' : List Char}
    (values : Source.Twins value value') (items : Source.Twins item item') :
    Twins (.assignment key value item) (.assignment key value' item')

theorem Constraint.twins_ofItem {u v : List Char} (h : Source.Twins u v) :
  Constraint.Twins (.ofItem u) (.ofItem v)
  := by
  obtain ⟨hu, hv⟩ | ⟨key, x, y, hu, hv, hvalues⟩ := keyValue?_twins h
  · rw [ofItem, ofItem, hu, hv]
    exact .flag (withoutError_twins h)
  · rw [ofItem, ofItem, hu, hv]
    exact .assignment key hvalues h

/-- Two lists of seeds that differ in a literal have the same seeds but for one. -/
theorem seedList_twins {u v : List Char} (h : Source.Twins u v) :
  seedList u = seedList v ∨ OneApart Source.Twins (seedList u) (seedList v)
  := by
  obtain ⟨front, content, content', back, hfront, hcontent, hcontent', hu, hv⟩ := h.strip
  have hhead : ∀ content, Text.headIs '[' (front ++ inQuotes content back)
      = Text.headIs '[' front := by
    intro content
    cases front <;> rfl
  have hlast : ∀ content, Text.lastIs ']' (front ++ inQuotes content back)
      = Text.lastIs ']' back := by
    intro content
    have hsplit : front ++ inQuotes content back = (front ++ '"' :: content) ++ '"' :: back := by
      simp [inQuotes]
    rw [Text.lastIs, Text.lastIs, hsplit, List.getLast?_append]
    obtain rfl | ⟨back, c, rfl⟩ := List.eq_nil_or_concat back
    · rfl
    · rw [List.concat_eq_append, ← List.cons_append, List.getLast?_concat, List.getLast?_concat]
      rfl
  by_cases hlist : Text.headIs '[' front = true ∧ Text.lastIs ']' back = true
  · right
    obtain ⟨hopens, hcloses⟩ := hlist
    obtain ⟨front, rfl⟩ := List.head?_eq_some_iff.1 (beq_iff_eq.1 hopens)
    obtain ⟨back, rfl⟩ := List.getLast?_eq_some_iff.1 (beq_iff_eq.1 hcloses)
    have hinner : ∀ content,
        (('[' :: front ++ inQuotes content (back ++ [']'])).drop 1).dropLast
          = front ++ inQuotes content back := by
      intro content
      have hsplit : ('[' :: front ++ inQuotes content (back ++ [']'])).drop 1
          = (front ++ inQuotes content back) ++ [']'] := by
        simp [inQuotes]
      rw [hsplit, List.dropLast_concat]
    have hclosed : LiteralsClosed front :=
      (@Source.literalsClosed_append_iff ['['] (by decide) front).1 hfront
    have htwins : Source.Twins (front ++ inQuotes content back) (front ++ inQuotes content' back) :=
      ⟨front, content, content', back, hclosed, hcontent, hcontent', rfl, rfl⟩
    rw [seedList, seedList, hu, hv, hhead, hhead, hlast, hlast, hopens, hcloses, hinner, hinner]
    exact htwins.splitCommas.map fun h => h.squeeze
  · left
    have hfalse : (Text.headIs '[' front && Text.lastIs ']' back) = false := by
      rw [← Bool.not_eq_true, Bool.and_eq_true]
      exact hlist
    rw [seedList, seedList, hu, hv, hhead, hhead, hlast, hlast, hfalse]
    rfl

/-! ### Fields with a literal -/

/-- The answers are the same, or both have a literal. -/
def SameOrQuoted (a b : Option String) : Prop :=
  a = b ∨ ∃ s t, a = some s ∧ b = some t ∧ '"' ∈ s.toList ∧ '"' ∈ t.toList

theorem SameOrQuoted.isSome_eq {a b : Option String} (h : SameOrQuoted a b) :
  a.isSome = b.isSome
  := by
  obtain rfl | ⟨s, t, rfl, rfl, -, -⟩ := h <;> rfl

theorem SameOrQuoted.or {a b a' b' : Option String} (h : SameOrQuoted a b)
    (h' : SameOrQuoted a' b') :
  SameOrQuoted (a.or a') (b.or b')
  := by
  obtain rfl | ⟨s, t, rfl, rfl, hs, ht⟩ := h
  · cases a with
    | none => exact h'
    | some s => exact .inl rfl
  · exact .inr ⟨s, t, rfl, rfl, hs, ht⟩

/-- The texts of one literal differ. -/
def TextTwins (a b : String) : Prop :=
  Source.Twins a.toList b.toList

/-- The fields differ in the text of a seed or of a validation, or in that of a payer with a
literal, and in nothing else. -/
structure Field.Twins (f g : Field) : Prop where
  declared : f.name = g.name ∧ f.wrapper = g.wrapper ∧ f.inner = g.inner ∧ f.lifetime = g.lifetime
  flags : f.isInit = g.isInit ∧ f.isMut = g.isMut ∧ f.isClose = g.isClose
    ∧ f.isDerived = g.isDerived
  counts : f.seeds.length = g.seeds.length ∧ f.validations.length = g.validations.length
  payer : SameOrQuoted f.rentPayer g.rentPayer
  texts : (f.seeds = g.seeds ∨ OneApart TextTwins f.seeds g.seeds) ∧ f.validations = g.validations
    ∨ f.seeds = g.seeds ∧ OneApart TextTwins f.validations g.validations

theorem Field.twins_refl (f : Field) :
  f.Twins f
  where
  declared := ⟨rfl, rfl, rfl, rfl⟩
  flags := ⟨rfl, rfl, rfl, rfl⟩
  counts := ⟨rfl, rfl⟩
  payer := .inl rfl
  texts := .inl ⟨.inl rfl, rfl⟩

/-- The seeds in constraints. -/
def seedTexts (cs : List Constraint) : List String :=
  ((cs.filterMap (Constraint.value? "seeds".toList)).flatMap seedList).map String.ofList

/-- The validations among constraints. -/
def validationTexts (cs : List Constraint) : List String :=
  (cs.filterMap Constraint.validation?).map String.ofList

section

variable {front back : List Constraint} {x y : Constraint} (h : x.Twins y)

include h

theorem Constraint.Twins.isFlag_eq {names : List (List Char)}
    (hnames : ∀ name ∈ names, '"' ∉ name) :
  x.isFlag names = y.isFlag names
  := by
  cases h with
  | flag same =>
    obtain rfl | ⟨hx, hy⟩ := same
    · rfl
    · have hnone : ∀ {name : List Char}, '"' ∈ name → names.contains name = false := by
        intro name hquote
        rw [← Bool.not_eq_true, List.contains_iff_mem]
        exact fun hmem => hnames name hmem hquote
      rw [Constraint.isFlag, Constraint.isFlag, hnone hx, hnone hy]
  | assignment => rfl

theorem Constraint.Twins.any_eq {names : List (List Char)} (hnames : ∀ name ∈ names, '"' ∉ name) :
  (front ++ x :: back).any (isFlag names) = (front ++ y :: back).any (isFlag names)
  := by
  rw [List.any_append, List.any_append, List.any_cons, List.any_cons, h.isFlag_eq hnames]

/-- The values of both have the same key. -/
theorem Constraint.Twins.value?_twins (key : List Char) :
  (x.value? key = none ∧ y.value? key = none)
    ∨ ∃ v w, x.value? key = some v ∧ y.value? key = some w ∧ Source.Twins v w
  := by
  cases h with
  | flag => exact .inl ⟨rfl, rfl⟩
  | assignment k values items =>
    by_cases hkey : k = key
    · exact .inr ⟨_, _, if_pos hkey, if_pos hkey, values⟩
    · exact .inl ⟨if_neg hkey, if_neg hkey⟩

theorem lastValue?_twins (key : List Char) :
  SameOrQuoted (lastValue? key (front ++ x :: back)) (lastValue? key (front ++ y :: back))
  := by
  rw [lastValue?, lastValue?, List.filterMap_append, List.filterMap_append, List.filterMap_cons,
    List.filterMap_cons]
  obtain ⟨hx, hy⟩ | ⟨v, w, hx, hy, hvalues⟩ := h.value?_twins key
  · rw [hx, hy]
    exact .inl rfl
  · rw [hx, hy]
    dsimp only
    cases hback : back.filterMap (Constraint.value? key) with
    | cons u us =>
      left
      simp
    | nil =>
      rw [List.getLast?_concat, List.getLast?_concat]
      obtain hsame | ⟨hv, hw⟩ := withoutError_twins hvalues
      · left
        rw [Option.map_some, Option.map_some, hsame]
      · exact .inr ⟨_, _, rfl, rfl, by rw [String.toList_ofList]; exact hv,
          by rw [String.toList_ofList]; exact hw⟩

theorem seedTexts_twins :
  (seedTexts (front ++ x :: back) = seedTexts (front ++ y :: back)
      ∨ OneApart TextTwins (seedTexts (front ++ x :: back)) (seedTexts (front ++ y :: back)))
    ∧ (x.value? "seeds".toList = none → y.value? "seeds".toList = none →
      seedTexts (front ++ x :: back) = seedTexts (front ++ y :: back))
  := by
  have hsplit : ∀ (key : List Char) (z : Constraint),
      ((front ++ z :: back).filterMap (Constraint.value? key)).flatMap seedList
        = (front.filterMap (Constraint.value? key)).flatMap seedList
          ++ ((z.value? key).elim [] seedList
            ++ (back.filterMap (Constraint.value? key)).flatMap seedList) := by
    intro key z
    cases hz : z.value? key <;> simp [List.filterMap_append, hz]
  rw [seedTexts, seedTexts, hsplit, hsplit]
  refine ⟨?_, fun hx hy => by rw [hx, hy]⟩
  obtain ⟨hx, hy⟩ | ⟨v, w, hx, hy, hvalues⟩ := h.value?_twins "seeds".toList
  · rw [hx, hy]
    exact .inl rfl
  · rw [hx, hy]
    obtain hsame | hapart := seedList_twins hvalues
    · left
      rw [Option.elim_some, Option.elim_some, hsame]
    · right
      refine (hapart.append _ _).map ?_
      intro s t hst
      rw [TextTwins, String.toList_ofList, String.toList_ofList]
      exact hst

theorem validationTexts_twins :
  validationTexts (front ++ x :: back) = validationTexts (front ++ y :: back)
    ∨ OneApart TextTwins (validationTexts (front ++ x :: back))
        (validationTexts (front ++ y :: back))
      ∧ x.value? "seeds".toList = none ∧ y.value? "seeds".toList = none
  := by
  have hsplit : ∀ z : Constraint, validationTexts (front ++ z :: back)
      = validationTexts front
        ++ (z.validation?.toList.map String.ofList ++ validationTexts back) := by
    intro z
    cases hz : z.validation? <;> simp [validationTexts, List.filterMap_append, hz]
  rw [hsplit, hsplit]
  cases h with
  | flag => exact .inl rfl
  | @assignment key _ _ item item' _ items =>
    by_cases hkey : key ∈ validationKeys
    · have hseeds : key ≠ "seeds".toList := by
        rintro rfl
        exact absurd hkey (by decide)
      have hitems : TextTwins (String.ofList item) (String.ofList item') := by
        rw [TextTwins, String.toList_ofList, String.toList_ofList]
        exact items
      simp only [Constraint.validation?, List.contains_iff_mem, hkey, if_true]
      exact .inr ⟨⟨_, _, _, _, rfl, rfl, hitems⟩, if_neg hseeds, if_neg hseeds⟩
    · left
      simp only [Constraint.validation?, List.contains_iff_mem, hkey, if_false]

/-- Fields whose constraints differ in a literal differ in one text. -/
theorem Field.twins_ofParts (name : List Char) (type : AccountType) :
  Field.Twins (.ofParts name type (front ++ x :: back)) (.ofParts name type (front ++ y :: back))
  := by
  obtain ⟨hseeds, hsame⟩ := @seedTexts_twins front back x y h
  have hvalidations := @validationTexts_twins front back x y h
  have hclose := @lastValue?_twins front back x y h "close".toList
  have hpayer := @lastValue?_twins front back x y h "payer".toList
  have hcount : ∀ {ss ts : List String}, ss = ts ∨ OneApart TextTwins ss ts →
      ss.length = ts.length := by
    rintro ss ts (rfl | hapart)
    · rfl
    · exact hapart.length_eq
  constructor
  case declared => exact ⟨rfl, rfl, rfl, rfl⟩
  case flags =>
    refine ⟨h.any_eq (by decide), h.any_eq (by decide), hclose.isSome_eq, ?_⟩
    have hlength := hcount hseeds
    rw [seedTexts, seedTexts, List.length_map, List.length_map] at hlength
    apply congrArg Bool.not
    rw [Bool.eq_iff_iff, List.isEmpty_iff_length_eq_zero, List.isEmpty_iff_length_eq_zero, hlength]
  case counts => exact ⟨hcount hseeds, hcount (hvalidations.imp_right And.left)⟩
  case payer => exact hpayer.or hclose
  case texts =>
    obtain hvalidations | ⟨hapart, hx, hy⟩ := hvalidations
    · exact .inl ⟨hseeds, hvalidations⟩
    · exact .inr ⟨hsame hx hy, hapart⟩

end

/-! ### Parentheses in literals -/

/-- At no point of the text are more parentheses closed than opened, and at its end none is open. -/
def Balanced (cs : List Char) : Prop :=
  (∀ p ∈ cs.inits, p.count ')' ≤ p.count '(') ∧ cs.count '(' = cs.count ')'

instance (cs : List Char) : Decidable (Balanced cs) :=
  inferInstanceAs (Decidable (_ ∧ _))

/-- The content of a literal, written with escapes. Its parentheses are balanced, and no backslash
is at its end. -/
structure IsCalm (content : List Char) : Prop where
  escaped : ∃ pieces : List Piece, content = pieces.flatMap Piece.text
  balanced : Balanced content
  ends : content.getLast? ≠ some '\\'

theorem IsCalm.isSealed {content : List Char} (h : IsCalm content) :
  Sealed content
  := by
  obtain ⟨⟨pieces, rfl⟩, -, hends⟩ := h
  exact Source.sealed_of_pieces hends

/-- No parenthesis is closed by a text that closes none but its own. -/
theorem cutAtClosing?_of_forall {cs : List Char} {depth : Int}
    (h : ∀ p, p <+: cs → (p.count ')' : Int) < depth + p.count '(') :
  cutAtClosing? '(' ')' depth cs = none
    ∧ cs.foldl (depthAfter '(' ')') depth = depth + cs.count '(' - cs.count ')'
  := by
  induction cs generalizing depth with
  | nil => exact ⟨rfl, by simp⟩
  | cons c cs ih =>
    have hdepth : depthAfter '(' ')' depth c = depth + [c].count '(' - [c].count ')' := by
      by_cases hopening : c = '('
      · rw [hopening]
        simp [depthAfter]
      · by_cases hclosing : c = ')'
        · rw [hclosing]
          simp [depthAfter]
        · simp [depthAfter, hopening, hclosing]
    have hcount : ∀ (d : Char) (p : List Char), (c :: p).count d = [c].count d + p.count d :=
      fun d p => @List.count_append _ _ d [c] p
    have hrest := @ih (depthAfter '(' ')' depth c) (by
      intro p hp
      have hwhole := h (c :: p) (List.cons_prefix_cons.2 ⟨rfl, hp⟩)
      have hopening := hcount '(' p
      have hclosing := hcount ')' p
      omega)
    have hfirst := h [c] (by simp)
    constructor
    · rw [Source.cutAtClosing?_cons, if_neg (by rintro ⟨-, hzero⟩; omega), hrest.1]
      rfl
    · have hopening := hcount '(' cs
      have hclosing := hcount ')' cs
      rw [List.foldl_cons, hrest.2]
      omega

/-- Where parentheses are open, a calm literal closes none. -/
theorem IsCalm.cutAtClosing?_inQuotes {content : List Char} (h : IsCalm content) {depth : Int}
    (hdepth : 1 ≤ depth) (back : List Char) :
  cutAtClosing? '(' ')' depth (inQuotes content back)
    = (cutAtClosing? '(' ')' depth back).map fun parts => (inQuotes content [] ++ parts.1, parts.2)
  := by
  obtain ⟨hprefixes, htotal⟩ := h.balanced
  have hcount : ∀ {d : Char}, d ≠ '"' → ∀ p : List Char, ('"' :: p).count d = p.count d :=
    fun hd p => List.count_cons_of_ne (Ne.symm hd)
  have hwhole : ∀ {d : Char}, d ≠ '"' → (content ++ ['"']).count d = content.count d := by
    intro d hd
    rw [List.count_append, List.count_singleton, if_neg (by simpa using Ne.symm hd)]
    rfl
  obtain ⟨hnone, hafter⟩ := @cutAtClosing?_of_forall (inQuotes content []) depth (by
    intro p hp
    obtain rfl | ⟨p, rfl, hmore⟩ := List.prefix_cons_iff.1 hp
    · simpa using Int.lt_of_lt_of_le Int.one_pos hdepth
    · rw [hcount (by decide), hcount (by decide)]
      obtain rfl | hp := List.prefix_concat_iff.1 hmore
      · rw [hwhole (by decide), hwhole (by decide)]
        omega
      · have hle := hprefixes p ((List.mem_inits _ _).2 hp)
        omega)
  have hsame : (inQuotes content []).foldl (depthAfter '(' ')') depth = depth := by
    rw [hafter, inQuotes, hcount (by decide), hcount (by decide), hwhole (by decide),
      hwhole (by decide)]
    omega
  rw [Source.inQuotes_eq_append, Source.cutAtClosing?_append_of_none hnone, hsame]

/-! ### Fields whose texts differ in a literal -/

/-- No field is declared up to the end of the text, and its last line, whatever is behind it, begins
with an attribute or inside brackets. -/
def Undeclared (text : List Char) : Prop :=
  ∃ init last, lines (mask text) = init ++ [last] ∧ declarationFrom? 0 init = none
    ∧ (changeOver nestingStep init = 0 → Text.headIs '#' (strip last) = true)

/-- The text of a field up to a literal among its constraints: a text in which all attributes are
closed, the start of an attribute, and what is in front of the literal in its parentheses. -/
structure LeadsToLiteral (before inside : List Char) : Prop where
  closed : AttributesClosed before
  parted : ∀ c ∈ before.getLast?, c ∉ attributeStart
  opened : cutAtClosing? '(' ')' 1 inside = none
  literals : LiteralsClosed inside
  undeclared : Undeclared (before ++ ("#[account(".toList ++ (inside ++ ['"'])))

theorem lines_append_of_lines {cs last : List Char} {init : List (List Char)}
    (h : lines cs = init ++ [last]) (more : List Char) :
  lines (cs ++ more) = init ++ lines (last ++ more)
  := by
  have hwhole : unlines (lines cs) = cs := Text.joinWith_splitAt '\n' cs
  rw [h] at hwhole
  by_cases hinit : init = []
  · subst hinit
    have hlast : last = cs := by simpa [unlines, Text.joinWith] using hwhole
    rw [hlast, List.nil_append]
  · have hnewline : ∀ line ∈ init, '\n' ∉ line := by
      intro line hline
      have hmem : line ∈ lines cs := by
        rw [h]
        exact List.mem_append_left _ hline
      exact Text.notMem_of_mem_splitAt hmem
    have hsplit : cs = unlines init ++ '\n' :: last := by
      rw [← hwhole, Text.unlines_append hinit (List.cons_ne_nil _ _)]
      simp [unlines, Text.joinWith]
    rw [hsplit, List.append_assoc, List.cons_append, lines, Text.splitAt_append, ← lines,
      Text.lines_unlines hinit hnewline, ← lines]

/-- A line that begins with an attribute does so whatever is put behind it. -/
theorem headIs_strip_append {line : List Char} (h : Text.headIs '#' (strip line) = true)
    (more : List Char) :
  Text.headIs '#' (strip (line ++ more)) = true
  := by
  obtain ⟨a, b, ha, -, hline⟩ := Text.exists_eq_append_strip line
  obtain ⟨rest, hrest⟩ := List.head?_eq_some_iff.1 (beq_iff_eq.1 h)
  rw [hrest] at hline
  have hwhole : line ++ more = a ++ (('#' :: (rest ++ (b ++ more))) ++ []) := by
    rw [hline]
    simp
  rw [hwhole, Text.strip_append_blank ha rfl]
  exact headIs_strip rfl rfl

/-- The search for the declaration goes on behind a literal on a line that declares nothing,
however many lines the literal has. -/
theorem declarationFrom?_append_quote {depth : Int} {line blanks : List Char} (hline : '\n' ∉ line)
    (hskipped : depth = 0 → Text.headIs '#' (strip line) = true) (hblanks : allBlank blanks = true)
    (back : List Char) :
  declarationFrom? depth (lines (line ++ (blanks ++ '"' :: back)))
    = declarationFrom? (depth + nestingStep line) (lines ('"' :: back))
  := by
  have hskip : ∀ more, depth = 0 →
      Text.headIs '#' (strip (line ++ more)) = true ∨ fieldName? (strip (line ++ more)) = none :=
    fun more hzero => .inl (headIs_strip_append (hskipped hzero) more)
  by_cases hnewline : '\n' ∈ blanks
  · obtain ⟨first, rest, rfl, hfirst⟩ := List.eq_append_cons_of_mem hnewline
    rw [Text.allBlank_append, Bool.and_eq_true, allBlank, allBlank, List.all_cons,
      Bool.and_eq_true] at hblanks
    have hinLine : '\n' ∉ line ++ first := by
      rw [List.mem_append, not_or]
      exact ⟨hline, hfirst⟩
    have hsplit : line ++ (first ++ '\n' :: rest ++ '"' :: back)
        = (line ++ first) ++ '\n' :: (rest ++ '"' :: back) := by
      simp
    rw [hsplit, lines_append_newline hinLine, declarationFrom?_cons_of_none (hskip first),
      declarationFrom?_blank_append hblanks.2.2, nestingStep_append,
      nestingStep_of_allBlank hblanks.1, Int.add_zero]
  · obtain ⟨rest, more, hlines, hwhole⟩ :=
      @exists_lines_append (line ++ blanks) (by simpa using ⟨hline, hnewline⟩) ('"' :: back)
    obtain ⟨first, ls, -, hback⟩ := @exists_lines_cons '"' (by decide) back
    rw [hback] at hlines
    obtain ⟨rfl, rfl⟩ := List.cons.inj hlines
    have hquote : ∀ {d : Int}, d = 0 → Text.headIs '#' (strip ('"' :: first)) = true
        ∨ fieldName? (strip ('"' :: first)) = none := by
      intro d _
      rw [strip_cons_solid rfl]
      exact .inr rfl
    rw [← List.append_assoc, hwhole, List.append_assoc, declarationFrom?_cons_of_none (hskip _),
      hback, declarationFrom?_cons_of_none hquote, nestingStep_append, nestingStep_append,
      nestingStep_of_allBlank hblanks, Int.zero_add, Int.add_assoc]

/-- What a field declares does not depend on a literal in front of its declaration. -/
theorem declaration?_inQuotes {front back : List Char} (h : Undeclared (front ++ ['"']))
    {content content' : List Char} (hcontent : IsCalm content) (hcontent' : IsCalm content')
    (hread : Source.ReadsCode front (inQuotes content back))
    (hread' : Source.ReadsCode front (inQuotes content' back)) :
  declaration? (front ++ inQuotes content back) = declaration? (front ++ inQuotes content' back)
  := by
  obtain ⟨init, last, hlines, hnone, hskipped⟩ := h
  have hinLine : '\n' ∉ last := by
    have hmem : last ∈ lines (mask (front ++ ['"'])) := by
      rw [hlines]
      simp
    exact Text.notMem_of_mem_splitAt hmem
  have hsearch : ∀ {content : List Char}, IsCalm content →
      Source.ReadsCode front (inQuotes content back) →
      declaration? (front ++ inQuotes content back)
        = declarationFrom? (changeOver nestingStep init + nestingStep last) (lines ('"' :: mask back)) := by
    intro content hcalm hread
    obtain ⟨pieces, rfl⟩ := hcalm.escaped
    rw [declaration?_eq, Source.mask_inQuotes hread, lines_append_of_lines hlines,
      declarationFrom?_append_of_none hnone, Int.zero_add,
      declarationFrom?_append_quote hinLine hskipped (Source.allBlank_map_blank _)]
  rw [hsearch hcontent hread, hsearch hcontent' hread']

/-- The constraints of an attribute up to its closing parenthesis, and those of the attributes
behind it. -/
theorem constraints_attribute {before : List Char} (hclosed : AttributesClosed before)
    (hparted : ∀ c ∈ before.getLast?, c ∉ attributeStart) (inner : List Char) :
  constraints (before ++ ("#[account(".toList ++ inner))
    = constraints before
      ++ (cutAtClosing? '(' ')' 1 inner).elim [] fun parts =>
        ((Source.splitCommas false parts.1).map fun item => .ofItem (squeeze item))
          ++ constraints parts.2
  := by
  have hcut : Text.cutAt? attributeStart ("#[account(".toList ++ inner) = some ([], '(' :: inner) :=
    rfl
  rw [constraints_append hclosed (.inl hparted)]
  congr 1
  cases hclosing : cutAtClosing? '(' ')' 1 inner with
  | none =>
    rw [constraints, attributeBodies_of_unclosed hcut rfl hclosing]
    rfl
  | some parts =>
    rw [constraints, attributeBodies_of_filled hcut rfl hclosing]
    rfl

/-- With another content of a literal the constraints are the same, or they differ in the one with
the literal. -/
theorem constraints_inQuotes {before inside : List Char} (h : LeadsToLiteral before inside)
    {content content' : List Char} (hcontent : IsCalm content) (hcontent' : IsCalm content')
    (back : List Char) :
  let read := fun content =>
    constraints (before ++ ("#[account(".toList ++ (inside ++ inQuotes content back)))
  read content = read content' ∨ OneApart Constraint.Twins (read content) (read content')
  := by
  intro read
  have hdepth := Source.le_foldl_depthAfter (Int.le_refl 1) h.opened
  have hread : ∀ {content : List Char}, IsCalm content →
      read content = constraints before
        ++ (cutAtClosing? '(' ')' (inside.foldl (depthAfter '(' ')') 1) back).elim [] fun parts =>
          ((Source.splitCommas false (inside ++ inQuotes content parts.1)).map
              fun item => .ofItem (squeeze item))
            ++ constraints parts.2 := by
    intro content hcalm
    have hbody := constraints_attribute h.closed h.parted (inside ++ inQuotes content back)
    rw [Source.cutAtClosing?_append_of_none h.opened, hcalm.cutAtClosing?_inQuotes hdepth] at hbody
    refine hbody.trans ?_
    cases cutAtClosing? '(' ')' (inside.foldl (depthAfter '(' ')') 1) back with
    | none => rfl
    | some parts =>
      simp only [Option.map_some, Option.elim_some]
      rw [← Source.inQuotes_eq_append]
  rw [hread hcontent, hread hcontent']
  cases cutAtClosing? '(' ')' (inside.foldl (depthAfter '(' ')') 1) back with
  | none => exact .inl rfl
  | some parts =>
    right
    have htwins : Source.Twins (inside ++ inQuotes content parts.1)
        (inside ++ inQuotes content' parts.1) :=
      ⟨inside, content, content', parts.1, h.literals, hcontent.isSealed, hcontent'.isSealed,
        rfl, rfl⟩
    exact (htwins.splitCommas.map fun h => Constraint.twins_ofItem h.squeeze).append _ _

/-- A literal among the constraints of a field is of no importance for what is declared, for the
flags and for the numbers of seeds and validations, as long as its content is calm: with another
calm content the fields differ in the text of the seed or the validation that holds the literal at
most, or in a payer that is no name but a text with a literal. -/
theorem ofText?_inQuotes {before inside back content content' : List Char}
    (h : LeadsToLiteral before inside) (hcontent : IsCalm content) (hcontent' : IsCalm content')
    (hread : Source.ReadsCode (before ++ ("#[account(".toList ++ inside)) (inQuotes content back))
    (hread' : Source.ReadsCode (before ++ ("#[account(".toList ++ inside))
      (inQuotes content' back)) :
  let text := fun content => before ++ ("#[account(".toList ++ (inside ++ inQuotes content back))
  Option.Rel Field.Twins (Field.ofText? (text content)) (Field.ofText? (text content'))
  := by
  intro text
  have htext : ∀ content, text content
      = (before ++ ("#[account(".toList ++ inside)) ++ inQuotes content back := by
    intro content
    simp [text]
  have hundeclared : Undeclared ((before ++ ("#[account(".toList ++ inside)) ++ ['"']) := by
    simpa using h.undeclared
  have hdeclaration : declaration? (text content) = declaration? (text content') := by
    rw [htext, htext]
    exact declaration?_inQuotes hundeclared hcontent hcontent' hread hread'
  have hconstraints : constraints (text content) = constraints (text content')
      ∨ OneApart Constraint.Twins (constraints (text content)) (constraints (text content')) :=
    constraints_inQuotes h hcontent hcontent' back
  rw [Field.ofText?, Field.ofText?, hdeclaration]
  cases declaration? (text content') with
  | none => exact .none
  | some declared =>
    apply Option.Rel.some
    obtain hsame | ⟨front, x, y, behind, hfront, hback, hxy⟩ := hconstraints
    · rw [hsame]
      exact Field.twins_refl _
    · rw [hfront, hback]
      exact Field.twins_ofParts hxy _ _

/-- The first seed of a vault, and a content with a quote, a comma and parentheses in its place. -/
theorem ofText?_inQuotes_vault :
  let before := "/// the vault\n  ".toList
  let inside := "init, payer = user, seeds = [b".toList
  let back := ", user.key().as_ref()], bump)]\n  pub vault: Account<'info, Vault>,".toList
  let content := "v1".toList
  let content' := "(\\\"),".toList
  let text := fun content => before ++ ("#[account(".toList ++ (inside ++ inQuotes content back))
  LeadsToLiteral before inside ∧ IsCalm content ∧ IsCalm content'
  ∧ Source.ReadsCode (before ++ ("#[account(".toList ++ inside)) (inQuotes content back)
  ∧ Source.ReadsCode (before ++ ("#[account(".toList ++ inside)) (inQuotes content' back)
  ∧ Option.Rel Field.Twins (Field.ofText? (text content)) (Field.ofText? (text content'))
  := by
  intro before inside back content content' text
  have hleads : LeadsToLiteral before inside :=
    ⟨.none (by decide +kernel),
      fun c hc => keep_of_all (by decide +kernel) c (Option.mem_toList.2 hc), by decide +kernel,
      by decide +kernel, ["             ".toList],
      "  #[account(init, payer = user, seeds = [b\"".toList, by decide +kernel, by decide +kernel, fun _ => by decide +kernel⟩
  have hcalm : IsCalm content :=
    ⟨⟨[.plain 'v' (by decide) (by decide), .plain '1' (by decide) (by decide)], rfl⟩, by decide,
      by decide⟩
  have hcalm' : IsCalm content' :=
    ⟨⟨[.plain '(' (by decide) (by decide), .escaped '"', .plain ')' (by decide) (by decide),
      .plain ',' (by decide) (by decide)], rfl⟩, by decide, by decide⟩
  have hread : Source.ReadsCode (before ++ ("#[account(".toList ++ inside))
      (inQuotes content back) := by
    decide +kernel
  have hread' : Source.ReadsCode (before ++ ("#[account(".toList ++ inside))
      (inQuotes content' back) := by
    decide +kernel
  exact ⟨hleads, hcalm, hcalm', hread, hread', ofText?_inQuotes hleads hcalm hcalm' hread hread'⟩

/-- With a parenthesis in a seed the attribute is closed there, and with a backslash at its end the
literal goes on: the account is no longer derived from its seeds, and no longer changed. -/
theorem literal_changes_field :
  let text := fun content => "#[account(seeds = [b\"" ++ content ++ "\", b\"x\"], mut)]\npub a: T,"
  let read := fun content =>
    (Field.ofText? (text content).toList).map fun f => (f.isMut, f.isDerived, f.seeds)
  read "y" = some (true, true, ["b\"y\"", "b\"x\""])
  ∧ read ")" = some (false, false, [])
  ∧ read "\\\\" = some (false, false, [])
  := by
  decide +kernel

end AnchorIndex.Account

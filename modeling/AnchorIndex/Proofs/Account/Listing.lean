import AnchorIndex.Proofs.Account.Layout
import AnchorIndex.Proofs.Source.Bodies

/-!
# Structs with an item on each line

In a struct whose attributes and declarations stand on lines of their own, each declaration with a
comma at the end of its line, there is one chunk for each field (`FieldText`), with its attributes,
its declaration and the comment behind the declaration. So each field is decoded as its text is
alone (`fields_of_listed`), unless the comment behind it is taken for an attribute
(`comment_behind_field_counts`).
-/

namespace AnchorIndex.Account

open Source (IsComment ReadsCode mask)
open Text (allBlank lines strip unlines)

/-! ### Fields of a listing -/

/-- The text of a field on lines of its own: blank lines and comments above it, its attributes, its
declaration, and a comment behind the declaration. -/
structure FieldText where
  lead : List (List Char)
  attributes : List (List Char)
  declaration : List Char
  comment : List Char

/-- The attributes and the declaration of a field. -/
def FieldText.own (f : FieldText) : List Char :=
  unlines (f.attributes ++ [f.declaration])

/-- The line of the declaration. -/
def FieldText.line (f : FieldText) : List Char :=
  f.declaration ++ f.comment

/-- The parts of the text of a field, each on lines of its own. -/
def FieldText.texts (f : FieldText) : List (List Char) :=
  f.lead ++ (f.attributes ++ [f.line])

/-- The declaration stands on one line, with a comma behind it unless the field is the last one. -/
structure FieldText.Fits (last : Bool) (f : FieldText) : Prop where
  lead : ∀ line ∈ f.lead, IsMargin line
  attributes : ∀ a ∈ f.attributes, IsAnnotation a
  declares : ∃ name, IsFieldLine name f.line
  nested : WellNested (mask f.line)
  rests : Rests f.line
  ends : last = true ∨ Text.lastIs ',' (strip (mask f.line)) = true
  comment : f.comment = [] ∨ IsComment f.comment [] ∧ ReadsCode f.own f.comment

/-- Each field fits into the listing, and only the last one may be without a comma. -/
def Listed : List FieldText → Prop
  | [] => True
  | f :: fs => f.Fits fs.isEmpty ∧ Listed fs

/-- The chunk that a field makes. -/
def FieldText.chunk (f : FieldText) : List Char :=
  Text.stripRight (f.own ++ f.comment)

theorem FieldText.unlines_eq (f : FieldText) :
  unlines (f.attributes ++ [f.line]) = f.own ++ f.comment
  := Source.unlines_append_last f.attributes f.declaration f.comment

/-! ### Cutting a listing -/

section

variable {declaring : Bool} {pending chunks : List (List Char)} {name line : List Char}
  {more : List (List Char × List Char)} {f : FieldText}

theorem continues_of_fieldName? {nesting : Int} {stripped : List Char} (hnesting : nesting ≤ 0)
    (hhash : Text.headIs '#' stripped = false) (hname : fieldName? stripped = some name) :
  continues nesting stripped = false
  := by
  have hslash : Text.startsWith ['/', '/'] stripped = false := by
    rw [← Bool.not_eq_true, Text.startsWith, List.isPrefixOf_iff_prefix]
    rintro ⟨rest, rfl⟩
    contradiction
  have hempty : stripped.isEmpty = false := by
    cases stripped with
    | nil => contradiction
    | cons => rfl
  rw [continues, hhash, hslash, hempty, decide_eq_false (by omega)]
  rfl

/-- In front of a chunk lines without more than comments are skipped. -/
theorem cutFrom_lead {ls : List (List Char)} (h : ∀ line ∈ ls, IsMargin line) :
  cutFrom ⟨1, 0, declaring, [], chunks⟩ (ls.flatMap (fun l => rows .code (lines l)) ++ more)
    = cutFrom ⟨1, 0, declaring, [], chunks⟩ more
  := by
  induction ls with
  | nil => rfl
  | cons line ls ih =>
    obtain ⟨hline, hls⟩ := List.forall_mem_cons.1 h
    rw [List.flatMap_cons, List.append_assoc, cutFrom_margin hline, ih hls]

/-- The attributes of a field are added to the present chunk. -/
theorem cutFrom_attributes {attributes : List (List Char)}
    (h : ∀ a ∈ attributes, IsAnnotation a) :
  ∃ declaring', cutFrom ⟨1, 0, declaring, pending, chunks⟩
      (attributes.flatMap (fun a => rows .code (lines a)) ++ more)
    = cutFrom ⟨1, 0, declaring', (attributes.flatMap lines).reverse ++ pending, chunks⟩ more
  := by
  induction attributes generalizing declaring pending with
  | nil => exact ⟨declaring, rfl⟩
  | cons a attributes ih =>
    obtain ⟨ha, hattributes⟩ := List.forall_mem_cons.1 h
    obtain ⟨declaring₁, hfirst⟩ := @cutFrom_annotated a declaring pending chunks
      (attributes.flatMap (fun a => rows .code (lines a)) ++ more) ha
    obtain ⟨declaring₂, hrest⟩ := @ih declaring₁ ((lines a).reverse ++ pending) hattributes
    refine ⟨declaring₂, ?_⟩
    rw [List.flatMap_cons, List.append_assoc, hfirst, hrest, List.flatMap_cons,
      List.reverse_append, List.append_assoc]

/-- The state behind the line of a declaration. -/
theorem cutFrom_fieldLine (hline : IsFieldLine name line) (hnested : WellNested (mask line)) :
  cutFrom ⟨1, 0, declaring, pending, chunks⟩ (rows .code (lines line) ++ more)
    = if Text.lastIs ',' (strip (mask line)) then
        cutFrom ⟨1, 0, false, [],
          Text.stripRight (unlines (line :: pending).reverse) :: chunks⟩ more
      else cutFrom ⟨1, 0, true, line :: pending, chunks⟩ more
  := by
  obtain ⟨hhash, hname⟩ := hline.declares
  have hnesting := (hnested.level countsBrackets_nestingStep).2
  have hdepth := (hnested.level countsBrackets_depthStep).2
  have hcontinues : continues (0 + nestingStep (mask line)) (strip (mask line)) = false :=
    continues_of_fieldName? (by omega) hhash hname
  have hsolid : allBlank (mask line) = true → pending ≠ [] := by
    intro hblank
    rw [Text.strip_eq_nil_iff.2 hblank] at hname
    contradiction
  have hdeclares : Cutter.declares ⟨1, 0, declaring, pending, chunks⟩ (mask line) = true := by
    rw [Cutter.declares, hname, Option.isSome_some, Bool.or_true]
  have hinside : 1 ≤ 1 + depthStep (mask line) := by omega
  have hone : (⟨1, 0, declaring, pending, chunks⟩ : Cutter).depth ≠ 0 := Int.one_ne_zero
  rw [rows_of_line hline.notMem, List.singleton_append]
  split
  next hcomma =>
    rw [cutFrom_ends hone hinside hsolid hcontinues (by rw [hdeclares, hcomma]; rfl)]
    simp only [Cutter.gather, hnesting, hdepth, Int.add_zero]
  next hcomma =>
    rw [cutFrom_open hone hinside hsolid hcontinues
      (by rw [Bool.not_eq_true] at hcomma; rw [hcomma, Bool.and_false]), hdeclares]
    simp only [Cutter.gather, hnesting, hdepth, Int.add_zero]

/-- The chunk of a field is made of the lines of its attributes and its declaration. -/
theorem FieldText.Fits.chunk_eq {last : Bool} (h : f.Fits last) :
  Text.stripRight (unlines (f.line :: (f.attributes.flatMap lines).reverse).reverse) = f.chunk
  := by
  obtain ⟨name, hline⟩ := h.declares
  have hsingle : lines f.line = [f.line] := Text.splitAt_of_notMem hline.notMem
  have htexts : (f.attributes ++ [f.line]).flatMap lines
      = f.attributes.flatMap lines ++ [f.line] := by
    rw [List.flatMap_append, List.flatMap_singleton, hsingle]
  rw [List.reverse_cons, List.reverse_reverse, ← htexts, unlines_flatMap_lines, f.unlines_eq,
    FieldText.chunk]

/-- The state behind a field. -/
theorem FieldText.Fits.cutFrom_eq {last : Bool} (h : f.Fits last) :
  cutFrom ⟨1, 0, false, [], chunks⟩ (f.texts.flatMap (fun text => rows .code (lines text)) ++ more)
    = if Text.lastIs ',' (strip (mask f.line)) then
        cutFrom ⟨1, 0, false, [], f.chunk :: chunks⟩ more
      else cutFrom ⟨1, 0, true, f.line :: (f.attributes.flatMap lines).reverse, chunks⟩ more
  := by
  obtain ⟨name, hline⟩ := h.declares
  obtain ⟨declaring, hattributes⟩ := @cutFrom_attributes false [] chunks
    (rows .code (lines f.line) ++ more) f.attributes h.attributes
  have hsplit : f.texts.flatMap (fun text => rows .code (lines text)) ++ more
      = f.lead.flatMap (fun text => rows .code (lines text))
        ++ (f.attributes.flatMap (fun text => rows .code (lines text))
          ++ (rows .code (lines f.line) ++ more)) := by
    simp [FieldText.texts]
  rw [hsplit, cutFrom_lead h.lead, hattributes, List.append_nil,
    cutFrom_fieldLine hline h.nested, h.chunk_eq]

/-- The chunks up to the closing brace are those of the fields. -/
theorem cutFrom_listed {fs : List FieldText} (hfs : Listed fs) (hclosing : IsClosing line)
    (ls : List (List Char)) :
  cutFrom ⟨1, 0, false, [], chunks⟩
      ((fs.flatMap FieldText.texts).flatMap (fun text => rows .code (lines text))
        ++ rows .code (line :: ls))
    = chunks.reverse ++ fs.map FieldText.chunk
  := by
  induction fs generalizing chunks with
  | nil =>
    rw [List.flatMap_nil, List.flatMap_nil, List.nil_append, cutFrom_isClosing hclosing]
    simp [Cutter.finish]
  | cons f fs ih =>
    obtain ⟨hf, hfs⟩ := hfs
    rw [List.flatMap_cons, List.flatMap_append, List.append_assoc, hf.cutFrom_eq]
    split
    next =>
      rw [ih hfs]
      simp
    next hcomma =>
      -- without a comma the field is the last one
      have hlast : fs = [] := List.isEmpty_iff.1 (hf.ends.resolve_right hcomma)
      subst hlast
      rw [List.flatMap_nil, List.flatMap_nil, List.nil_append, cutFrom_isClosing hclosing]
      have hchunk := hf.chunk_eq
      simp only [Cutter.finish, Cutter.pendingText, hchunk]
      simp

end

theorem Listed.exists_fits {fs : List FieldText} (h : Listed fs) {f : FieldText} (hf : f ∈ fs) :
  ∃ last, f.Fits last
  := by
  induction fs with
  | nil => contradiction
  | cons f' fs ih =>
    obtain rfl | hf := List.mem_cons.1 hf
    · exact ⟨_, h.1⟩
    · exact ih h.2 hf

theorem FieldText.Fits.rests_texts {last : Bool} {f : FieldText} (h : f.Fits last) :
  ∀ text ∈ f.texts, Rests text
  := by
  rw [FieldText.texts, List.forall_mem_append, List.forall_mem_append, List.forall_mem_singleton]
  exact ⟨fun line hline => (h.lead line hline).rests, fun a ha => (h.attributes a ha).1, h.rests⟩

/-- A struct in which the fields are listed is cut into one chunk for each field. -/
theorem chunks_of_listed {header closing : List Char} {fs : List FieldText}
    (hheader : IsHeader header) (hfs : Listed fs) (hclosing : IsClosing closing)
    (rest : List (List Char)) :
  chunks (unlines (header :: (fs.flatMap FieldText.texts ++ closing :: rest)))
    = fs.map FieldText.chunk
  := by
  have hrests : ∀ text ∈ fs.flatMap FieldText.texts, Rests text := by
    intro text htext
    obtain ⟨f, hf, htext⟩ := List.mem_flatMap.1 htext
    obtain ⟨last, hfits⟩ := hfs.exists_fits hf
    exact hfits.rests_texts text htext
  rw [chunks_of_texts hheader hrests hclosing, cutFrom_listed hfs hclosing]
  rfl

/-! ### Decoding a listing -/

section

variable {f : FieldText} {last : Bool}

/-- The chunk of a field declares it. -/
theorem FieldText.Fits.isSome_declaration? (h : f.Fits last) :
  (declaration? (f.own ++ f.comment)).isSome
  := by
  obtain ⟨name, hline⟩ := h.declares
  obtain ⟨hhash, hname⟩ := hline.declares
  have hattributes : ∀ a ∈ f.attributes, Rests a := fun a ha => (h.attributes a ha).1
  have hlines : lines (f.own ++ f.comment) = f.attributes.flatMap lines ++ [f.line] := by
    have hsingle : lines f.line = [f.line] := Text.splitAt_of_notMem hline.notMem
    rw [← f.unlines_eq, lines_unlines_texts (by simp), List.flatMap_append,
      List.flatMap_singleton, hsingle]
  have hlevel := changeOver_annotations h.attributes
  rw [declaration?, hlines, maskLines_flatMap_lines hattributes, isSome_declarationFrom?_iff]
  refine ⟨_, mask f.line, [], ?_, by rw [hlevel]; rfl, hhash, by rw [hname]; rfl⟩
  rw [mask_eq_of_line hline.notMem]
  rfl

/-- A comment behind the field makes no difference unless an attribute begins in it. -/
theorem FieldText.Fits.ofText?_append_comment (h : f.Fits last) (hclosed : AttributesClosed f.own)
    (hno : ¬ attributeStart <:+: f.comment) :
  Field.ofText? (f.own ++ f.comment) = Field.ofText? f.own
  := by
  obtain hnil | ⟨hcomment, hreads⟩ := h.comment
  · rw [hnil, List.append_nil]
  · have hmask := Source.mask_blank_comment hcomment (by rw [List.append_nil]; exact hreads)
    have hparted := parted_comment hcomment f.own
    rw [List.append_nil, List.append_nil] at hmask
    rw [List.append_nil] at hparted
    have hdeclaration : declaration? (f.own ++ f.comment) = declaration? f.own := by
      rw [← declaration?_eq_of_mask_eq hmask,
        declaration?_append_blank (Source.allBlank_map_blank f.comment)]
    have hconstraints : constraints (f.own ++ f.comment) = constraints f.own := by
      have hnone : constraints f.comment = [] := by
        rw [constraints, attributeBodies_of_none (Text.cutAt?_eq_none_iff.2 hno)]
        rfl
      rw [constraints_append hclosed hparted, hnone, List.append_nil]
    rw [Field.ofText?, Field.ofText?, hdeclaration, hconstraints]

end

/-- A struct in which the fields are listed has one chunk and one record for each field, in their
order. The record is decoded from the attributes, the declaration and the comment behind it. It is
the one of the attributes and the declaration alone if every attribute is closed in them and none
begins in the comment. -/
theorem fields_of_listed {header closing : List Char} {fs : List FieldText}
    (hheader : IsHeader header) (hfs : Listed fs) (hclosing : IsClosing closing)
    (rest : List (List Char)) :
  let content := unlines (header :: (fs.flatMap FieldText.texts ++ closing :: rest))
  (chunks content).length = fs.length
  ∧ ∃ records, fields content = .ok records
    ∧ List.Forall₂ (fun f r => Field.ofText? (f.own ++ f.comment) = some r
        ∧ (AttributesClosed f.own → ¬ attributeStart <:+: f.comment →
          Field.ofText? f.own = some r)) fs records
  := by
  intro content
  have hchunks : chunks content = fs.map FieldText.chunk :=
    chunks_of_listed hheader hfs hclosing rest
  have hdecoded : ∀ f ∈ fs, ∃ r, Field.ofText? (f.own ++ f.comment) = some r
      ∧ (AttributesClosed f.own → ¬ attributeStart <:+: f.comment →
        Field.ofText? f.own = some r) := by
    intro f hf
    obtain ⟨last, hfits⟩ := hfs.exists_fits hf
    have hsome : (Field.ofText? (f.own ++ f.comment)).isSome := by
      rw [Field.ofText?, Option.isSome_map]
      exact hfits.isSome_declaration?
    obtain ⟨r, hr⟩ := Option.isSome_iff_exists.1 hsome
    refine ⟨r, hr, ?_⟩
    intro hclosed hno
    rw [← hfits.ofText?_append_comment hclosed hno, hr]
  obtain ⟨records, hrecords⟩ := exists_forall₂_of_forall hdecoded
  refine ⟨by rw [hchunks, List.length_map], records, ?_, hrecords⟩
  rw [fields_eq_ok_iff, hchunks, List.forall₂_map_left_iff]
  apply hrecords.imp
  intro f r hr
  rw [FieldText.chunk, Field.ofText?_stripRight]
  exact hr.1

/-- A payer with comments above it and behind it. -/
def listedPayer : FieldText where
  lead := [[], "  // pays (all".toList]
  attributes := ["  #[account(mut)]".toList]
  declaration := "  pub payer: Signer<'info>, ".toList
  comment := "// [".toList

/-- A vault with an attribute on several lines, and without a comma. -/
def listedVault : FieldText where
  lead := []
  attributes := ["  #[account(\n    init,\n    seeds = [b\"[\"],\n  )]".toList]
  declaration := "  vault: Account<'info, Vault>".toList
  comment := []

theorem fits_listedPayer :
  listedPayer.Fits false
  where
  lead := by
    refine List.forall_mem_cons.2 ⟨⟨by decide, rfl, rfl⟩, List.forall_mem_singleton.2 ?_⟩
    constructor <;> decide +kernel
  attributes := by
    have hmut : WellNested "account(mut)".toList := wellNested_of_nests rfl
    exact List.forall_mem_singleton.2
      ⟨rfl, "  ".toList, _, [], rfl, rfl, by decide, hmut, rfl, by decide⟩
  declares := by
    have hpub : IsVisibility "pub ".toList := @IsVisibility.pub [' '] rfl (by decide)
    exact ⟨"payer".toList, @IsFieldLine.intro _ "  ".toList _ [] _ rfl hpub
      ⟨'p', "ayer".toList, rfl, by decide, List.all_eq_true.1 (by decide)⟩ rfl (by decide)
        (by decide)⟩
  nested := wellNested_of_nests (by decide +kernel)
  rests := by decide +kernel
  ends := .inr (by decide +kernel)
  comment := .inr ⟨.line (by decide) (by simp), by decide +kernel⟩

theorem fits_listedVault :
  listedVault.Fits true
  where
  lead := List.forall_mem_nil _
  attributes := by
    have hinit : WellNested "account(\n    init,\n    seeds = [b\" \"],\n  )".toList :=
      wellNested_of_nests (by decide +kernel)
    exact List.forall_mem_singleton.2
      ⟨by decide +kernel, "  ".toList, _, [], by decide +kernel, rfl, by decide, hinit, rfl,
        by decide⟩
  declares := by
    exact ⟨"vault".toList, @IsFieldLine.intro _ "  ".toList [] [] _ rfl .none
      ⟨'v', "ault".toList, rfl, by decide, List.all_eq_true.1 (by decide)⟩ rfl (by decide)
        (by decide)⟩
  nested := wellNested_of_nests (by decide +kernel)
  rests := by decide +kernel
  ends := .inl rfl
  comment := .inl rfl

/-- A struct with these two fields. -/
theorem fields_of_listed_payer_vault :
  let header := "#[derive(Accounts)]\npub struct Deposit<'info> \x7b".toList
  let closing := "\x7d".toList
  let fs := [listedPayer, listedVault]
  let content := unlines (header :: (fs.flatMap FieldText.texts ++ [closing, []]))
  IsHeader header ∧ Listed fs ∧ IsClosing closing
  ∧ (chunks content).length = fs.length
  ∧ ∃ records, fields content = .ok records
    ∧ List.Forall₂ (fun f r => Field.ofText? (f.own ++ f.comment) = some r
        ∧ (AttributesClosed f.own → ¬ attributeStart <:+: f.comment →
          Field.ofText? f.own = some r)) fs records
  := by
  intro header closing fs content
  have hheader : IsHeader header :=
    ⟨by decide +kernel, "#[derive(Accounts)]\npub struct Deposit<'info> ".toList, [],
      by decide +kernel, keep_of_all (by decide), by decide⟩
  have hfs : Listed fs := ⟨fits_listedPayer, fits_listedVault, trivial⟩
  have hclosing : IsClosing closing := ⟨by decide, [], [], rfl, rfl, rfl⟩
  exact ⟨hheader, hfs, hclosing, fields_of_listed hheader hfs hclosing [[]]⟩

/-- A comment behind a field makes the account one that is changed: an attribute in it counts, and
a parenthesis in it closes an attribute that is not closed otherwise. The field alone is not
changed. -/
theorem comment_behind_field_counts :
  let isMut := fun text => (Field.ofText? text).map Field.isMut
  let areMut := fun content => (fields content).toOption.map (List.map Field.isMut)
  (areMut "struct P<'info> \x7b\n    pub a: Signer<'info>, // #[account(mut)]\n\x7d".toList
      = some [true]
    ∧ isMut "    pub a: Signer<'info>,".toList = some false)
  ∧ (areMut ("struct P<'info> \x7b\n    #[account(mut, constraint = a.b == b\"(\")]\n"
        ++ "    pub a: Signer<'info>, // )\n\x7d").toList
      = some [true]
    ∧ isMut ("    #[account(mut, constraint = a.b == b\"(\")]\n"
        ++ "    pub a: Signer<'info>,").toList = some false)
  := by
  decide +kernel

end AnchorIndex.Account

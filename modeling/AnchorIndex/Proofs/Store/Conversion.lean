import AnchorIndex.Store.Conversion
import AnchorIndex.Proofs.CallGraph.OrderedSet
import AnchorIndex.Proofs.Document.Reading
import AnchorIndex.Proofs.Store.Schemas

/-!
# Entities and records in documents and back

An entity or a record that is put into a document is described by what stands there
(`entityOfRecord_entityRecord` and its like). Documents keep those whose texts are normal
(`Entity.IsClean` and its like), and whatever is read from a document is of this kind
(`isClean_of_entityOfRecord` and its like).
-/

namespace AnchorIndex

open Document
  (FieldSpec IsNormal Layout Schema Section Value map_normalText_eq_self normalText
    normalText_eq_self)

/-! ### What documents keep -/

/-- The block around the entity, if there is one, does not start below zero. -/
def Entity.IsPlaced (e : Entity) : Prop :=
  ∀ first last, e.enclosing = some (first, last) → 0 ≤ first

/-- The entity as a document keeps it. -/
def Entity.normal (e : Entity) : Entity :=
  { e with path := normalText e.path, name := normalText e.name, id := normalText e.id }

/-- A document keeps the entity as it is. -/
structure Entity.IsClean (e : Entity) : Prop where
  path : IsNormal e.path
  name : IsNormal e.name
  id : IsNormal e.id
  placed : e.IsPlaced

theorem Entity.normal_eq_self {e : Entity} (h : e.IsClean) :
  e.normal = e
  := by
  rw [Entity.normal]
  congr
  · apply normalText_eq_self h.path
  · apply normalText_eq_self h.name
  · apply normalText_eq_self h.id

/-- A document keeps the dependency record as it is. -/
structure CallGraph.Record.IsClean (r : CallGraph.Record) : Prop where
  ownerId : IsNormal r.ownerId
  functionName : IsNormal r.functionName
  internal : ∀ t ∈ r.internal, IsNormal t
  external : ∀ t ∈ r.external, IsNormal t
  internal_eq : orderedSet r.internal = r.internal
  external_eq : orderedSet r.external = r.external

/-- An optional text is not one that a document takes for none. -/
def IsNormalOption (t? : Option String) : Prop :=
  ∀ t, t? = some t → IsNormal t ∧ t ≠ ""

/-- A document keeps the implementation record as it is. -/
structure Implementation.Record.IsClean (r : Implementation.Record) : Prop where
  entityId : IsNormal r.entityId
  name : IsNormal r.name
  trait : IsNormal r.trait
  type : IsNormal r.type
  memberIds : ∀ t ∈ r.memberIds, IsNormal t
  definitionId : IsNormalOption r.definitionId

/-- A document keeps the account field as it is. -/
structure Account.Field.IsClean (f : Account.Field) : Prop where
  name : IsNormal f.name
  wrapper : IsNormal f.wrapper
  inner : IsNormal f.inner
  lifetime : IsNormalOption f.lifetime
  seeds : ∀ t ∈ f.seeds, IsNormal t
  rentPayer : IsNormalOption f.rentPayer
  validations : ∀ t ∈ f.validations, IsNormal t

/-- A document keeps the accounts record as it is. -/
structure Account.Record.IsClean (r : Account.Record) : Prop where
  structId : IsNormal r.structId
  name : IsNormal r.name
  accounts : ∀ f ∈ r.accounts, f.IsClean

namespace Store

/-! ### Normal sections -/

section

variable {l : Layout} {s : Section} {key : String}

theorem isNormal_title (h : s.IsNormal l) :
  IsNormal s.title
  := by
  rw [Document.isNormal_iff]
  apply congrArg Section.title h.normal_eq

theorem isNormal_get (hl : l.WellFormed) (h : s.IsNormal l) {f : FieldSpec} (hf : f ∈ l.fields) :
  (s.get f.key).IsNormal f.type
  := by
  use h.fits f hf
  have hget := Document.get_map_fields hl (normalText s.title)
    (fun f => (s.get f.key).normal f.type) hf
  rw [← hget]
  change (s.normal l).get f.key = s.get f.key
  rw [h.normal_eq]

theorem isNormal_textOf (hl : l.WellFormed) (h : s.IsNormal l) (hf : ⟨key, .text⟩ ∈ l.fields) :
  IsNormal (textOf s key)
  := by
  have hv := isNormal_get hl h hf
  have heq := hv.normal_eq
  rw [textOf]
  cases hget : s.get key with
  | text t =>
    rw [hget] at heq
    rw [Document.isNormal_iff]
    simpa [Value.normal] using heq
  | _ =>
    have hfits := hv.fits
    rw [hget] at hfits
    cases hfits

theorem isNormal_of_mem_textsOf (hl : l.WellFormed) (h : s.IsNormal l)
    (hf : ⟨key, .textList⟩ ∈ l.fields) {t : String} (ht : t ∈ textsOf s key) :
  IsNormal t
  := by
  have heq := (isNormal_get hl h hf).normal_eq
  rw [textsOf] at ht
  split at ht
  next items hget =>
    rw [hget] at heq
    have hitems : items.map normalText = items := by simpa [Value.normal] using heq
    rw [← hitems] at ht
    obtain ⟨item, -, rfl⟩ := List.mem_map.1 ht
    apply Document.isNormal_normalText item
  · contradiction

theorem nonneg_of_rangeOf? (hl : l.WellFormed) (h : s.IsNormal l)
    (hf : ⟨key, .range⟩ ∈ l.fields) {a b : Int} (hr : rangeOf? s key = some (a, b)) :
  0 ≤ a
  := by
  have hfits := (isNormal_get hl h hf).fits
  rw [rangeOf?] at hr
  split at hr
  next first last hget =>
    cases hr
    rw [hget] at hfits
    cases hfits with
    | range _ _ hnonneg => exact hnonneg
  · contradiction

end

/-! ### Values that are kept -/

theorem isNormal_text {t : String} (h : IsNormal t) :
  (Value.text t).IsNormal .text
  := by
  use .text t
  simp [Value.normal, normalText_eq_self h]

theorem isNormal_texts {ts : List String} (h : ∀ t ∈ ts, IsNormal t) :
  (Value.texts ts).IsNormal .textList
  := by
  use .texts ts
  rw [Value.normal, map_normalText_eq_self h]

theorem isNormal_optionalValue {t? : Option String} (h : IsNormalOption t?) :
  (optionalValue t?).IsNormal .optionalText
  := by
  cases t? with
  | none => exact ⟨.noText, rfl⟩
  | some t =>
    obtain ⟨hnormal, hne⟩ := h t rfl
    use .optionalText t
    simp [optionalValue, Value.normal, normalText_eq_self hnormal, hne]

/-- A section that lists normal values for the fields of its layout is normal. -/
theorem isNormal_of_values_eq {l : Layout} (hl : l.WellFormed) {s : Section}
    (htitle : IsNormal s.title) (hvalues : s.values = l.fields.map fun f => (f.key, s.get f.key))
    (h : ∀ f ∈ l.fields, (s.get f.key).IsNormal f.type) :
  s.IsNormal l
  := by
  have hnormal := Document.isNormal_of_values hl htitle h
  rwa [← hvalues] at hnormal

/-- A record without subsections is normal if its section is. -/
theorem isNormal_of_main {schema : Schema} (hnested : schema.nested = none) {s : Section}
    (h : s.IsNormal schema.layout) :
  Document.Record.IsNormal schema ⟨s, []⟩
  := by
  constructor
  · rw [Document.Record.Fits, hnested]
    exact ⟨h.fits, rfl⟩
  · rw [Document.Record.normal, hnested, h.normal_eq]

theorem isNormal_main {schema : Schema} {r : Document.Record} (h : r.IsNormal schema) :
  r.main.IsNormal schema.layout
  := ⟨h.fits.1, congrArg Document.Record.main h.normal_eq⟩

/-! ### Entities -/

theorem isNormal_label (role : Role) :
  IsNormal role.label
  := by
  cases role <;> exact ⟨by simp [Document.Unbroken, Document.isBreak, Role.label], by decide⟩

/-- What a document says of the block around an entity. -/
def enclosingValue : Option (Int × Int) → Value
  | some (a, b) => .range a b
  | none => .absent

theorem get_enclosing (e : Entity) :
  (entityRecord e).main.get "enclosing_range" = enclosingValue e.enclosing
  := rfl

theorem isNormal_enclosing {e : Entity} (h : e.IsPlaced) :
  ((entityRecord e).main.get "enclosing_range").IsNormal .range
  := by
  rw [get_enclosing]
  cases henclosing : e.enclosing with
  | none => exact ⟨.noRange, rfl⟩
  | some r => exact ⟨.range r.1 r.2 (h r.1 r.2 henclosing), rfl⟩

theorem fits_entityRecord (kind : Kind) {e : Entity} (h : e.IsPlaced) :
  (entityRecord e).Fits (entitySchema kind)
  := by
  refine ⟨?_, rfl⟩
  intro f hf
  simp only [entitySchema, entityLayout, List.mem_cons, List.not_mem_nil, or_false] at hf
  obtain rfl | rfl | rfl | rfl | rfl | rfl := hf
  · exact .text e.id
  · exact .text e.role.label
  · exact .text e.path
  · exact .integer e.first
  · exact .integer e.last
  · exact (isNormal_enclosing h).fits

/-- A document keeps the record of an entity as that of the normal entity. -/
theorem normal_entityRecord (kind : Kind) (e : Entity) :
  (entityRecord e).normal (entitySchema kind) = entityRecord e.normal
  := by
  have hlabel := normalText_eq_self (isNormal_label e.role)
  cases henclosing : e.enclosing with
  | none =>
    simp [Document.Record.normal, Section.normal, entitySchema, entityLayout, entityRecord,
      Section.get, List.lookup_cons, Value.normal, Entity.normal, hlabel, henclosing]
  | some r =>
    simp [Document.Record.normal, Section.normal, entitySchema, entityLayout, entityRecord,
      Section.get, List.lookup_cons, Value.normal, Entity.normal, hlabel, henclosing]

theorem make_eq (e : Entity) :
  Entity.make e.role e.path e.name e.first e.last e.id e.enclosing = .ok e
  := by
  have hlines : 1 ≤ (e.first : Int) ∧ (e.first : Int) ≤ e.last := by
    have h₁ := e.one_le_first
    have h₂ := e.first_le_last
    omega
  rw [Entity.make, Entity.ofLines?, dif_pos hlines]
  rfl

theorem roleOfDatum_label (role : Role) :
  role.kind.roleOfDatum (.text role.label) = .ok role
  := by
  have hrole : ((Datum.text role.label).text?.bind role.kind.role?) = some role :=
    Kind.role?_kind_label role
  rw [Kind.roleOfDatum, hrole]

/-- The record of an entity describes the entity. -/
theorem entityOfRecord_entityRecord (e : Entity) :
  entityOfRecord e.kind (entityRecord e) = .ok e
  := by
  have hrole : e.kind.roleOfDatum (.text e.role.label) = .ok e.role := roleOfDatum_label e.role
  have henclosing : rangeOf? (entityRecord e).main "enclosing_range" = e.enclosing := by
    rw [rangeOf?, get_enclosing]
    cases e.enclosing <;> rfl
  rw [entityOfRecord]
  change (e.kind.roleOfDatum (.text e.role.label) >>= fun role =>
    Entity.make role e.path e.name e.first e.last e.id
      (rangeOf? (entityRecord e).main "enclosing_range")) = _
  rw [hrole, henclosing]
  apply make_eq e

/-- An entity that a normal record describes is of the kind of its document, and a document keeps
it as it is. -/
theorem isClean_of_entityOfRecord {kind : Kind} {r : Document.Record}
    (hr : r.IsNormal (entitySchema kind)) {e : Entity} (h : entityOfRecord kind r = .ok e) :
  e.IsClean ∧ e.kind = kind
  := by
  have hmain : r.main.IsNormal entityLayout := isNormal_main hr
  obtain ⟨role, hrole, hmake⟩ := bind_eq_ok_iff.1 h
  rw [Entity.make] at hmake
  split at hmake
  next e' hlines =>
    cases hmake
    rw [Entity.ofLines?] at hlines
    split at hlines
    · cases hlines
      constructor
      · constructor
        · apply isNormal_textOf wellFormed_entityLayout hmain (by simp [entityLayout])
        · apply isNormal_title hmain
        · apply isNormal_textOf wellFormed_entityLayout hmain (by simp [entityLayout])
        · intro first last hrange
          apply nonneg_of_rangeOf? wellFormed_entityLayout hmain (by simp [entityLayout]) hrange
      · rw [Kind.roleOfDatum] at hrole
        split at hrole
        next role' hrole' =>
          cases hrole
          apply Kind.kind_of_role? hrole'
        · contradiction
    · contradiction
  · contradiction

/-! ### Dependency records -/

theorem isNormal_dependencyRecord {r : CallGraph.Record} (h : r.IsClean) :
  (dependencyRecord r).IsNormal dependencySchema
  := by
  apply isNormal_of_main rfl
  apply isNormal_of_values_eq wellFormed_dependencySchema.layout h.functionName
  · rfl
  · intro f hf
    simp only [dependencySchema, List.mem_cons, List.not_mem_nil, or_false] at hf
    obtain rfl | rfl | rfl := hf
    · apply isNormal_text h.ownerId
    · apply isNormal_texts h.internal
    · apply isNormal_texts h.external

/-- The record of a dependency record describes it. -/
theorem dependencyOfRecord_dependencyRecord {r : CallGraph.Record} (h : r.IsClean) :
  dependencyOfRecord (dependencyRecord r) = r
  := by
  change CallGraph.Record.ofEdges r.ownerId r.functionName r.internal r.external = r
  rw [CallGraph.Record.ofEdges, h.internal_eq, h.external_eq]

theorem isClean_dependencyOfRecord {r : Document.Record} (h : r.IsNormal dependencySchema) :
  (dependencyOfRecord r).IsClean
  := by
  have hl := wellFormed_dependencySchema.layout
  have hmain := isNormal_main h
  constructor
  · apply isNormal_textOf hl hmain (by simp [dependencySchema])
  · apply isNormal_title hmain
  · intro t ht
    apply isNormal_of_mem_textsOf hl hmain (by simp [dependencySchema]) (mem_orderedSet.1 ht)
  · intro t ht
    apply isNormal_of_mem_textsOf hl hmain (by simp [dependencySchema]) (mem_orderedSet.1 ht)
  · apply orderedSet_orderedSet
  · apply orderedSet_orderedSet

/-! ### Implementation records -/

theorem isNormal_implementationRecord {r : Implementation.Record} (h : r.IsClean) :
  (implementationRecord r).IsNormal implementationSchema
  := by
  apply isNormal_of_main rfl
  apply isNormal_of_values_eq wellFormed_implementationSchema.layout h.name
  · rfl
  · intro f hf
    simp only [implementationSchema, List.mem_cons, List.not_mem_nil, or_false] at hf
    obtain rfl | rfl | rfl | rfl | rfl | rfl := hf
    · apply isNormal_text h.entityId
    · apply isNormal_text h.trait
    · apply isNormal_text h.type
    · exact ⟨.boolean _, rfl⟩
    · apply isNormal_optionalValue h.definitionId
    · apply isNormal_texts h.memberIds

/-- The record of an implementation record describes it. -/
theorem implementationOfRecord_implementationRecord (r : Implementation.Record) :
  implementationOfRecord (implementationRecord r) = r
  := by
  obtain ⟨entityId, name, trait, type, isExternal, memberIds, definitionId⟩ := r
  cases definitionId <;> rfl

/-! ### Accounts records -/

theorem isNormal_accountSection {f : Account.Field} (h : f.IsClean) :
  (accountSection f).IsNormal accountLayout
  := by
  apply isNormal_of_values_eq wellFormed_accountLayout h.name
  · rfl
  · intro spec hspec
    simp only [accountLayout, List.mem_cons, List.not_mem_nil, or_false] at hspec
    obtain rfl | rfl | rfl | rfl | rfl | rfl | rfl | rfl | rfl | rfl := hspec
    · apply isNormal_text h.wrapper
    · apply isNormal_text h.inner
    · apply isNormal_optionalValue h.lifetime
    · exact ⟨.boolean _, rfl⟩
    · exact ⟨.boolean _, rfl⟩
    · exact ⟨.boolean _, rfl⟩
    · exact ⟨.boolean _, rfl⟩
    · apply isNormal_texts h.seeds
    · apply isNormal_optionalValue h.rentPayer
    · apply isNormal_texts h.validations

theorem accountOfSection_accountSection (f : Account.Field) :
  accountOfSection (accountSection f) = f
  := by
  obtain ⟨name, wrapper, inner, lifetime, isInit, isMut, isClose, isDerived, seeds, rentPayer,
    validations⟩ := f
  cases lifetime <;> cases rentPayer <;> rfl

theorem fits_accountSection (f : Account.Field) :
  (accountSection f).Fits accountLayout
  := by
  have hoptional : ∀ t? : Option String, (optionalValue t?).Fits .optionalText := by
    rintro (_ | t)
    · exact .noText
    · exact .optionalText t
  intro spec hspec
  simp only [accountLayout, List.mem_cons, List.not_mem_nil, or_false] at hspec
  obtain rfl | rfl | rfl | rfl | rfl | rfl | rfl | rfl | rfl | rfl := hspec
  · exact .text f.wrapper
  · exact .text f.inner
  · exact hoptional f.lifetime
  · exact .boolean f.isDerived
  · exact .boolean f.isInit
  · exact .boolean f.isMut
  · exact .boolean f.isClose
  · exact .texts f.seeds
  · exact hoptional f.rentPayer
  · exact .texts f.validations

theorem fits_accountsRecord (r : Account.Record) :
  (accountsRecord r).Fits accountsSchema
  := by
  constructor
  · intro f hf
    rw [List.mem_singleton.1 hf]
    exact .text r.structId
  · intro c hc
    obtain ⟨f, -, rfl⟩ := List.mem_map.1 hc
    apply fits_accountSection f

theorem isNormal_accountsRecord {r : Account.Record} (h : r.IsClean) :
  (accountsRecord r).IsNormal accountsSchema
  := by
  have hmain : (accountsRecord r).main.IsNormal accountsSchema.layout := by
    apply isNormal_of_values_eq wellFormed_accountsSchema.layout h.name
    · rfl
    · intro f hf
      rw [List.mem_singleton.1 hf]
      apply isNormal_text h.structId
  have hchild : ∀ f ∈ r.accounts, (accountSection f).IsNormal accountLayout := by
    intro f hf
    apply isNormal_accountSection (h.accounts f hf)
  constructor
  · use hmain.fits
    intro c hc
    obtain ⟨f, hf, rfl⟩ := List.mem_map.1 hc
    exact (hchild f hf).fits
  · change (⟨(accountsRecord r).main.normal accountsSchema.layout,
      (r.accounts.map accountSection).map (·.normal accountLayout)⟩ : Document.Record) = _
    rw [hmain.normal_eq, List.map_map]
    congr 1
    apply List.map_congr_left
    intro f hf
    exact (hchild f hf).normal_eq

/-- The record of an accounts record describes it. -/
theorem accountsOfRecord_accountsRecord (r : Account.Record) :
  accountsOfRecord (accountsRecord r) = r
  := by
  obtain ⟨structId, name, accounts⟩ := r
  have haccounts : (accounts.map accountSection).map accountOfSection = accounts := by
    rw [List.map_map]
    calc accounts.map (accountOfSection ∘ accountSection)
        = accounts.map id := List.map_congr_left fun f _ => accountOfSection_accountSection f
      _ = accounts := List.map_id accounts
  change (⟨structId, name, (accounts.map accountSection).map accountOfSection⟩ : Account.Record)
    = ⟨structId, name, accounts⟩
  rw [haccounts]

end Store

end AnchorIndex

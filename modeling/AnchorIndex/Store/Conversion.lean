import AnchorIndex.Exchange
import AnchorIndex.Store.Layouts

/-!
# Entities and records in documents

What the store keeps is written into documents as sections, and read back from them. An entity
that is read has to have a role of the kind of its document, and lines.
-/

namespace AnchorIndex.Store

open Document (Section Value)

/-- A text that may be missing, as a value. -/
def optionalValue : Option String → Value
  | some s => .text s
  | none => .absent

/-- The text of a field, empty when it has none. -/
def textOf (s : Section) (key : String) : String :=
  match s.get key with
  | .text t => t
  | _ => ""

/-- The text of a field, if it has one. -/
def textOf? (s : Section) (key : String) : Option String :=
  match s.get key with
  | .text t => some t
  | _ => none

/-- The number of a field. -/
def integerOf (s : Section) (key : String) : Int :=
  match s.get key with
  | .integer n => n
  | _ => 0

/-- The truth of a field. -/
def booleanOf (s : Section) (key : String) : Bool :=
  match s.get key with
  | .boolean b => b
  | _ => false

/-- The texts of a list. -/
def textsOf (s : Section) (key : String) : List String :=
  match s.get key with
  | .texts ts => ts
  | _ => []

/-- The range of a field, if it has one. -/
def rangeOf? (s : Section) (key : String) : Option (Int × Int) :=
  match s.get key with
  | .range a b => some (a, b)
  | _ => none

/-! ### Entities -/

/-- An entity as a record of its document. -/
def entityRecord (e : Entity) : Document.Record where
  main :=
    { title := e.name
      values :=
        [("id", .text e.id),
          ("type", .text e.role.label),
          ("path", .text e.path),
          ("start_line_index", .integer e.first),
          ("end_line_index", .integer e.last),
          ("enclosing_range",
            match e.enclosing with
            | some (a, b) => .range a b
            | none => .absent)] }
  children := []

/-- The entity of a kind that a record describes. -/
def entityOfRecord (kind : Kind) (r : Document.Record) : Except Failure Entity := do
  let role ← kind.roleOfDatum (.text (textOf r.main "type"))
  Entity.make role (textOf r.main "path") r.main.title (integerOf r.main "start_line_index")
    (integerOf r.main "end_line_index") (textOf r.main "id") (rangeOf? r.main "enclosing_range")

/-- The entities that the records of a document describe, or the first record that describes
none. -/
def entitiesOfRecords (kind : Kind) (rs : List Document.Record) :
    Except Document.Fault (List Entity) :=
  rs.mapM fun r =>
    match entityOfRecord kind r with
    | .ok e => .ok e
    | .error f =>
      .error
        { document := entityDocument kind
          sectionText := Document.encodeRecord (entitySchema kind) r
          flaw := .invalidValue "type" (textOf r.main "type") f.message }

/-! ### Records -/

/-- A dependency record as a record of its document. -/
def dependencyRecord (r : CallGraph.Record) : Document.Record where
  main :=
    { title := r.functionName
      values :=
        [("owner_id", .text r.ownerId),
          ("internal_dependencies", .texts r.internal),
          ("external_dependencies", .texts r.external)] }
  children := []

/-- The dependency record that a record of the document describes. -/
def dependencyOfRecord (r : Document.Record) : CallGraph.Record :=
  .ofEdges (textOf r.main "owner_id") r.main.title (textsOf r.main "internal_dependencies")
    (textsOf r.main "external_dependencies")

/-- An implementation record as a record of its document. -/
def implementationRecord (r : Implementation.Record) : Document.Record where
  main :=
    { title := r.name
      values :=
        [("trait_entity_id", .text r.entityId),
          ("impl_from", .text r.trait),
          ("impl_to", .text r.type),
          ("external", .boolean r.isExternal),
          ("trait_definition_id", optionalValue r.definitionId),
          ("member_function_ids", .texts r.memberIds)] }
  children := []

/-- The implementation record that a record of the document describes. -/
def implementationOfRecord (r : Document.Record) : Implementation.Record where
  entityId := textOf r.main "trait_entity_id"
  name := r.main.title
  trait := textOf r.main "impl_from"
  type := textOf r.main "impl_to"
  isExternal := booleanOf r.main "external"
  memberIds := textsOf r.main "member_function_ids"
  definitionId := textOf? r.main "trait_definition_id"

/-- An account field as a section. -/
def accountSection (f : Account.Field) : Section where
  title := f.name
  values :=
    [("wrapper_type", .text f.wrapper),
      ("inner_type", .text f.inner),
      ("lifetime_marker", optionalValue f.lifetime),
      ("is_pda", .boolean f.isDerived),
      ("is_init", .boolean f.isInit),
      ("is_mut", .boolean f.isMut),
      ("is_close", .boolean f.isClose),
      ("seeds", .texts f.seeds),
      ("rent_payer", optionalValue f.rentPayer),
      ("validations", .texts f.validations)]

/-- The account field that a section describes. -/
def accountOfSection (s : Section) : Account.Field where
  name := s.title
  wrapper := textOf s "wrapper_type"
  inner := textOf s "inner_type"
  lifetime := textOf? s "lifetime_marker"
  isInit := booleanOf s "is_init"
  isMut := booleanOf s "is_mut"
  isClose := booleanOf s "is_close"
  isDerived := booleanOf s "is_pda"
  seeds := textsOf s "seeds"
  rentPayer := textOf? s "rent_payer"
  validations := textsOf s "validations"

/-- An accounts record as a record of its document. -/
def accountsRecord (r : Account.Record) : Document.Record where
  main := { title := r.name, values := [("struct_entity_id", .text r.structId)] }
  children := r.accounts.map accountSection

/-- The accounts record that a record of the document describes. -/
def accountsOfRecord (r : Document.Record) : Account.Record where
  structId := textOf r.main "struct_entity_id"
  name := r.main.title
  accounts := r.children.map accountOfSection

end AnchorIndex.Store

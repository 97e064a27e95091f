import AnchorIndex.Account.Field
import AnchorIndex.CallGraph.Calls
import AnchorIndex.Entity.Basic
import AnchorIndex.Fault
import AnchorIndex.Implementation.Record

/-!
# Values of the index as data

Entities and records are handed to other programs as tables, and taken from tables. An entity is
taken only if its kind and role exist, belong together, and its lines are lines; `Entity.ofDatum`
reports the first of these that fails.
-/

namespace AnchorIndex

/-! ### Parts of data -/

/-- A text or nothing as a datum. -/
def Datum.ofText? : Option String → Datum
  | some s => .text s
  | none => .null

/-- A list of texts as a datum. -/
def Datum.ofTexts (xs : List String) : Datum :=
  .list (xs.map .text)

/-- The entry of a table as a text, empty when it is none. -/
def Datum.textAt (d : Datum) (key : String) : String :=
  ((d.getD key).text?).getD ""

/-- The entry of a table as a number, zero when it is none. -/
def Datum.intAt (d : Datum) (key : String) : Int :=
  ((d.getD key).int?).getD 0

/-- The entry of a table as a list of texts. -/
def Datum.textsAt (d : Datum) (key : String) : List String :=
  (d.getD key).items.filterMap (·.text?)

/-- The entry of a table counts as true. -/
def Datum.flagAt (d : Datum) (key : String) : Bool :=
  !(d.getD key).isEmpty

/-! ### Kinds and roles -/

/-- The name of the set of roles of a kind. -/
def Kind.roleSet (k : Kind) : String :=
  k.label ++ "Subtype"

/-- The kind that a datum names, or a report that it names none. -/
def Kind.ofDatum (d : Datum) : Except Failure Kind :=
  match d.text?.bind Kind.ofLabel? with
  | some k => .ok k
  | none => .error (.argument (notMember d "EntityKind"))

/-- The role of a kind that a datum names, or a report that it names none. -/
def Kind.roleOfDatum (k : Kind) (d : Datum) : Except Failure Role :=
  match d.text?.bind k.role? with
  | some r => .ok r
  | none => .error (.argument (notMember d k.roleSet))

/-- The name of a role in a report. -/
def Role.tag : Role → String
  | .entrypoint => "ENTRYPOINT"
  | .handler => "HANDLER"
  | .contextAccounts => "CONTEXT_ACCOUNTS"
  | .accountData => "SOLANA_ACCOUNT"
  | .traitDefinition => "DEFINITION"
  | .traitImplementation => "TRAIT_IMPL"
  | .inherentImplementation => "INHERENT"
  | .errorCodes => "ERROR_CODE"
  | .otherFunction | .otherStruct | .otherEnumeration => "OTHER"

/-- What is said of a role that belongs to another kind. -/
def foreignRole (r : Role) (k : Kind) : String :=
  "<" ++ r.kind.roleSet ++ "." ++ r.tag ++ ": " ++ Text.quote r.label ++ "> is not a " ++
    k.label ++ " subtype"

/-- What is said of lines that are none. -/
def badLines (first last : Int) : String :=
  "Invalid line range " ++ toString first ++ "-" ++ toString last

/-! ### Entities -/

/-- The entity with the given parts, or a report that the lines are none. -/
def Entity.make (role : Role) (path name : String) (first last : Int) (id : String)
    (enclosing : Option (Int × Int)) : Except Failure Entity :=
  match Entity.ofLines? role path name first last id enclosing with
  | some e => .ok e
  | none => .error (.argument (badLines first last))

/-- The range that a datum gives, if it is a pair. -/
def rangeOfDatum? : Datum → Option (Int × Int)
  | .list (.int a :: .int b :: _) => some (a, b)
  | _ => none

/-- A range or nothing as a datum. -/
def rangeToDatum : Option (Int × Int) → Datum
  | some (a, b) => .list [.int a, .int b]
  | none => .null

/-- The entity that a table describes. -/
def Entity.ofDatum (d : Datum) : Except Failure Entity := do
  let kind ← Kind.ofDatum (d.getD "kind")
  let roleKind ←
    match d.get? "subtype_kind" with
    | some (.text s) => Kind.ofDatum (.text s)
    | _ => pure kind
  let role ← roleKind.roleOfDatum (d.getD "subtype")
  if role.kind = kind then
    Entity.make role (d.textAt "path") (d.textAt "name") (d.intAt "start_line")
      (d.intAt "end_line") (d.textAt "id") (rangeOfDatum? (d.getD "enclosing_range"))
  else .error (.argument (foreignRole role kind))

/-- An entity as a table. -/
def Entity.toDatum (e : Entity) : Datum :=
  .table
    [("kind", .text e.kind.label),
      ("subtype", .text e.role.label),
      ("path", .text e.path),
      ("name", .text e.name),
      ("start_line", .int e.first),
      ("end_line", .int e.last),
      ("id", .text e.id),
      ("enclosing_range", rangeToDatum e.enclosing)]

/-! ### Records -/

/-- A dependency record as a table. -/
def CallGraph.Record.toDatum (r : CallGraph.Record) : Datum :=
  .table
    [("owner_id", .text r.ownerId),
      ("function_name", .text r.functionName),
      ("internal_dependencies", .ofTexts r.internal),
      ("external_dependencies", .ofTexts r.external)]

/-- The dependency record that a table describes. -/
def CallGraph.Record.ofDatum (d : Datum) : CallGraph.Record :=
  .ofEdges (d.textAt "owner_id") (d.textAt "function_name") (d.textsAt "internal_dependencies")
    (d.textsAt "external_dependencies")

/-- An implementation record as a table. -/
def Implementation.Record.toDatum (r : Implementation.Record) : Datum :=
  .table
    [("trait_entity_id", .text r.entityId),
      ("name", .text r.name),
      ("impl_from", .text r.trait),
      ("impl_to", .text r.type),
      ("external", .bool r.isExternal),
      ("member_function_ids", .ofTexts r.memberIds),
      ("trait_definition_id", .ofText? r.definitionId)]

/-- The implementation record that a table describes. -/
def Implementation.Record.ofDatum (d : Datum) : Implementation.Record where
  entityId := d.textAt "trait_entity_id"
  name := d.textAt "name"
  trait := d.textAt "impl_from"
  type := d.textAt "impl_to"
  isExternal := d.flagAt "external"
  memberIds := d.textsAt "member_function_ids"
  definitionId := (d.getD "trait_definition_id").text?

/-- An account field as a table. -/
def Account.Field.toDatum (f : Account.Field) : Datum :=
  .table
    [("account_name", .text f.name),
      ("wrapper_type", .text f.wrapper),
      ("inner_type", .text f.inner),
      ("lifetime_marker", .ofText? f.lifetime),
      ("is_pda", .bool f.isDerived),
      ("is_init", .bool f.isInit),
      ("is_mut", .bool f.isMut),
      ("is_close", .bool f.isClose),
      ("seeds", .ofTexts f.seeds),
      ("rent_payer", .ofText? f.rentPayer),
      ("validations", .ofTexts f.validations)]

/-- The account field that a table describes. -/
def Account.Field.ofDatum (d : Datum) : Account.Field where
  name := d.textAt "account_name"
  wrapper := d.textAt "wrapper_type"
  inner := d.textAt "inner_type"
  lifetime := (d.getD "lifetime_marker").text?
  isInit := d.flagAt "is_init"
  isMut := d.flagAt "is_mut"
  isClose := d.flagAt "is_close"
  isDerived := d.flagAt "is_pda"
  seeds := d.textsAt "seeds"
  rentPayer := (d.getD "rent_payer").text?
  validations := d.textsAt "validations"

/-- An accounts record as a table. -/
def Account.Record.toDatum (r : Account.Record) : Datum :=
  .table
    [("struct_entity_id", .text r.structId),
      ("name", .text r.name),
      ("accounts", .list (r.accounts.map (·.toDatum)))]

/-- The accounts record that a table describes. -/
def Account.Record.ofDatum (d : Datum) : Account.Record where
  structId := d.textAt "struct_entity_id"
  name := d.textAt "name"
  accounts := (d.getD "accounts").items.map .ofDatum

/-- An implementation record is built only for an implementation. -/
def Implementation.Record.buildChecked (block : Entity) (functions : List Entity)
    (definitions : List (String × Entity)) : Except Failure Implementation.Record :=
  if block.kind = .implementation then .ok (.build block functions definitions)
  else
    .error (.argument (block.name ++ " is a " ++ block.kind.label ++ ", not an implementation"))

end AnchorIndex

import AnchorIndex.Entity.Basic
import AnchorIndex.Document.Schema

/-!
# The documents of the store

The store keeps one document for each kind of entity and one for each kind of record. Their
schemas say under which keys values stand, and in which order.
-/

namespace AnchorIndex.Store

open Document (FieldSpec Layout Schema)

/-- The name of the document of a kind. -/
def entityDocument : Kind → String
  | .function => "functions.md"
  | .struct => "structs.md"
  | .trait => "traits.md"
  | .implementation => "trait_implementations.md"
  | .enumeration => "enums.md"

/-- The layout of entities. -/
def entityLayout : Layout where
  titleKey := "name"
  fields :=
    [⟨"id", .text⟩,
      ⟨"type", .text⟩,
      ⟨"path", .text⟩,
      ⟨"start_line_index", .integer⟩,
      ⟨"end_line_index", .integer⟩,
      ⟨"enclosing_range", .range⟩]

/-- The schema of the document of a kind. -/
def entitySchema (kind : Kind) : Schema where
  document := entityDocument kind
  layout := entityLayout
  nested := none

/-- The schema of dependency records. -/
def dependencySchema : Schema where
  document := "function_dependencies.md"
  layout :=
    { titleKey := "function_name"
      fields :=
        [⟨"owner_id", .text⟩,
          ⟨"internal_dependencies", .textList⟩,
          ⟨"external_dependencies", .textList⟩] }
  nested := none

/-- The schema of implementation records. -/
def implementationSchema : Schema where
  document := "trait_implementation_records.md"
  layout :=
    { titleKey := "name"
      fields :=
        [⟨"trait_entity_id", .text⟩,
          ⟨"impl_from", .text⟩,
          ⟨"impl_to", .text⟩,
          ⟨"external", .boolean⟩,
          ⟨"trait_definition_id", .optionalText⟩,
          ⟨"member_function_ids", .textList⟩] }
  nested := none

/-- The layout of the accounts in an accounts record. -/
def accountLayout : Layout where
  titleKey := "account_name"
  fields :=
    [⟨"wrapper_type", .text⟩,
      ⟨"inner_type", .text⟩,
      ⟨"lifetime_marker", .optionalText⟩,
      ⟨"is_pda", .boolean⟩,
      ⟨"is_init", .boolean⟩,
      ⟨"is_mut", .boolean⟩,
      ⟨"is_close", .boolean⟩,
      ⟨"seeds", .textList⟩,
      ⟨"rent_payer", .optionalText⟩,
      ⟨"validations", .textList⟩]

/-- The schema of accounts records. -/
def accountsSchema : Schema where
  document := "context_accounts.md"
  layout :=
    { titleKey := "name"
      fields := [⟨"struct_entity_id", .text⟩] }
  nested := some ("accounts", accountLayout)

/-- The schema with a name: that of a kind, or of a kind of records. -/
def schemaNamed? (name : String) : Option Schema :=
  if name = "Dependency" then some dependencySchema
  else if name = "TraitImplementationRecord" then some implementationSchema
  else if name = "ContextAccounts" then some accountsSchema
  else (Kind.ofLabel? name).map entitySchema

end AnchorIndex.Store

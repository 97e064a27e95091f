import AnchorIndex.Session.Entrypoint
import AnchorIndex.Session.Scan
import AnchorIndex.Terminal.Table
import AnchorIndex.Terminal.Wording

/-!
# Reports of commands

What commands find is reported as a table or in lines for readers, or as JSON for programs.
-/

namespace AnchorIndex.CommandLine

open Screen (status)
open Terminal (Column Table counted)

/-! ### Scans -/

/-- The number of constructs of each kind, and the number of records. -/
def summaryTable (s : Session.Summary) : Table where
  columns := [⟨"kind", false⟩, ⟨"count", true⟩]
  hasTitles := false
  rows :=
    (s.byKind.map fun (k, n) => [k.label, toString n]) ++
      [["impl records", toString s.implementations],
        ["account structs", toString s.accountStructs]]

/-- Shows lines of status one after another. -/
def statusLines (style : Screen.Style) : List String → Screen.Action Unit
  | [] => return ()
  | line :: rest => do
    status style 2 line
    statusLines style rest

/-- Shows what a scan found. -/
def showSummary (s : Session.Summary) : Screen.Action Unit := do
  (summaryTable s).print
  match s.libPath with
  | some path =>
    status .info 0 (counted s.entrypoints.length "entrypoint" none ++ " in " ++ path)
  | none => status .warning 0 "No #[program] file detected; entrypoints not classified"
  statusLines .warning (s.skipped.map fun path => "Skipped (too large): " ++ path)
  statusLines .error s.errors

/-! ### Entities -/

/-- The path and the lines of an entity. -/
def linesOf (e : Entity) : String :=
  e.path ++ ":" ++ toString e.first ++ "-" ++ toString e.last

/-- The path and the first line of an entity. -/
def startOf (e : Entity) : String :=
  e.path ++ ":" ++ toString e.first

/-- A table of entities. -/
def entityTable (es : List Entity) : Table where
  columns := [⟨"id", false⟩, ⟨"name", false⟩, ⟨"subtype", false⟩, ⟨"location", false⟩]
  hasTitles := true
  rows := es.map fun e => [e.id, e.name, e.role.label, linesOf e]

/-- Answers with JSON. -/
def answerJson (d : Datum) : Screen.Action Unit :=
  Screen.answer (Json.render .block d)

/-- Answers with several lines. -/
def answerLines : List String → Screen.Action Unit
  | [] => return ()
  | line :: rest => do
    Screen.answer line
    answerLines rest

/-- Shows an entity with its source text. -/
def showEntity (e : Entity) (content : String) : Screen.Action Unit :=
  answerLines
    [e.kind.label ++ " " ++ e.name ++ " [" ++ e.role.label ++ "]", linesOf e, "", content]

/-- An entity with its source text as a table. -/
def entityWithContent (e : Entity) (content : String) : Datum :=
  .table (e.toDatum.entries ++ [("content", .text content)])

/-! ### Dependencies -/

/-- A dependency record whose internal dependencies are looked up. -/
structure DependencyView where
  record : CallGraph.Record
  internal : List Entity

/-- The dependencies of a function as a table. -/
def DependencyView.toDatum (v : DependencyView) : Datum :=
  .table
    [("owner_id", .text v.record.ownerId),
      ("function_name", .text v.record.functionName),
      ("internal_dependencies", .list (v.internal.map fun e =>
        .table
          [("id", .text e.id), ("name", .text e.name), ("path", .text e.path),
            ("start_line", .int e.first)])),
      ("external_dependencies", .ofTexts v.record.external)]

/-- The dependencies of a function in lines. -/
def DependencyView.lines (v : DependencyView) : List String :=
  [v.record.functionName ++ " (" ++ v.record.ownerId ++ ")"] ++
    (v.internal.map fun e => "  -> " ++ e.name ++ "  " ++ startOf e) ++
    v.record.external.map fun name => "  -> " ++ name ++ "  (external)"

/-! ### Entrypoints -/

/-- The words for what an account field is. -/
def flagsOf (f : Account.Field) : List String :=
  (if f.isInit then ["init"] else []) ++ (if f.isMut then ["mut"] else []) ++
    (if f.isDerived then ["pda"] else []) ++ (if f.isClose then ["close"] else [])

/-- A table of account fields. -/
def accountsTable (r : Account.Record) : Table where
  columns := [⟨"account", false⟩, ⟨"type", false⟩, ⟨"flags", false⟩, ⟨"constraints", false⟩]
  hasTitles := true
  rows := r.accounts.map fun f =>
    [f.name, f.wrapper ++ "<" ++ f.inner ++ ">", ",".intercalate (flagsOf f),
      "; ".intercalate f.validations]

/-- Shows the view of an entrypoint. -/
def showEntrypoint (v : Session.EntrypointView) : Screen.Action Unit := do
  let handler :=
    match v.handler with
    | some h => h.name ++ "  " ++ startOf h
    | none => "(not found)"
  answerLines
    ["entrypoint  " ++ startOf v.entrypoint,
      "handler     " ++ handler,
      "accounts    " ++ v.context.name ++ "  " ++ startOf v.context]
  match v.accounts with
  | some r => (accountsTable r).print
  | none => return ()

end AnchorIndex.CommandLine

import AnchorIndex.Entity.Basic
import AnchorIndex.Implementation.Record
import AnchorIndex.Source.Entrypoint
import AnchorIndex.Source.Split

/-!
# Roles of scanned constructs

The role of a construct within its kind depends on its text, on the attributes above it and on
what is known about the program (`Program`): its library file, its entrypoints and the names of
their accounts structs. `roleOf` is the role of a construct.
-/

namespace AnchorIndex

open Source (Entrypoint Range)

/-- What classification knows about a program. -/
structure Program where
  libPath : Option String
  entrypoints : List Entrypoint

namespace Program

/-- A program of which nothing is known. -/
def unknown : Program := ⟨none, []⟩

/-- The names of the accounts structs that entrypoints take. -/
def contextNames (p : Program) : List String :=
  p.entrypoints.filterMap fun e => e.context.filter (· != "")

/-- A function of a file is an entrypoint. -/
def isEntrypoint (p : Program) (path : String) (found : Range) : Bool :=
  p.libPath == some path &&
    p.entrypoints.any fun e => e.name == found.name && e.first == found.first

end Program

/-- Attributes of a construct are looked for on this many lines above it. -/
def attributeLines : Nat := 3

/-- The lines above a construct as one text. -/
def linesAbove (lines : List (List Char)) (first : Nat) : List Char :=
  let start := first - 1 - attributeLines
  Text.unlines ((lines.drop start).take (first - 1 - start))

/-- The role of a function. -/
def functionRole (path : String) (found : Range) (program : Program) : Role :=
  if program.isEntrypoint path found then .entrypoint
  else
    match Source.Function.parameters found.content.toList with
    | [] => .otherFunction
    | p :: _ =>
      match Source.contextName? p with
      | some name =>
        if Text.occurs "Context<".toList p &&
            program.contextNames.contains (String.ofList name) then .handler
        else .otherFunction
      | none => .otherFunction

/-- Texts that mark a struct as one that lists accounts. -/
def accountMarkers : List (List Char) :=
  ["Signer<".toList, "AccountLoader<".toList, "UncheckedAccount<".toList, "#[account(".toList]

/-- The role of a struct. Attributes above it decide before its name and its text. -/
def structRole (found : Range) (lines : List (List Char)) (program : Program) : Role :=
  let above := linesAbove lines found.first
  if Text.occurs "#[account".toList above then .accountData
  else if Text.occurs "derive(Accounts)".toList (above.filter (· != ' ')) then .contextAccounts
  else if program.contextNames.contains found.name then .contextAccounts
  else if accountMarkers.any (Text.occurs · found.content.toList) then .contextAccounts
  else .otherStruct

/-- The role of an implementation with this header. -/
def implementationRole (header : String) : Role :=
  if (Implementation.splitHeader header).1 = "" then .inherentImplementation
  else .traitImplementation

/-- The role of an enumeration. -/
def enumerationRole (found : Range) (lines : List (List Char)) : Role :=
  if Text.occurs "#[error_code".toList (linesAbove lines found.first) then .errorCodes
  else .otherEnumeration

/-- The role of a construct of a kind in a file with the given lines. -/
def roleOf (kind : Kind) (path : String) (found : Range) (lines : List (List Char))
    (program : Program) : Role :=
  match kind with
  | .function => functionRole path found program
  | .struct => structRole found lines program
  | .trait => .traitDefinition
  | .implementation => implementationRole found.name
  | .enumeration => enumerationRole found lines

/-- The role of a construct belongs to its kind. -/
theorem kind_roleOf (kind : Kind) (path : String) (found : Range) (lines : List (List Char))
    (program : Program) :
  (roleOf kind path found lines program).kind = kind
  := by
  cases kind
  · simp only [roleOf, functionRole]
    repeat' split
    all_goals rfl
  · simp only [roleOf, structRole]
    repeat' split
    all_goals rfl
  · rfl
  · simp only [roleOf, implementationRole]
    split <;> rfl
  · simp only [roleOf, enumerationRole]
    split <;> rfl

end AnchorIndex

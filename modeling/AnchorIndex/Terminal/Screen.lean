import AnchorIndex.Log.Journal
import AnchorIndex.Terminal.Markup

/-!
# The screen

A program shows what it does on the error stream and puts its answers on the output stream
(`Screen`). A line of status has a mark for its style and is logged as well; a task is announced,
and ends with a line that tells whether it failed.
-/

namespace AnchorIndex

/-- What was written to the output stream and to the error stream, and the events that were
logged, the latest first. -/
structure Screen where
  output : String
  errors : String
  logged : List Event

namespace Screen

/-- Nothing is written yet. -/
def blank : Screen := ⟨"", "", []⟩

/-- An operation on the screen. -/
abbrev Action (α : Type) : Type := ExceptT Failure (StateM Screen) α

/-- How a line of status is marked. -/
inductive Style where
  | success
  | error
  | warning
  | info
  | plain
  deriving DecidableEq, Repr

namespace Style

/-- The name of a style. -/
def label : Style → String
  | success => "success"
  | error => "error"
  | warning => "warning"
  | info => "info"
  | plain => "none"

/-- The style with a name; other names mark nothing. -/
def ofLabel (s : String) : Style :=
  match s with
  | "success" => success
  | "error" => error
  | "warning" => warning
  | "info" => info
  | _ => plain

/-- The mark in front of a line. -/
def mark : Style → String
  | success => "[green]✓[/green] "
  | error => "[red]✗[/red] "
  | warning => "[yellow]![/yellow] "
  | info => "  "
  | plain => ""

end Style

/-- Logs an event. -/
def log (level : Level) (name : String) (fields : List (String × Datum)) : Action Unit :=
  modify fun s => { s with logged := ⟨level, name, none, fields⟩ :: s.logged }

/-- Puts a line on the output stream. -/
def answer (line : String) : Action Unit :=
  modify fun s => { s with output := s.output ++ line ++ "\n" }

/-- Puts a line on the error stream, with its tags taken out. -/
def print (message : String) : Action Unit :=
  match Terminal.shown message with
  | .ok line => modify fun s => { s with errors := s.errors ++ line ++ "\n" }
  | .error f => throw f

/-- Columns to the right. -/
def indented (columns : Nat) (message : String) : String :=
  String.ofList (List.replicate columns ' ') ++ message

/-- Shows a line of status. -/
def status (style : Style) (indent : Nat) (message : String) : Action Unit := do
  print (indented indent (style.mark ++ message))
  log .debug "status" [("message", .text message), ("style", .text style.label)]

/-- Tells what is going on until it is done. -/
def spinner (indent : Nat) (message : String) : Action Unit :=
  print (indented indent message ++ "...")

/-! ### Tasks -/

/-- The time that a task takes, as it is shown. -/
def duration : String := "0.0s"

/-- Announces a task. -/
def taskStarts (name : String) : Action Unit :=
  status .plain 0 (name ++ "...")

/-- Reports that a task is done. -/
def taskDone (name : String) : Action Unit := do
  status .success 0 (name ++ " (" ++ duration ++ ")")
  log .debug "task_done" [("task", .text name)]

/-- Reports that a task failed. -/
def taskFailed (name reason : String) : Action Unit := do
  status .error 0 (name ++ " failed: " ++ reason)
  log .error "task_failed" [("task", .text name), ("error", .text reason)]

/-- Carries out a task between its announcement and its report. -/
def task {α : Type} (name : String) (body : Action α) : Action α := do
  taskStarts name
  let result ←
    tryCatch body fun f => do
      taskFailed name f.message
      throw f
  taskDone name
  return result

/-! ### Progress -/

/-- Logs an event of a loop, if it has a description and items. -/
def progress (name : String) (description : Option String) (total : Option Int) : Action Unit :=
  match description.filter (· != ""), total.filter (· != 0) with
  | some d, some n => log .debug name [("desc", .text d), ("total", .int n)]
  | _, _ => return ()

/-- A loop starts. -/
def progressStarts : Option String → Option Int → Action Unit :=
  progress "progress_start"

/-- A loop is done. -/
def progressDone : Option String → Option Int → Action Unit :=
  progress "progress_done"

end Screen

end AnchorIndex

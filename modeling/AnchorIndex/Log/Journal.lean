import AnchorIndex.Datum.Json
import AnchorIndex.Settings.Model
import AnchorIndex.Fault

/-!
# The journal

A logged event has a level, a name and fields, and may name the part of the program that it comes
from. It is written as one line: as JSON, or in a form for readers where the fields come in the
order of their keys and traces stand on lines of their own.

The journal writes events to the outputs that the settings name. An event is written to an output
when it is as important as the whole log and that output ask for (`LogOutput.takes`). While the
terminal shows something that moves, outputs to a stream of it keep silent. Without any output,
warnings still reach the error stream.
-/

namespace AnchorIndex

/-! ### Events -/

/-- The name of a level in a line. -/
def Level.word : Level → String
  | debug => "debug"
  | info => "info"
  | warning => "warning"
  | error => "error"
  | critical => "critical"

/-- The level with a name in a line. -/
def Level.ofWord? (s : String) : Option Level :=
  all.find? fun l => l.word == s

/-- What is logged at once. -/
structure Event where
  level : Level
  name : String
  logger : Option String
  fields : List (String × Datum)

namespace Event

/-- The key of the logger. -/
def loggerKey : String := "logger"

/-- The key of another name of the logger, which readers see too. -/
def loggerNameKey : String := "logger_name"

/-- The key of the name of an event. -/
def nameKey : String := "event"

/-- The key of the level. -/
def levelKey : String := "level"

/-- The key of the time. -/
def timeKey : String := "timestamp"

/-- The key of the run. -/
def runKey : String := "run_id"

/-- The key of the calls that led to an event. -/
def stackKey : String := "stack"

/-- The key of the trace of an exception. -/
def exceptionKey : String := "exception"

/-- The key of an exception that is not yet a trace. -/
def pendingKey : String := "exc_info"

/-- Keys by which events are marked on their way. They are written nowhere. -/
def markKeys : List String := ["_record", "_from_structlog"]

/-- Keys that no field has. -/
def reservedKeys : List String := ["self", nameKey]

/-- The first key of a field that no field has. -/
def reserved? (e : Event) : Option String :=
  (e.fields.map (·.1)).find? fun key => reservedKeys.contains key

/-- All that is known of an event: the logger, the fields, the name, the level and the time of the
event, and the run it belongs to. A field with the key of a later entry keeps its place. -/
def allEntries (e : Event) (time : String) (run : Option String) : List (String × Datum) :=
  let named := (e.logger.filter (· != "")).toList.map fun l => (loggerKey, Datum.text l)
  let last :=
    [(nameKey, Datum.text e.name), (levelKey, .text e.level.word), (timeKey, .text time)] ++
      run.toList.map fun r => (runKey, Datum.text r)
  mergeRepeated (named ++ e.fields ++ last)

/-- The entries of a line. -/
def entries (e : Event) (time : String) (run : Option String) : List (String × Datum) :=
  (e.allEntries time run).filter fun (key, _) => !markKeys.contains key

/-- The event as it is written when no output is set up: all that is known of it. -/
def bareLine (e : Event) (time : String) (run : Option String) : String :=
  (Datum.table (e.allEntries time run)).quoted

/-- The event as a line of JSON. -/
def jsonLine (e : Event) (time : String) (run : Option String) : String :=
  Json.render .line (.table (e.entries time run))

/-- A text that stands bare in a line for readers has none of these characters. -/
def needsQuotes (s : String) : Bool :=
  s.toList.any fun c => " \t=\r\n\"'".toList.contains c

/-- The value of a field in a line for readers. -/
def shownValue : Datum → String
  | .text s => if needsQuotes s then Text.quote s else s
  | d => d.quoted

/-- The line between calls and a trace. -/
def separator : String :=
  "".pushn '=' 79

/-- The traces of an event with some entries, each on lines of its own. -/
def traces (es : List (String × Datum)) : String :=
  let textAt (key : String) : Option String := (es.lookup key).bind (·.text?)
  let stack := textAt stackKey
  let trace := textAt exceptionKey
  let isPending := (es.lookup pendingKey).any fun d => !d.isEmpty
  let between := stack.isSome && (isPending || trace.isSome)
  let stackLines := stack.toList.map ("\n" ++ ·)
  let traceLines := trace.toList.map ("\n" ++ ·)
  String.join (stackLines ++ (if between then ["\n\n", separator, "\n"] else []) ++ traceLines)

/-- Keys whose entries have places of their own in a line for readers. -/
def placedKeys : List String :=
  [timeKey, levelKey, nameKey, loggerKey, loggerNameKey, stackKey, exceptionKey, pendingKey]

/-- The event as a line for readers. -/
def consoleLine (e : Event) (time : String) (run : Option String) : String :=
  let es := e.entries time run
  let loggers := [loggerKey, loggerNameKey].filterMap fun key =>
    (es.lookup key).map fun d => "[" ++ d.display ++ "]"
  let fields := (es.filter fun (key, _) => !placedKeys.contains key).mergeSort fun a b => a.1 ≤ b.1
  let parts :=
    [time, "[" ++ e.level.word ++ "]", e.name] ++ loggers ++
      fields.map fun (key, d) => key ++ "=" ++ shownValue d
  let line := " ".intercalate (parts.filter (· != ""))
  String.ofList (Text.stripLast ' ' line.toList) ++ traces es

/-- The event as a line of a format. -/
def line (e : Event) (format : LogFormat) (time : String) (run : Option String) : String :=
  match format with
  | .json => e.jsonLine time run
  | .console => e.consoleLine time run

end Event

/-! ### Outputs -/

/-- The output is a stream of the terminal. -/
def LogOutput.isStream (o : LogOutput) : Bool :=
  o.destination == "stderr" || o.destination == "stdout"

/-- The output takes events of a level. -/
def LogOutput.takes (o : LogOutput) (log : Level) (level : Level) : Bool :=
  log.rank ≤ level.rank && (o.level.getD log).rank ≤ level.rank

/-- The settings of a log with one output to the error stream. -/
def LogSettings.single (level : Level) (format : LogFormat) : LogSettings :=
  ⟨level, [⟨format, "stderr", none⟩]⟩

/-- Where events of an output are written: a stream, or the path of a file in which double dots
have taken back the names before them. -/
def LogOutput.place (o : LogOutput) : String :=
  if o.isStream then o.destination
  else
    let path := o.destination
    Files.lead path ++ Files.Place.text (Files.Place.plain (Files.Place.ofText path))

/-- Makes the file of an output and the folders on the way to it, unless they are there. -/
def LogOutput.makeFile (o : LogOutput) (disk : Files.Disk) : Except Files.Refusal Files.Disk :=
  let path := o.destination
  let folder := Files.lead path ++ Files.Place.text (Files.Place.ofText path).dropLast
  match disk.makeFolders folder with
  | (.error refusal, _) => .error refusal
  | (.ok _, disk) =>
    match disk.hasFile o.place with
    | .ok true => .ok disk
    | _ => disk.write o.place (.text "")

/-- What was written to each place, and the run that events belong to. -/
structure Journal where
  settings : LogSettings
  run : Option String
  written : List (String × String)

namespace Journal

/-- The outputs that are files. -/
def fileOutputs (s : LogSettings) : List LogOutput :=
  s.outputs.filter fun o => !o.isStream

/-- Makes the files of a log, unless they are there. -/
def makeFiles (s : LogSettings) (disk : Files.Disk) : Except Files.Refusal Files.Disk :=
  (fileOutputs s).foldlM (fun disk o => o.makeFile disk) disk

/-- A journal in which nothing is written yet; the files are there. -/
def start (s : LogSettings) (run : Option String) : Journal :=
  ⟨s, run, mergeRepeated ((fileOutputs s).map fun o => (o.place, ""))⟩

/-- The first file to which events are written. -/
def file? (j : Journal) : Option String :=
  (fileOutputs j.settings).head?.map (·.destination)

/-- What was written at a place. -/
def textAt (j : Journal) (place : String) : String :=
  (j.written.lookup place).getD ""

/-- Adds a line at a place. -/
def addLine (place line : String) (j : Journal) : Journal :=
  { j with written := setEntry place (j.textAt place ++ line ++ "\n") j.written }

/-- Writes an event for which no output is set up to the error stream, if it is a warning at
least. -/
def recordBare (time : String) (e : Event) (j : Journal) : Journal :=
  if (max j.settings.level.rank Level.warning.rank) ≤ e.level.rank then
    j.addLine "stderr" (e.bareLine time j.run)
  else j

/-- Writes an event to the outputs that take it; `silent` keeps the streams out. -/
def record (time : String) (silent : Bool) (e : Event) (j : Journal) : Journal :=
  if j.settings.outputs.isEmpty then j.recordBare time e
  else
    j.settings.outputs.foldl
      (fun acc o =>
        if o.takes j.settings.level e.level && !(silent && o.isStream) then
          acc.addLine o.place (e.line o.format time j.run)
        else acc)
      j

/-- Writes an event, unless a field of it has a name that is reserved. -/
def recordChecked (time : String) (silent : Bool) (e : Event) (j : Journal) :
    Except Failure Journal :=
  match e.reserved? with
  | none => .ok (j.record time silent e)
  | some name => .error (.reservedField name (j.settings.level.rank ≤ e.level.rank))

/-- Events that follow belong to a run; an empty name stands for the name `fresh`. -/
def enterRun (fresh name : String) (j : Journal) : Journal :=
  { j with run := some (if name = "" then fresh else name) }

/-- Events that follow belong to no run. -/
def leaveRun (j : Journal) : Journal :=
  { j with run := none }

end Journal

end AnchorIndex

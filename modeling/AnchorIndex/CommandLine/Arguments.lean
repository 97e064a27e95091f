import AnchorIndex.Entity.Basic
import AnchorIndex.Text.LetterCase

/-!
# Arguments of the command line

The first argument that is no option names a command, and what follows belongs to it: options in
any order, with a value or without, and operands. `Command.ofArguments?` reads the arguments, and
answers nothing when they are misused.
-/

namespace AnchorIndex.CommandLine

/-! ### Options and operands -/

/-- The options that a command takes, each with its spellings and the name it is known by. -/
structure Options where
  flags : List (String × String)
  valued : List (String × String)

/-- The options that are set, those with a value in their order, and the operands. -/
structure Parsed where
  flags : List String
  values : List (String × String)
  operands : List String

namespace Parsed

/-- Nothing is set. -/
def empty : Parsed := ⟨[], [], []⟩

/-- With one more flag in front. -/
def withFlag (name : String) (p : Parsed) : Parsed :=
  { p with flags := name :: p.flags }

/-- With one more value in front. -/
def withValue (name value : String) (p : Parsed) : Parsed :=
  { p with values := (name, value) :: p.values }

/-- With one more operand in front. -/
def withOperand (operand : String) (p : Parsed) : Parsed :=
  { p with operands := operand :: p.operands }

/-- The flag is set. -/
def has (p : Parsed) (name : String) : Bool :=
  p.flags.contains name

/-- The value that is set last. -/
def value? (p : Parsed) (name : String) : Option String :=
  p.values.reverse.lookup name

end Parsed

/-- The flags that short letters stand for, if all of them stand for one. -/
def shortFlags? (options : Options) (letters : List Char) : Option (List String) :=
  letters.mapM fun c => options.flags.lookup (String.ofList ['-', c])

/-- An option with a value in the same argument. -/
def attached? (argument : List Char) : Option (String × String) :=
  let name := argument.takeWhile (· != '=')
  match argument.drop name.length with
  | '=' :: value => some (String.ofList name, String.ofList value)
  | _ => none

/-- Reads arguments. After two dashes all of them are operands. -/
def parse? (options : Options) : List String → Option Parsed
  | [] => some .empty
  | "--" :: rest => some { Parsed.empty with operands := rest }
  | a :: rest =>
    match options.flags.lookup a with
    | some flag => (parse? options rest).map (·.withFlag flag)
    | none =>
      match options.valued.lookup a with
      | some name =>
        match rest with
        | value :: rest => (parse? options rest).map (·.withValue name value)
        | [] => none
      | none =>
        match a.toList with
        | '-' :: '-' :: _ =>
          match attached? a.toList with
          | some (option, value) =>
            match options.valued.lookup option with
            | some name => (parse? options rest).map (·.withValue name value)
            | none => none
          | none => none
        | '-' :: c :: letters =>
          match shortFlags? options (c :: letters) with
          | some flags =>
            (parse? options rest).map fun p => flags.foldr Parsed.withFlag p
          | none => none
        | _ => (parse? options rest).map (·.withOperand a)

/-! ### Commands -/

/-- A command with its operands and options. -/
inductive Command where
  | version
  | init (path : String) (force : Bool) (folder : Option String) (libPath : Option String)
  | scan (repo : Option String) (deps : Bool)
  | query (kind : Kind) (name role : Option String) (repo : Option String) (json : Bool)
  | showEntity (id : String) (repo : Option String) (json : Bool)
  | deps (target : String) (repo : Option String) (json : Bool)
  | entrypoint (name : String) (repo : Option String) (json : Bool)
  deriving DecidableEq, Repr

/-- A command, and whether all events are to be logged. -/
structure Invocation where
  verbose : Bool
  command : Command
  deriving DecidableEq, Repr

/-- The options of commands that read the index. -/
def readingOptions : Options :=
  ⟨[("--json", "json")], [("--repo", "repo")]⟩

/-- The kind with a name, whose letters may be capitals or not. -/
def kindNamed? (s : String) : Option Kind :=
  Kind.all.find? fun k => Text.fold k.label == Text.fold s

/-- Reads the arguments of a command that reads the index and has one operand. -/
def reading? (command : String → Option String → Bool → Command) (arguments : List String) :
    Option Command := do
  let p ← parse? readingOptions arguments
  match p.operands with
  | [operand] => some (command operand (p.value? "repo") (p.has "json"))
  | _ => none

/-- Reads the arguments of the command that sets up an index. -/
def init? (arguments : List String) : Option Command := do
  let p ← parse?
    ⟨[("--force", "force"), ("-f", "force")],
      [("--program-dir", "folder"), ("--program-lib", "lib")]⟩ arguments
  let path ←
    match p.operands with
    | [] => some "."
    | [path] => some path
    | _ => none
  return .init path (p.has "force") (p.value? "folder") (p.value? "lib")

/-- Reads the arguments of the command that scans. -/
def scan? (arguments : List String) : Option Command := do
  let p ← parse? ⟨[("--deps", "deps")], [("--repo", "repo")]⟩ arguments
  if p.operands.isEmpty then some (.scan (p.value? "repo") (p.has "deps")) else none

/-- Reads the arguments of the command that lists entities. -/
def query? (arguments : List String) : Option Command := do
  let p ← parse?
    ⟨readingOptions.flags,
      [("--name", "name"), ("--subtype", "role")] ++ readingOptions.valued⟩ arguments
  match p.operands with
  | [kind] =>
    let kind ← kindNamed? kind
    return .query kind (p.value? "name") (p.value? "role") (p.value? "repo") (p.has "json")
  | _ => none

/-- Reads a command with its arguments. -/
def command? (name : String) (arguments : List String) : Option Command :=
  match name with
  | "init" => init? arguments
  | "scan" => scan? arguments
  | "query" => query? arguments
  | "show" => reading? .showEntity arguments
  | "deps" => reading? .deps arguments
  | "entrypoint" => reading? .entrypoint arguments
  | _ => none

/-- The options in front of a command. -/
def mainFlags : List (String × String) :=
  [("-v", "verbose"), ("--verbose", "verbose"), ("--version", "version")]

/-- Reads arguments whose first flags are given. -/
def Invocation.from? (flags : List String) : List String → Option Invocation
  | [] => if flags.contains "version" then some ⟨false, .version⟩ else none
  | a :: rest =>
    match mainFlags.lookup a with
    | some flag => from? (flag :: flags) rest
    | none =>
      let isOption :=
        match a.toList with
        | '-' :: _ :: _ => true
        | _ => false
      if a = "--" ∨ !isOption then
        if flags.contains "version" then some ⟨false, .version⟩
        else
          match if a = "--" then rest else a :: rest with
          | name :: arguments =>
            (command? name arguments).map fun c => ⟨flags.contains "verbose", c⟩
          | [] => none
      else
        match shortFlags? ⟨mainFlags, []⟩ (a.toList.drop 1) with
        | some more => from? (more ++ flags) rest
        | none => none

/-- Reads all arguments. -/
def Invocation.ofArguments? (arguments : List String) : Option Invocation :=
  from? [] arguments

end AnchorIndex.CommandLine

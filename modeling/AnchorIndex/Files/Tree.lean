import AnchorIndex.Text.Lines
import AnchorIndex.Text.Utf8
import AnchorIndex.Text.Quoted

/-!
# Trees of files

A file system is a tree of named entries (`Node`): files, links and folders. Places in it are
lists of names. `Node.reach` follows a place from the top, through links, to the spot that it
means, where an entry is or can be made; `Node.slot` does the same but stops at a link at the end.
`Node.insert` and `Node.remove` change a tree at a place.

The content of a file is a text, or bytes that are no text. Reading a file makes its line endings
line feeds.
-/

namespace AnchorIndex.Files

/-! ### Content -/

/-- What a file holds. -/
inductive Content where
  | text (s : String)
  /-- Bytes that are not UTF-8. -/
  | bytes (b : ByteArray)

/-- The content of a file with the given bytes. -/
def Content.ofBytes (b : ByteArray) : Content :=
  match String.fromUTF8? b with
  | some s => .text s
  | none => .bytes b

/-- The number of bytes. -/
def Content.size : Content → Nat
  | text s => s.utf8ByteSize
  | bytes b => b.size

/-- The text of a file as it is read, with flaws replaced. -/
def Content.readLossy : Content → String
  | text s => String.ofList (Text.foldNewlines s.toList)
  | bytes b => String.ofList (Text.foldNewlines (Text.Utf8.decodeLossy b.toList))

/-- The text of a file as it is read, or the first flaw in its bytes as it is found. -/
def Content.readBy (firstFlaw? : List UInt8 → Option Text.Utf8.Flaw) :
    Content → Except Text.Utf8.Flaw String
  | text s => .ok (String.ofList (Text.foldNewlines s.toList))
  | bytes b =>
    match firstFlaw? b.toList with
    | some flaw => .error flaw
    | none => .ok (String.ofList (Text.foldNewlines (Text.Utf8.decodeLossy b.toList)))

/-- The text of a file that is read at once, or the first flaw in its bytes. -/
def Content.read : Content → Except Text.Utf8.Flaw String :=
  readBy Text.Utf8.firstFlaw?

/-- The text of a file that is read piece by piece, or the first flaw in its bytes. -/
def Content.readInPieces : Content → Except Text.Utf8.Flaw String :=
  readBy Text.Utf8.firstFlawInPieces?

/-- The bytes of a file as a text, with flaws replaced. -/
def Content.raw : Content → String
  | text s => s
  | bytes b => String.ofList (Text.Utf8.decodeLossy b.toList)

/-! ### Nodes -/

/-- An entry of a tree. -/
inductive Node where
  | file (content : Content)
  /-- A link to a place, given relative to the folder of the link or from the top. -/
  | link (target : String)
  | folder (entries : List (String × Node))

/-- An empty folder. -/
def Node.empty : Node := .folder []

/-- The entry of a folder with a name. -/
def Node.child? (n : Node) (name : String) : Option Node :=
  match n with
  | folder entries => entries.lookup name
  | _ => none

/-! ### Places -/

/-- A place in a tree: the names on the way from its top. -/
abbrev Place : Type := List String

namespace Place

/-- The names between the strokes of a text, empty ones too. -/
def parts (s : String) : List String :=
  (Text.splitAt '/' s.toList).map String.ofList

/-- The names that a text gives, without empty ones. -/
def names (s : String) : Place :=
  (parts s).filter (· != "")

/-- The place that a text names. Empty names and single dots stay where they are. -/
def ofText (s : String) : Place :=
  (names s).filter (· != ".")

/-- The names on the way that a link goes. One that ends in a stroke goes to a folder. -/
def ofTarget (s : String) : Place :=
  if s.endsWith "/" then names s ++ ["."] else names s

/-- The place as a text. -/
def text (p : Place) : String :=
  "/".intercalate p

/-- The place that names lead to. Empty ones and single dots stay where they are, and double dots
take back the name before them. -/
def plain (names : List String) : Place :=
  names.foldl
    (fun q name =>
      if name = "" ∨ name = "." then q
      else if name = ".." then q.dropLast
      else q ++ [name])
    []

/-- Names after a place; names that begin with a stroke go from the top. -/
def andThen (p : Place) (names : List String) : List String :=
  match names with
  | "" :: _ :: _ => names
  | names => p ++ names

end Place

/-- The entry at a place, reached without following links. -/
def Node.at? (n : Node) : Place → Option Node
  | [] => some n
  | name :: rest => (n.child? name).bind (·.at? rest)

/-! ### Following a place -/

/-- Why a place means nothing. -/
inductive Miss where
  | absent
  | throughFile
  | looping
  | nameTooLong
  deriving DecidableEq, Repr

/-- Where a place leads: a place without links, and the entry there if there is one. -/
structure Spot where
  place : Place
  entry? : Option Node

/-- A name has at most this many bytes. -/
def maxNameSize : Nat := 255

/-- Follows names from a place without links. Where a link leads is left to `follow`. -/
def reachWith (top : Node) (follow : Place → Place → Except Miss Spot) (here : Place) :
    Place → Except Miss Spot
  | [] => .ok ⟨here, top.at? here⟩
  | name :: rest =>
    match top.at? here with
    | none => .error .absent
    | some (.folder entries) =>
      if name = "." then reachWith top follow here rest
      else if name = ".." then reachWith top follow here.dropLast rest
      else if maxNameSize < name.utf8ByteSize then .error .nameTooLong
      else
        match entries.lookup name with
        | none => if rest.isEmpty then .ok ⟨here ++ [name], none⟩ else .error .absent
        | some (.link target) =>
          follow (if target.startsWith "/" then [] else here) (Place.ofTarget target ++ rest)
        | some _ => reachWith top follow (here ++ [name]) rest
    | some _ => .error .throughFile

/-- Follows names from a place without links, through at most `links` links. -/
def reachFrom (top : Node) : (links : Nat) → Place → Place → Except Miss Spot
  | 0 => reachWith top fun _ _ => .error .looping
  | links + 1 => reachWith top (reachFrom top links)

/-- At most this many links lead to an entry. -/
def maxLinks : Nat := 40

/-- The spot that a place means. -/
def Node.reach (top : Node) (p : Place) : Except Miss Spot :=
  reachFrom top maxLinks [] p

/-- The spot that a place names, which may be a link. -/
def Node.slot (top : Node) (p : Place) : Except Miss Spot :=
  match p.getLast? with
  | none => .ok ⟨[], some top⟩
  | some name =>
    match top.reach (p.dropLast ++ ["."]) with
    | .error miss => .error miss
    | .ok spot =>
      let place := if name = ".." then spot.place.dropLast else spot.place ++ [name]
      if maxNameSize < name.utf8ByteSize then .error .nameTooLong
      else .ok ⟨place, top.at? place⟩

/-- The entry that a place means, if there is one. -/
def Node.find? (top : Node) (p : Place) : Option Node :=
  match top.reach p with
  | .ok spot => spot.entry?
  | .error _ => none

/-- The node is a folder. -/
def Node.isFolder : Node → Bool
  | folder _ => true
  | _ => false

/-- The node is a file. -/
def Node.isFile : Node → Bool
  | file _ => true
  | _ => false

/-- There is an entry at a place. -/
def Node.has (top : Node) (p : Place) : Bool :=
  (top.find? p).isSome

/-- The entry at a place is a folder. -/
def Node.hasFolder (top : Node) (p : Place) : Bool :=
  (top.find? p).any (·.isFolder)

/-! ### Real places -/

/-- Follows names from a place without links as far as there are entries, and keeps the names
after them. Where a link leads is left to `follow`, which gets the place of the link too. -/
def realWith (top : Node)
    (follow : Place → Place → List String → Except (List String) Place) (here : Place) :
    List String → Except (List String) Place
  | [] => .ok here
  | name :: rest =>
    if name = "" ∨ name = "." then realWith top follow here rest
    else if name = ".." then realWith top follow here.dropLast rest
    else
      let there := here ++ [name]
      match top.at? there with
      | some (.link target) =>
        match follow there (if target.startsWith "/" then [] else here) (Place.parts target) with
        | .ok real => realWith top follow real rest
        | .error stuck => .error (Place.andThen stuck rest)
      | _ => realWith top follow there rest

/-- Follows names while the links at the places `opened` are being followed. A link that leads
back to itself is where this ends. -/
def realFrom (top : Node) : (depth : Nat) → (opened : List Place) → Place → List String →
    Except (List String) Place
  | 0, _ => fun here names => .error (Place.andThen here names)
  | depth + 1, opened =>
    realWith top fun link here names =>
      if opened.contains link then .error link
      else realFrom top depth (link :: opened) here names

/-- Links are followed inside of links to this depth. -/
def maxNesting : Nat := 400

/-- The place without links and double dots that a place means, or the place that remains when a
link leads back to itself. -/
def Node.real (top : Node) (p : Place) : Except Place Place :=
  match realFrom top maxNesting [] [] p with
  | .ok q => .ok q
  | .error q =>
    match top.reach (Place.plain q) with
    | .error .looping => .error (Place.plain q)
    | _ => .ok (Place.plain q)

/-! ### Changes -/

/-- The entries with one of them changed; `change` gets what is there under the name. -/
def alterEntry (name : String) (change : Option Node → Node) :
    List (String × Node) → List (String × Node)
  | [] => [(name, change none)]
  | (n, node) :: rest =>
    if n = name then (n, change (some node)) :: rest else (n, node) :: alterEntry name change rest

/-- The tree with a node put at a place. What stands in the way of the folders on the path is
replaced. -/
def Node.insert (node : Node) : Place → Option Node → Node
  | [], _ => node
  | name :: rest, some (.folder entries) =>
    .folder (alterEntry name (Node.insert node rest) entries)
  | name :: rest, _ => .folder [(name, Node.insert node rest none)]

/-- The tree without the entry at a place. -/
def Node.remove (p : Place) (n : Node) : Node :=
  match p, n with
  | [], n => n
  | [name], .folder entries => .folder (entries.filter (·.1 != name))
  | name :: rest, .folder entries =>
    .folder (entries.map fun (k, child) => if k = name then (k, child.remove rest) else (k, child))
  | _, n => n
  termination_by structural p

end AnchorIndex.Files

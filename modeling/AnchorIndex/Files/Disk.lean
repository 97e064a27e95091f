import AnchorIndex.Files.Tree

/-!
# Paths on a file system

A disk is a file system with a present folder (`Disk`). Paths are texts: a relative one starts at
the present folder, and a path is put together without empty names and single dots (`joinPath`).
`Disk.spot` follows a path to the spot that it means. Operations that the system does not carry
out answer a `Refusal`.
-/

namespace AnchorIndex.Files

/-! ### Refusals -/

/-- Why the system refuses an operation on a path, given as it is shown. -/
inductive Refusal where
  | notFound (shown : String)
  | isFolder (shown : String)
  /-- A file should take the place of a folder. -/
  | isFolderMove (shown target : String)
  | notFolder (shown : String)
  | alreadyThere (shown : String)
  | tooManyLinks (shown : String)
  | nameTooLong (shown : String)
  /-- A link should be removed as if it were a folder. -/
  | isLink (shown : String)
  /-- The text holds a character that no path holds. -/
  | noPath
  deriving DecidableEq, Repr

/-- The report of a refusal. -/
def Refusal.message : Refusal → String
  | notFound shown => "[Errno 2] No such file or directory: " ++ Text.quote shown
  | isFolder shown => "[Errno 21] Is a directory: " ++ Text.quote shown
  | isFolderMove shown target =>
    "[Errno 21] Is a directory: " ++ Text.quote shown ++ " -> " ++ Text.quote target
  | notFolder shown => "[Errno 20] Not a directory: " ++ Text.quote shown
  | alreadyThere shown => "[Errno 17] File exists: " ++ Text.quote shown
  | tooManyLinks shown => "[Errno 40] Too many levels of symbolic links: " ++ Text.quote shown
  | nameTooLong shown => "[Errno 36] File name too long: " ++ Text.quote shown
  | isLink shown => "Is a symbolic link: " ++ Text.quote shown
  | noPath => "embedded null byte"

/-- The refusal that a miss is, for a path that is shown as a text. -/
def Miss.refusal (shown : String) : Miss → Refusal
  | absent => .notFound shown
  | throughFile => .notFolder shown
  | looping => .tooManyLinks shown
  | nameTooLong => .nameTooLong shown

/-- An operation found nothing to work on, rather than that it cannot work there. -/
def Refusal.isMiss : Refusal → Bool
  | notFound _ | notFolder _ | tooManyLinks _ | noPath => true
  | _ => false

/-! ### Paths -/

/-- A file system and the path of the folder from which relative paths go. -/
structure Disk where
  folder : String
  tree : Node

/-- How a path starts: two strokes, and only two, are kept as they are. -/
def lead (path : String) : String :=
  if path.startsWith "//" && !path.startsWith "///" then "//"
  else if path.startsWith "/" then "/"
  else ""

/-- The path without empty names and single dots. -/
def normalPath (path : String) : String :=
  lead path ++ Place.text (Place.ofText path)

/-- A path as it is shown: the present folder is a dot. -/
def shownPath (path : String) : String :=
  let p := normalPath path
  if p = "" then "." else p

/-- A path below a folder; one from the top of the file system stands for itself. -/
def joinPath (folder path : String) : String :=
  if path.startsWith "/" then normalPath path
  else
    let rest := normalPath path
    if rest = "" then folder
    else if folder = "" ∨ folder.endsWith "/" then folder ++ rest
    else folder ++ "/" ++ rest

/-- A text can be a path. -/
def isPath (s : String) : Bool :=
  !s.toList.contains '\x00'

/-- The path of a place. -/
def pathOf (place : Place) : String :=
  "/" ++ Place.text place

namespace Disk

/-- A path below the present folder. -/
def path (d : Disk) (rel : String) : String :=
  joinPath d.folder rel

/-- The same file system seen from another folder. -/
def seenFrom (d : Disk) (folder : String) : Disk :=
  { d with folder := folder }

/-! ### Looking up -/

/-- A path has fewer bytes than this. -/
def maxPathSize : Nat := 4096

/-- What a path means, if it is one at all. -/
def meaning {α : Type} (path : String) (f : Place → Except Miss α) : Except Refusal α :=
  if !isPath path then .error .noPath
  else if maxPathSize ≤ path.utf8ByteSize then .error (.nameTooLong path)
  else (f (Place.ofText path)).mapError (·.refusal path)

/-- The spot that a path means. -/
def spot (d : Disk) (path : String) : Except Refusal Spot :=
  meaning path d.tree.reach

/-- The spot that a path names, which may be a link. -/
def slot (d : Disk) (path : String) : Except Refusal Spot :=
  meaning path d.tree.slot

/-- The entry that a path means, if there is one. Only a name that is too long is refused. -/
def find? (d : Disk) (path : String) : Except Refusal (Option Node) :=
  match d.spot path with
  | .ok spot => .ok spot.entry?
  | .error refusal => if refusal.isMiss then .ok none else .error refusal

/-- There is an entry at a path. -/
def has (d : Disk) (path : String) : Except Refusal Bool :=
  (d.find? path).map (·.isSome)

/-- There is a folder at a path. -/
def hasFolder (d : Disk) (path : String) : Except Refusal Bool :=
  (d.find? path).map (·.any (·.isFolder))

/-- There is a file at a path. -/
def hasFile (d : Disk) (path : String) : Except Refusal Bool :=
  (d.find? path).map (·.any (·.isFile))

/-- The content of the file at a spot, which is shown as a path if that fails. -/
def contentOf (path : String) : Spot → Except Refusal Content
  | ⟨_, some (.file c)⟩ => .ok c
  | ⟨_, some _⟩ => .error (.isFolder path)
  | ⟨_, none⟩ => .error (.notFound path)

/-- The content of the file at a path. -/
def content (d : Disk) (path : String) : Except Refusal Content :=
  (d.spot path).bind (contentOf path)

/-! ### Changes -/

/-- The disk with a node put at a place. -/
def insert (d : Disk) (place : Place) (node : Node) : Disk :=
  { d with tree := Node.insert node place (some d.tree) }

/-- Makes a folder where nothing is. -/
def makeFolder (d : Disk) (path : String) : Except Refusal Disk :=
  match d.slot path with
  | .error refusal => .error refusal
  | .ok ⟨_, some _⟩ => .error (.alreadyThere path)
  | .ok ⟨place, none⟩ => .ok (d.insert place .empty)

/-- Makes a folder unless it is there. -/
def ensureFolder (d : Disk) (path : String) : Except Refusal Disk :=
  match d.makeFolder path with
  | .ok d => .ok d
  | .error refusal =>
    match d.hasFolder path with
    | .ok true => .ok d
    | _ => .error refusal

/-- Makes the folder at the end of a way, given with its last name first, and the folders on the
way that are missing. The disk that is answered has the folders that could be made. -/
def makeWay (start : String) (d : Disk) : Place → Except Refusal Unit × Disk
  | [] => (.ok (), d)
  | name :: above =>
    let path := start ++ Place.text (name :: above).reverse
    match d.makeFolder path with
    | .ok d => (.ok (), d)
    | .error (.notFound _) =>
      let (made, d) := makeWay start d above
      match made, d.ensureFolder path with
      | .error refusal, _ => (.error refusal, d)
      | .ok _, .ok d => (.ok (), d)
      | .ok _, .error refusal => (.error refusal, d)
    | .error _ =>
      match d.ensureFolder path with
      | .ok d => (.ok (), d)
      | .error refusal => (.error refusal, d)

/-- Makes the folder at a path, and the folders on the way to it that are missing. -/
def makeFolders (d : Disk) (path : String) : Except Refusal Unit × Disk :=
  d.makeWay (lead path) (Place.ofText path).reverse

/-- Writes a file anew, through links. -/
def write (d : Disk) (path : String) (c : Content) : Except Refusal Disk :=
  match d.spot path with
  | .error refusal => .error refusal
  | .ok ⟨_, some (.folder _)⟩ => .error (.isFolder path)
  | .ok ⟨place, _⟩ => .ok (d.insert place (.file c))

/-- Moves an entry that is no folder to a path, where it takes the place of what is there. A
folder there stays and is reported. -/
def move (d : Disk) (source target : String) : Except Refusal Disk :=
  match d.slot source, d.slot target with
  | .error refusal, _ => .error refusal
  | _, .error refusal => .error refusal
  | .ok ⟨_, none⟩, _ => .error (.notFound source)
  | .ok ⟨_, some _⟩, .ok ⟨_, some (.folder _)⟩ => .error (.isFolderMove source target)
  | .ok ⟨old, some node⟩, .ok ⟨new, _⟩ =>
    .ok (({ d with tree := d.tree.remove old }).insert new node)

/-- Removes a folder with all that is in it. -/
def removeFolder (d : Disk) (path : String) : Except Refusal Disk :=
  match d.slot path with
  | .error refusal => .error refusal
  | .ok ⟨_, none⟩ => .error (.notFound path)
  | .ok ⟨_, some (.link _)⟩ => .error (.isLink path)
  | .ok ⟨_, some (.file _)⟩ => .error (.notFolder path)
  | .ok ⟨place, some (.folder _)⟩ => .ok { d with tree := d.tree.remove place }

end Disk

end AnchorIndex.Files

import AnchorIndex.Files.Disk
import AnchorIndex.Files.Prune
import AnchorIndex.Text.LetterCase

/-!
# Walking the sources of a program

The sources of a program are the files below a folder whose name has one of some extensions. A
walk goes through each folder in the order of names, files before folders; it does not enter
pruned folders, nor links to folders. A file that is too large is skipped and one that cannot be
read is reported (`Walk`).
-/

namespace AnchorIndex.Files

/-- A source file with its path from the top folder and its text. -/
structure SourceFile where
  path : String
  text : String
  deriving DecidableEq, Repr

/-- What a walk finds: files in order, the paths of files that are too large, and reports of files
that cannot be read. -/
structure Walk where
  files : List SourceFile
  skippedLarge : List String
  errors : List String

/-- A walk that finds nothing. -/
def Walk.empty : Walk := ⟨[], [], []⟩

/-- One walk after another. -/
def Walk.append (a b : Walk) : Walk :=
  ⟨a.files ++ b.files, a.skippedLarge ++ b.skippedLarge, a.errors ++ b.errors⟩

/-- What a walk looks for: extensions in small letters, and the greatest size in bytes. -/
structure Filter where
  extensions : List String
  maxSize : Int

/-- The extension of a file name, from its last point on. A point at either end starts none. -/
def extension (name : String) : String :=
  let (back, rest) := (name.toList.reverse.takeWhile (· != '.'), name.toList.reverse.dropWhile (· != '.'))
  match rest with
  | _ :: front => if back.isEmpty || front.isEmpty then "" else String.ofList ('.' :: back.reverse)
  | [] => ""

/-- The name has one of the extensions. -/
def Filter.accepts (f : Filter) (name : String) : Bool :=
  f.extensions.contains (Text.lower (extension name))

/-- Entries in the order of their names. -/
def byName {α : Type} (entries : List (String × α)) : List (String × α) :=
  entries.mergeSort fun a b => a.1 ≤ b.1

/-- What reading one file gives. -/
def visitFile (f : Filter) (path : String) (content : Except Refusal Content) : Walk :=
  match content with
  | .error refusal => { Walk.empty with errors := [path ++ ": " ++ refusal.message] }
  | .ok c =>
    if f.maxSize < (c.size : Int) then { Walk.empty with skippedLarge := [path] }
    else { Walk.empty with files := [⟨path, c.readLossy⟩] }

/-- The path of an entry of a folder. -/
def below (path name : String) : String :=
  if path = "" then name else path ++ "/" ++ name

/-- The entry at a path counts as a folder of its folder: it is one, or a link to one. -/
def isFolderAt (disk : Disk) (path : String) : Node → Bool
  | .folder _ => true
  | .link _ => (disk.hasFolder path).toOption.getD false
  | .file _ => false

/-- The files of a folder that are found, given its entries in order. -/
def visitFiles (disk : Disk) (f : Filter) (path : String) (entries : List (String × Node)) : Walk :=
  entries.foldr
    (fun (name, node) rest =>
      let shown := below path name
      let full := disk.path shown
      if isFolderAt disk full node || !f.accepts name then rest
      else (visitFile f shown (disk.content full)).append rest)
    .empty

mutual

/-- Walks an entry, whose folders hold their entries in order. A folder whose path is too long
cannot be listed. -/
def walkNode (disk : Disk) (f : Filter) (path : String) : Node → Walk
  | .folder entries =>
    if Disk.maxPathSize ≤ (disk.path path).utf8ByteSize then .empty
    else (visitFiles disk f path entries).append (walkFolders disk f path entries)
  | _ => .empty

/-- Walks those of the entries of a folder that are folders and not pruned. -/
def walkFolders (disk : Disk) (f : Filter) (path : String) : List (String × Node) → Walk
  | [] => .empty
  | (name, node) :: rest =>
    (if isPruned name then Walk.empty else walkNode disk f (below path name) node).append
      (walkFolders disk f path rest)

end

mutual

/-- The entry with the entries of all its folders in the order of their names. -/
def Node.arranged : Node → Node
  | .folder entries => .folder (byName (arrangedEntries entries))
  | n => n

/-- Entries whose own folders are in order. -/
def arrangedEntries : List (String × Node) → List (String × Node)
  | [] => []
  | (name, n) :: rest => (name, n.arranged) :: arrangedEntries rest

end

/-- The sources below a folder. A folder that is not there has none. -/
def walk (disk : Disk) (folder : String) (extensions : List String) (maxMegabytes : Int) :
    Except Refusal Walk :=
  let f : Filter := ⟨extensions.map Text.lower, maxMegabytes * 1024 * 1024⟩
  match disk.spot (disk.path folder) with
  | .ok ⟨_, some n⟩ => .ok (walkNode disk f (normalPath folder) n.arranged)
  | .ok ⟨_, none⟩ => .ok .empty
  | .error refusal => if refusal.isMiss then .ok .empty else .error refusal

end AnchorIndex.Files

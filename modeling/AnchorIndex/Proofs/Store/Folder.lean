import AnchorIndex.Store.Basic
import AnchorIndex.Proofs.Files.Folders
import AnchorIndex.Proofs.Store.Schemas

/-!
# The folder of the store

A folder hosts the store (`Hosts`) if its path is not too long and no folder or link stands where
the store writes, which is under the names of its documents and of their drafts
(`writtenNames`). Writing files under these names, moving them and removing them leaves a folder
that hosts the store (`Hosts.insert`, `Hosts.remove`).
-/

namespace AnchorIndex.Store

open Files

/-! ### Names -/

/-- The name of the draft of a document. -/
def draftName (document : String) : String :=
  document ++ ".tmp"

/-- The names under which the store writes. -/
def writtenNames : List String :=
  schemas.map (·.document) ++ schemas.map fun schema => draftName schema.document

theorem nodup_writtenNames :
  writtenNames.Nodup
  := by
  decide +kernel

theorem document_mem_writtenNames {schema : Document.Schema} (h : schema ∈ schemas) :
  schema.document ∈ writtenNames
  := by
  apply List.mem_append_left
  apply List.mem_map_of_mem h

theorem draftName_mem_writtenNames {schema : Document.Schema} (h : schema ∈ schemas) :
  draftName schema.document ∈ writtenNames
  := by
  apply List.mem_append_right
  apply List.mem_map.2 ⟨schema, h, rfl⟩

/-- A document is not the draft of a document. -/
theorem document_ne_draftName {a b : Document.Schema} (ha : a ∈ schemas) (hb : b ∈ schemas) :
  a.document ≠ draftName b.document
  := by
  have h := (List.nodup_append.1 nodup_writtenNames).2.2
  apply h
  · apply List.mem_map_of_mem ha
  · apply List.mem_map.2 ⟨b, hb, rfl⟩

/-- A document has one schema. -/
theorem eq_of_document_eq {a b : Document.Schema} (ha : a ∈ schemas) (hb : b ∈ schemas)
    (h : a.document = b.document) :
  a = b
  := by
  have hnodup := (List.nodup_append.1 nodup_writtenNames).1
  apply List.inj_on_of_nodup_map hnodup ha hb h

/-- A name under which the store writes has at most this many bytes. -/
def maxWrittenSize : Nat := 35

theorem isEntryName_of_mem_writtenNames {name : String} (h : name ∈ writtenNames) :
  IsEntryName name
  := by
  have hall : ∀ name ∈ writtenNames,
      (name ≠ "." ∧ name ≠ ".." ∧ name.utf8ByteSize ≤ maxNameSize) ∧
        name ≠ "" ∧ '/' ∉ name.toList ∧ '\x00' ∉ name.toList := by
    decide +kernel
  obtain ⟨⟨hdot, hdots, hsize⟩, hempty, hstroke, hnull⟩ := hall name h
  exact ⟨⟨hdot, hdots, hsize⟩, hempty, hstroke, hnull⟩

theorem utf8ByteSize_le_of_mem_writtenNames {name : String} (h : name ∈ writtenNames) :
  name.utf8ByteSize ≤ maxWrittenSize
  := by
  have hall : ∀ name ∈ writtenNames, name.utf8ByteSize ≤ maxWrittenSize := by decide +kernel
  apply hall name h

/-! ### Folders that host the store -/

/-- The store can be kept in the folder with this path, which lies at `place` and holds `es`. -/
structure Hosts (disk : Disk) (folder : String) (place : Place) (es : List (String × Node)) :
    Prop where
  isPath : isPath folder = true
  size : folder.utf8ByteSize + 1 + maxWrittenSize < Disk.maxPathSize
  leads : Leads disk.tree maxLinks [] (Place.ofText folder) ⟨place, some (.folder es)⟩
  plain : ∀ name ∈ writtenNames, IsPlain (es.lookup name)

namespace Hosts

variable {disk : Disk} {folder name : String} {place : Place} {es : List (String × Node)}

theorem at?_place (h : Hosts disk folder place es) :
  disk.tree.at? place = some (.folder es)
  := h.leads.at?_place

theorem isShortPath (h : Hosts disk folder place es) :
  IsShortPath folder
  := by
  have := h.size
  exact ⟨h.isPath, by omega⟩

theorem isShortPath_joinPath (h : Hosts disk folder place es) (hn : name ∈ writtenNames) :
  IsShortPath (joinPath folder name)
  := by
  have hname := isEntryName_of_mem_writtenNames hn
  constructor
  · apply isPath_joinPath h.isPath hname
  · have hjoin := utf8ByteSize_joinPath_le folder hname
    have hsize := utf8ByteSize_le_of_mem_writtenNames hn
    have hfolder := h.size
    omega

/-- The path of a name under which the store writes means the entry with that name. -/
theorem spot_eq (h : Hosts disk folder place es) (hn : name ∈ writtenNames) :
  disk.spot (joinPath folder name) = .ok ⟨place ++ [name], es.lookup name⟩
  := spot_joinPath (h.isShortPath_joinPath hn) (isEntryName_of_mem_writtenNames hn) h.leads
    (h.plain name hn)

theorem slot_eq (h : Hosts disk folder place es) (hn : name ∈ writtenNames) :
  disk.slot (joinPath folder name) = .ok ⟨place ++ [name], es.lookup name⟩
  := slot_joinPath (h.isShortPath_joinPath hn) (isEntryName_of_mem_writtenNames hn) h.leads

theorem makeFolders_eq (h : Hosts disk folder place es) :
  disk.makeFolders folder = (.ok (), disk)
  := makeFolders_eq_self h.isShortPath h.leads

/-- A folder in which places lead as before, with entries that are plain as before, hosts the
store. -/
theorem of_keeps (h : Hosts disk folder place es) {disk' : Disk} {es' : List (String × Node)}
    (hkeeps : Keeps disk.tree disk'.tree) (hat : disk'.tree.at? place = some (.folder es'))
    (hplain : ∀ name ∈ writtenNames, IsPlain (es'.lookup name)) :
  Hosts disk' folder place es'
  := by
  obtain ⟨es'', hleads⟩ := h.leads.keep hkeeps
  have heq : some (Node.folder es'') = some (Node.folder es') := by
    rw [← hat]
    apply hleads.at?_place.symm
  injection heq with heq
  injection heq with heq
  subst heq
  exact ⟨h.isPath, h.size, hleads, hplain⟩

/-- A file can be put under any name under which the store writes. -/
theorem insert (h : Hosts disk folder place es) (hn : name ∈ writtenNames) (c : Content) :
  Hosts (disk.insert (place ++ [name]) (.file c)) folder place
    (alterEntry name (fun _ => .file c) es)
  := by
  apply h.of_keeps
  · apply Keeps.insert h.at?_place (h.plain name hn) (.file c)
  · apply at?_insert_concat (.file c) name h.at?_place
  · intro n hn' node hnode
    rw [lookup_alterEntry] at hnode
    split at hnode
    · cases hnode
      rfl
    · apply h.plain n hn' node hnode

/-- What stands under a name under which the store writes can be removed. -/
theorem remove (h : Hosts disk folder place es) (hn : name ∈ writtenNames) :
  Hosts { disk with tree := disk.tree.remove (place ++ [name]) } folder place
    (es.filter (·.1 != name))
  := by
  apply h.of_keeps
  · apply Keeps.remove h.at?_place (h.plain name hn)
  · apply at?_remove_concat name h.at?_place
  · intro n hn' node hnode
    rw [lookup_removeEntry] at hnode
    split at hnode
    · contradiction
    · apply h.plain n hn' node hnode

/-- A file is written by putting it under its name. -/
theorem write_eq (h : Hosts disk folder place es) (hn : name ∈ writtenNames) (c : Content) :
  disk.write (joinPath folder name) c = .ok (disk.insert (place ++ [name]) (.file c))
  := by
  rw [Disk.write, h.spot_eq hn]
  cases hentry : es.lookup name with
  | none => rfl
  | some node =>
    cases node with
    | file content => rfl
    | folder entries => exact absurd (h.plain name hn _ hentry) (by simp [Node.isFile])
    | link target => rfl

/-- A file is moved by removing it and putting it under the other name. -/
theorem move_eq (h : Hosts disk folder place es) {source target : String}
    (hs : source ∈ writtenNames) (ht : target ∈ writtenNames) {node : Node}
    (hnode : es.lookup source = some node) :
  disk.move (joinPath folder source) (joinPath folder target)
    = .ok (({ disk with tree := disk.tree.remove (place ++ [source]) } : Disk).insert
        (place ++ [target]) node)
  := by
  rw [Disk.move, h.slot_eq hs, h.slot_eq ht, hnode]
  cases hentry : es.lookup target with
  | none => rfl
  | some node' =>
    cases node' with
    | file content => rfl
    | folder entries => exact absurd (h.plain target ht _ hentry) (by simp [Node.isFile])
    | link target => rfl

end Hosts

end AnchorIndex.Store

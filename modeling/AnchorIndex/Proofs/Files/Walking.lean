import Mathlib.Data.List.Perm.Basic
import Mathlib.Data.List.TakeWhile
import AnchorIndex.Files.Walk
import AnchorIndex.Proofs.Files.Sparing

/-!
# Walked files

A walk visits the files at some paths (`sourcePaths`), and reports each of them as found, as too
large or as unreadable (`walkNode_eq_ofPaths`). The files that it finds have the texts that are read
at their paths (`readable_of_walk`). In a proper tree (`Node.isProper`), where the names in a folder
are distinct names of entries, no path is visited twice (`nodup_sourcePaths`): the paths of the
files below an entry go on with the name of the entry (`firstName_of_mem_entryPaths`).
-/

namespace AnchorIndex.Files

/-! ### Proper trees -/

section

variable {P : Node → Prop}

mutual

/-- What holds of files and links, and of a folder if it holds of its entries, holds of every
node. -/
@[elab_as_elim]
theorem Node.induction (file : ∀ c, P (.file c)) (link : ∀ t, P (.link t))
    (folder : ∀ es, (∀ p ∈ es, P p.2) → P (.folder es)) (n : Node) :
  P n
  := by
  cases n with
  | file c => exact file c
  | link t => exact link t
  | folder es => exact folder es (Node.induction_entries file link folder es)

theorem Node.induction_entries (file : ∀ c, P (.file c)) (link : ∀ t, P (.link t))
    (folder : ∀ es, (∀ p ∈ es, P p.2) → P (.folder es)) (es : List (String × Node)) :
  ∀ p ∈ es, P p.2
  := by
  cases es with
  | nil =>
    intro p hp
    contradiction
  | cons q rest =>
    obtain ⟨name, n⟩ := q
    intro p hp
    obtain rfl | hp := List.mem_cons.1 hp
    · exact Node.induction file link folder n
    · exact Node.induction_entries file link folder rest p hp

end

end

/-- A text that can name an entry of a folder, as a check. -/
def isEntryName (name : String) : Bool :=
  name != "." && name != ".." && name != "" && decide (name.utf8ByteSize ≤ maxNameSize) &&
    !name.toList.contains '/' && !name.toList.contains '\x00'

theorem isEntryName_iff {name : String} :
  isEntryName name = true ↔ IsEntryName name
  := by
  constructor
  · intro h
    simp only [isEntryName, Bool.and_eq_true, bne_iff_ne, decide_eq_true_iff, Bool.not_eq_true',
      List.contains_eq_mem, decide_eq_false_iff_not] at h
    obtain ⟨⟨⟨⟨⟨hdot, hdots⟩, hempty⟩, hsize⟩, hstroke⟩, hnull⟩ := h
    exact ⟨⟨hdot, hdots, hsize⟩, hempty, hstroke, hnull⟩
  · rintro ⟨⟨hdot, hdots, hsize⟩, hempty, hstroke, hnull⟩
    simp [isEntryName, hdot, hdots, hsize, hempty, hstroke, hnull]

mutual

/-- In every folder the names are distinct names of entries. -/
def Node.isProper : Node → Bool
  | .folder entries => properEntries entries
  | _ => true

/-- The names are distinct names of entries, and the entries are proper. -/
def properEntries : List (String × Node) → Bool
  | [] => true
  | (name, node) :: rest =>
    isEntryName name && rest.all (·.1 != name) && node.isProper && properEntries rest

end

theorem properEntries_iff {es : List (String × Node)} :
  properEntries es = true
    ↔ (es.map (·.1)).Nodup ∧ ∀ p ∈ es, IsEntryName p.1 ∧ p.2.isProper = true
  := by
  induction es with
  | nil => simp [properEntries]
  | cons p rest ih =>
    obtain ⟨name, node⟩ := p
    rw [properEntries]
    simp only [Bool.and_eq_true, isEntryName_iff, ih, List.all_eq_true, bne_iff_ne, List.map_cons,
      List.nodup_cons, List.mem_map, not_exists, not_and, List.forall_mem_cons]
    tauto

theorem isProper_at? {top n : Node} (h : top.isProper = true) {place : Place}
    (hn : top.at? place = some n) :
  n.isProper = true
  := by
  induction place generalizing top with
  | nil =>
    cases hn
    exact h
  | cons name place ih =>
    obtain ⟨es, child, rfl, hchild, hplace⟩ := Node.at?_cons_eq_some hn
    have hproper := (properEntries_iff.1 h).2 _ (mem_of_lookup_eq_some hchild)
    apply ih hproper.2 hplace

theorem arrangedEntries_eq (es : List (String × Node)) :
  arrangedEntries es = es.map (Prod.map id Node.arranged)
  := by
  induction es with
  | nil => rfl
  | cons p es ih => rw [arrangedEntries, ih, List.map_cons, Prod.map_apply, id]

/-- Arranging the entries leaves a tree proper. -/
theorem isProper_arranged {n : Node} (h : n.isProper = true) :
  n.arranged.isProper = true
  := by
  induction n using Node.induction with
  | file c => rfl
  | link t => rfl
  | folder es ih =>
    rw [Node.isProper, properEntries_iff] at h
    obtain ⟨hnodup, hproper⟩ := h
    rw [Node.arranged, Node.isProper, properEntries_iff]
    have hperm : (byName (arrangedEntries es)).Perm (es.map (Prod.map id Node.arranged)) := by
      rw [arrangedEntries_eq]
      apply List.mergeSort_perm
    constructor
    · rw [(hperm.map (·.1)).nodup_iff, List.map_map]
      exact hnodup
    · intro p hp
      obtain ⟨q, hq, rfl⟩ := List.mem_map.1 (hperm.mem_iff.1 hp)
      obtain ⟨hname, hq'⟩ := hproper q hq
      exact ⟨hname, ih q hq hq'⟩

/-! ### Visited files -/

section

variable (disk : Disk) (f : Filter) (path : String)

/-- The path of an entry of a folder, if it is a file that is visited. -/
def ownPath (p : String × Node) : List String :=
  if isFolderAt disk (disk.path (below path p.1)) p.2 || !f.accepts p.1 then []
  else [below path p.1]

mutual

/-- The paths of the files that are visited below an entry. -/
def sourcePaths (path : String) : Node → List String
  | .folder entries =>
    if Disk.maxPathSize ≤ (disk.path path).utf8ByteSize then []
    else entries.flatMap (ownPath disk f path) ++ innerPaths path entries
  | _ => []

/-- The paths of the files that are visited below the entries of a folder. -/
def innerPaths (path : String) : List (String × Node) → List String
  | [] => []
  | (name, n) :: rest =>
    (if isPruned name then [] else sourcePaths (below path name) n) ++ innerPaths path rest

end

/-- The visited paths below one entry of a folder. -/
def pathsBelow (p : String × Node) : List String :=
  if isPruned p.1 then [] else sourcePaths disk f (below path p.1) p.2

theorem innerPaths_eq (es : List (String × Node)) :
  innerPaths disk f path es = es.flatMap (pathsBelow disk f path)
  := by
  induction es with
  | nil => rfl
  | cons p es ih => rw [innerPaths, ih, List.flatMap_cons, pathsBelow]

/-! ### Reports -/

/-- The file at a path, if it can be read and is not too large. -/
def foundAt? : Option SourceFile :=
  match disk.content (disk.path path) with
  | .ok c => if f.maxSize < (c.size : Int) then none else some ⟨path, c.readLossy⟩
  | .error _ => none

/-- The file at a path can be read but is too large. -/
def isLargeAt : Bool :=
  match disk.content (disk.path path) with
  | .ok c => f.maxSize < (c.size : Int)
  | .error _ => false

/-- The report of a file that cannot be read. -/
def flawAt? : Option String :=
  match disk.content (disk.path path) with
  | .ok _ => none
  | .error refusal => some (path ++ ": " ++ refusal.message)

/-- What a walk reports of the files at some paths. -/
def Walk.ofPaths (paths : List String) : Walk :=
  ⟨paths.filterMap (foundAt? disk f), paths.filter (isLargeAt disk f), paths.filterMap (flawAt? disk)⟩

theorem Walk.ofPaths_append (paths paths' : List String) :
  ofPaths disk f (paths ++ paths') = (ofPaths disk f paths).append (ofPaths disk f paths')
  := by
  simp [ofPaths, Walk.append]

theorem visitFile_eq_ofPaths :
  visitFile f path (disk.content (disk.path path)) = .ofPaths disk f [path]
  := by
  cases hcontent : disk.content (disk.path path) with
  | error refusal =>
    simp [visitFile, Walk.ofPaths, foundAt?, isLargeAt, flawAt?, hcontent, Walk.empty]
  | ok c =>
    by_cases hlarge : f.maxSize < (c.size : Int)
    · simp [visitFile, Walk.ofPaths, foundAt?, isLargeAt, flawAt?, hcontent, hlarge, Walk.empty]
    · simp [visitFile, Walk.ofPaths, foundAt?, isLargeAt, flawAt?, hcontent, hlarge, Walk.empty]

theorem visitFiles_eq_ofPaths (es : List (String × Node)) :
  visitFiles disk f path es = .ofPaths disk f (es.flatMap (ownPath disk f path))
  := by
  induction es with
  | nil => rfl
  | cons p es ih =>
    obtain ⟨name, node⟩ := p
    rw [visitFiles] at ih
    rw [visitFiles, List.foldr_cons, List.flatMap_cons, Walk.ofPaths_append, ← ih, ownPath]
    simp only
    split
    · rfl
    · rw [visitFile_eq_ofPaths]

theorem walkFolders_eq_ofPaths {es : List (String × Node)}
    (h : ∀ p ∈ es, ∀ path, walkNode disk f path p.2 = .ofPaths disk f (sourcePaths disk f path p.2)) :
  walkFolders disk f path es = .ofPaths disk f (innerPaths disk f path es)
  := by
  induction es with
  | nil => rfl
  | cons p es ih =>
    obtain ⟨name, node⟩ := p
    rw [walkFolders, innerPaths, Walk.ofPaths_append,
      ih fun q hq => h q (List.mem_cons_of_mem _ hq)]
    split
    · rfl
    · rw [h (name, node) List.mem_cons_self]

/-- A walk reports of each file that it visits. -/
theorem walkNode_eq_ofPaths (n : Node) :
  walkNode disk f path n = .ofPaths disk f (sourcePaths disk f path n)
  := by
  induction n using Node.induction generalizing path with
  | file c => simp [walkNode, sourcePaths, Walk.ofPaths, Walk.empty]
  | link t => simp [walkNode, sourcePaths, Walk.ofPaths, Walk.empty]
  | folder es ih =>
    rw [walkNode, sourcePaths]
    split
    · rfl
    · rw [visitFiles_eq_ofPaths, walkFolders_eq_ofPaths disk f path fun p hp path => ih p hp path,
        Walk.ofPaths_append]

end

variable {disk : Disk} {f : Filter} {path : String}

/-- A visited path of a folder is that of a file in it, or stands below one of its entries. -/
theorem mem_sourcePaths_folder_iff {es : List (String × Node)} {shown : String} :
  shown ∈ sourcePaths disk f path (.folder es)
    ↔ (disk.path path).utf8ByteSize < Disk.maxPathSize
      ∧ ∃ p ∈ es, shown ∈ ownPath disk f path p ∨ shown ∈ pathsBelow disk f path p
  := by
  rw [sourcePaths, innerPaths_eq]
  split
  next hlong =>
    constructor
    · exact fun h => absurd h List.not_mem_nil
    · exact fun h => absurd hlong (Nat.not_le.2 h.1)
  next hshort =>
    rw [List.mem_append, List.mem_flatMap, List.mem_flatMap, ← exists_or]
    simp only [← and_or_left, Nat.lt_of_not_le hshort, true_and]

/-- Nothing is visited below an entry that is pruned. -/
theorem mem_pathsBelow_iff {p : String × Node} {shown : String} :
  shown ∈ pathsBelow disk f path p
    ↔ isPruned p.1 = false ∧ shown ∈ sourcePaths disk f (below path p.1) p.2
  := by
  rw [pathsBelow]
  split
  next hpruned => simp [hpruned]
  next hpruned => simp [hpruned]

theorem mem_ownPath_iff {p : String × Node} {shown : String} :
  shown ∈ ownPath disk f path p
    ↔ shown = below path p.1 ∧ isFolderAt disk (disk.path shown) p.2 = false
      ∧ f.accepts p.1 = true
  := by
  rw [ownPath]
  split
  next hwalked =>
    simp only [List.not_mem_nil, false_iff]
    rintro ⟨rfl, hfolder, haccepts⟩
    simp [hfolder, haccepts] at hwalked
  next hwalked =>
    simp only [Bool.or_eq_true, Bool.not_eq_true', not_or, Bool.not_eq_true,
      Bool.not_eq_false] at hwalked
    rw [List.mem_singleton]
    constructor
    · rintro rfl
      exact ⟨rfl, hwalked⟩
    · exact fun h => h.1

/-! ### Reading walked files -/

theorem foundAt?_eq_some {shown : String} {file : SourceFile}
    (h : foundAt? disk f shown = some file) :
  file.path = shown ∧ ∃ c, disk.content (disk.path file.path) = .ok c ∧ c.readLossy = file.text
  := by
  rw [foundAt?] at h
  split at h
  next c hc =>
    split at h
    · contradiction
    · cases h
      exact ⟨rfl, c, hc, rfl⟩
  · contradiction

/-- What a walk finds is found from a folder of the disk. -/
theorem walk_cases {folder : String} {extensions : List String} {maxMegabytes : Int}
    {found : Walk} (h : walk disk folder extensions maxMegabytes = .ok found) :
  found.files = [] ∨ ∃ f place n, disk.tree.at? place = some n ∧
    found = .ofPaths disk f (sourcePaths disk f (normalPath folder) n.arranged)
  := by
  rw [walk] at h
  split at h
  next place n hspot =>
    cases h
    right
    rw [Disk.spot, meaning_eq_ok_iff] at hspot
    have hleads := leads_of_reachFrom hspot.2
    exact ⟨_, place, n, hleads.at?_place, walkNode_eq_ofPaths disk _ _ _⟩
  · cases h
    left
    rfl
  · split at h
    · cases h
      left
      rfl
    · contradiction

/-- A walked file has the text that is read at its path. -/
theorem readable_of_walk {folder : String} {extensions : List String} {maxMegabytes : Int}
    {found : Walk} (h : walk disk folder extensions maxMegabytes = .ok found) {file : SourceFile}
    (hfile : file ∈ found.files) :
  ∃ c, disk.content (disk.path file.path) = .ok c ∧ c.readLossy = file.text
  := by
  obtain hnil | ⟨f, place, n, -, rfl⟩ := walk_cases h
  · rw [hnil] at hfile
    contradiction
  · obtain ⟨shown, -, hfound⟩ := List.mem_filterMap.1 hfile
    exact (foundAt?_eq_some hfound).2

/-! ### Paths of visited files -/

/-- What stands before the names of entries in the paths of visited files. -/
def beforeEntries (path : String) : List Char :=
  if path = "" then [] else path.toList ++ ['/']

theorem toList_below (path name : String) :
  (below path name).toList = beforeEntries path ++ name.toList
  := by
  rw [below, beforeEntries]
  split
  · rfl
  · simp

theorem beforeEntries_below {name : String} (hname : name ≠ "") (path : String) :
  beforeEntries (below path name) = beforeEntries path ++ name.toList ++ ['/']
  := by
  have hne : below path name ≠ "" := by
    intro h
    have hlist := toList_below path name
    rw [h] at hlist
    have hnil := (List.append_eq_nil_iff.1 hlist.symm).2
    apply hname
    apply String.toList_injective hnil
  rw [beforeEntries, if_neg hne, toList_below]

/-- The name in a path after that of the folder. -/
def firstName (path walked : String) : List Char :=
  (walked.toList.drop (beforeEntries path).length).takeWhile (· != '/')

theorem prefix_of_mem_sourcePaths {n : Node} (hn : n.isProper = true) {shown : String}
    (h : shown ∈ sourcePaths disk f path n) :
  beforeEntries path <+: shown.toList
  := by
  induction n using Node.induction generalizing path with
  | file c => simp [sourcePaths] at h
  | link t => simp [sourcePaths] at h
  | folder es ih =>
    obtain ⟨-, p, hp, hown | hbelow⟩ := mem_sourcePaths_folder_iff.1 h
    · rw [(mem_ownPath_iff.1 hown).1, toList_below]
      apply List.prefix_append
    · obtain ⟨hname, hproper⟩ := (properEntries_iff.1 hn).2 p hp
      have hinside := ih p hp hproper (mem_pathsBelow_iff.1 hbelow).2
      rw [beforeEntries_below hname.ne_empty, List.append_assoc] at hinside
      apply (List.prefix_append _ _).trans hinside

/-- The paths of the files that an entry is or that are below it go on with its name. -/
theorem firstName_of_mem_entryPaths {p : String × Node} (hname : IsEntryName p.1)
    (hproper : p.2.isProper = true) {shown : String}
    (h : shown ∈ ownPath disk f path p ++ pathsBelow disk f path p) :
  firstName path shown = p.1.toList
  := by
  have hsolid : ∀ c ∈ p.1.toList, (c != '/') = true := by
    intro c hc
    rw [bne_iff_ne]
    rintro rfl
    apply hname.noStroke hc
  obtain hown | hbelow := List.mem_append.1 h
  · rw [firstName, (mem_ownPath_iff.1 hown).1, toList_below, List.drop_left,
      List.takeWhile_eq_self_iff.2 hsolid]
  · obtain ⟨rest, hrest⟩ := prefix_of_mem_sourcePaths hproper (mem_pathsBelow_iff.1 hbelow).2
    rw [beforeEntries_below hname.ne_empty] at hrest
    rw [firstName, ← hrest, List.append_assoc, List.append_assoc, List.drop_left,
      List.takeWhile_append_of_pos hsolid]
    simp

/-- An entry that is a visited file has no visited files below it, and is one file. -/
theorem nodup_entryPaths {p : String × Node}
    (hbelow : (sourcePaths disk f (below path p.1) p.2).Nodup) :
  (ownPath disk f path p ++ pathsBelow disk f path p).Nodup
  := by
  cases hown : ownPath disk f path p with
  | nil =>
    rw [List.nil_append, pathsBelow]
    split
    · apply List.nodup_nil
    · exact hbelow
  | cons shown rest =>
    have hmem : shown ∈ ownPath disk f path p := by
      rw [hown]
      exact List.mem_cons_self
    have hnone : pathsBelow disk f path p = [] := by
      have hnode := (mem_ownPath_iff.1 hmem).2.1
      rw [pathsBelow]
      split
      · rfl
      · cases hp : p.2 with
        | folder es =>
          rw [hp] at hnode
          contradiction
        | file c => simp [sourcePaths]
        | link t => simp [sourcePaths]
    rw [ownPath] at hown
    split at hown
    · contradiction
    · cases hown
      rw [hnone]
      apply List.nodup_singleton

/-- In a proper tree no path is visited twice. -/
theorem nodup_sourcePaths {n : Node} (hn : n.isProper = true) :
  (sourcePaths disk f path n).Nodup
  := by
  induction n using Node.induction generalizing path with
  | file c => simp [sourcePaths]
  | link t => simp [sourcePaths]
  | folder es ih =>
    rw [sourcePaths]
    split
    · apply List.nodup_nil
    rw [Node.isProper, properEntries_iff] at hn
    obtain ⟨hnodup, hproper⟩ := hn
    rw [innerPaths_eq, (List.flatMap_append_perm es _ _).nodup_iff, List.nodup_flatMap]
    constructor
    · intro p hp
      apply nodup_entryPaths
      apply ih p hp (hproper p hp).2
    · apply (List.pairwise_map.1 hnodup).imp_of_mem
      intro p q hp hq hne shown hshown hshown'
      have hfirst := firstName_of_mem_entryPaths (hproper p hp).1 (hproper p hp).2 hshown
      have hfirst' := firstName_of_mem_entryPaths (hproper q hq).1 (hproper q hq).2 hshown'
      rw [hfirst] at hfirst'
      apply hne (String.toList_injective hfirst')

/-- The files that are found stand at visited paths, in their order. -/
theorem map_path_ofPaths_sublist (paths : List String) :
  ((Walk.ofPaths disk f paths).files.map (·.path)).Sublist paths
  := by
  induction paths with
  | nil => exact .refl _
  | cons shown paths ih =>
    rw [Walk.ofPaths] at ih ⊢
    cases hfound : foundAt? disk f shown with
    | none =>
      simp only [List.filterMap_cons_none hfound]
      exact ih.cons shown
    | some file =>
      simp only [List.filterMap_cons_some hfound, List.map_cons, (foundAt?_eq_some hfound).1]
      exact ih.cons_cons shown

/-- In a proper tree no path is walked twice. -/
theorem nodup_walk (hproper : disk.tree.isProper = true) {folder : String}
    {extensions : List String} {maxMegabytes : Int} {found : Walk}
    (h : walk disk folder extensions maxMegabytes = .ok found) :
  (found.files.map (·.path)).Nodup
  := by
  obtain hnil | ⟨f, place, n, hn, rfl⟩ := walk_cases h
  · rw [hnil]
    apply List.nodup_nil
  · apply (nodup_sourcePaths _).sublist (map_path_ofPaths_sublist _)
    apply isProper_arranged
    apply isProper_at? hproper hn

end AnchorIndex.Files

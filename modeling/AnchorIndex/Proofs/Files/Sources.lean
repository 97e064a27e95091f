import AnchorIndex.Proofs.Files.Arranging

/-!
# Sources of a program

A source is a file below the folder of the program that has one of the extensions and does not
stand below a pruned folder (`IsSource`). A walk visits each source once, wherever the system lists
the folders on the way, and reports it as found, as too large or as unreadable, whatever the order
in which folders list their entries (`sources_of_walk`). A folder whose path is too long is not
listed, and what is below it is passed over (`missed_below_longPath`).
-/

namespace AnchorIndex.Files

/-- The path of a place below the entry at a path. -/
def belowAll (path : String) (place : Place) : String :=
  place.foldl below path

/-- A file with one of the extensions is in a folder of an entry, and none of the folders on the way
to it is pruned. -/
structure IsSource (disk : Disk) (f : Filter) (path : String) (n : Node) (folders : Place)
    (name : String) (node : Node) : Prop where
  entry : n.at? (folders ++ [name]) = some node
  file : isFolderAt disk (disk.path (belowAll path (folders ++ [name]))) node = false
  accepted : f.accepts name = true
  unpruned : ∀ folder ∈ folders, isPruned folder = false

/-- The paths of all folders on a way are short enough for the system to list them. -/
def Listable (disk : Disk) (path : String) (folders : Place) : Prop :=
  ∀ front, front <+: folders →
    (disk.path (belowAll path front)).utf8ByteSize < Disk.maxPathSize

section

variable {disk : Disk} {f : Filter} {path : String} {folders : Place} {name : String} {n node : Node}

theorem listable_nil_iff :
  Listable disk path [] ↔ (disk.path path).utf8ByteSize < Disk.maxPathSize
  := by
  constructor
  · exact fun h => h [] List.prefix_rfl
  · intro h front hfront
    rw [List.prefix_nil.1 hfront]
    exact h

theorem listable_cons_iff :
  Listable disk path (name :: folders)
    ↔ (disk.path path).utf8ByteSize < Disk.maxPathSize ∧ Listable disk (below path name) folders
  := by
  constructor
  · intro h
    refine ⟨h [] List.nil_prefix, fun front hfront => ?_⟩
    exact h (name :: front) (List.cons_prefix_cons.2 ⟨rfl, hfront⟩)
  · rintro ⟨hpath, hbelow⟩ front hfront
    cases front with
    | nil => exact hpath
    | cons name' front =>
      obtain ⟨rfl, hrest⟩ := List.cons_prefix_cons.1 hfront
      exact hbelow front hrest

/-- Only a folder has sources. -/
theorem IsSource.exists_entries (h : IsSource disk f path n folders name node) :
  ∃ es, n = .folder es
  := by
  have hentry := h.entry
  cases n with
  | folder es => exact ⟨es, rfl⟩
  | file c => cases folders <;> contradiction
  | link t => cases folders <;> contradiction

/-- The sources in a folder itself are the files in it that have one of the extensions. -/
theorem isSource_nil_iff {es : List (String × Node)} :
  IsSource disk f path (.folder es) [] name node
    ↔ es.lookup name = some node ∧ isFolderAt disk (disk.path (below path name)) node = false
      ∧ f.accepts name = true
  := by
  have hentry : (Node.folder es).at? [name] = es.lookup name := by
    rw [Node.at?_cons_folder]
    exact Option.bind_fun_some _
  constructor
  · rintro ⟨hat, hfile, haccepted, -⟩
    exact ⟨hentry.symm.trans hat, hfile, haccepted⟩
  · rintro ⟨hlookup, hfile, haccepted⟩
    exact ⟨hentry.trans hlookup, hfile, haccepted,
      fun folder hfolder => absurd hfolder List.not_mem_nil⟩

/-- The sources below a folder are those of its entries that are not pruned. -/
theorem isSource_cons_iff {es : List (String × Node)} {top : String} :
  IsSource disk f path (.folder es) (top :: folders) name node
    ↔ isPruned top = false ∧ ∃ child, es.lookup top = some child
      ∧ IsSource disk f (below path top) child folders name node
  := by
  constructor
  · rintro ⟨hentry, hfile, haccepted, hunpruned⟩
    obtain ⟨_, child, heq, hchild, hentry⟩ := Node.at?_cons_eq_some hentry
    cases heq
    exact ⟨hunpruned top List.mem_cons_self, child, hchild, hentry, hfile, haccepted,
      fun folder hfolder => hunpruned folder (List.mem_cons_of_mem top hfolder)⟩
  · rintro ⟨htop, child, hchild, hentry, hfile, haccepted, hunpruned⟩
    refine ⟨?_, hfile, haccepted, List.forall_mem_cons.2 ⟨htop, hunpruned⟩⟩
    rw [List.cons_append, Node.at?, Node.child?, hchild]
    exact hentry

/-- In a proper tree the visited paths are those of the sources, wherever the system lists the
folders on the way. -/
theorem mem_sourcePaths_iff (hn : n.isProper = true) {shown : String} :
  shown ∈ sourcePaths disk f path n
    ↔ ∃ folders name node, shown = belowAll path (folders ++ [name])
      ∧ IsSource disk f path n folders name node ∧ Listable disk path folders
  := by
  induction n using Node.induction generalizing path with
  | file c =>
    constructor
    · simp [sourcePaths]
    · rintro ⟨_, _, _, -, hsource, -⟩
      obtain ⟨es, heq⟩ := hsource.exists_entries
      contradiction
  | link t =>
    constructor
    · simp [sourcePaths]
    · rintro ⟨_, _, _, -, hsource, -⟩
      obtain ⟨es, heq⟩ := hsource.exists_entries
      contradiction
  | folder es ih =>
    rw [Node.isProper, properEntries_iff] at hn
    obtain ⟨hnodup, hproper⟩ := hn
    rw [mem_sourcePaths_folder_iff]
    constructor
    · rintro ⟨hshort, ⟨name, node⟩, hp, hown | hbelow⟩
      · obtain ⟨hshown, hfile, haccepted⟩ := mem_ownPath_iff.1 hown
        rw [hshown] at hfile
        refine ⟨[], name, node, hshown, isSource_nil_iff.2 ?_, listable_nil_iff.2 hshort⟩
        exact ⟨(lookup_eq_some_iff_mem hnodup).2 hp, hfile, haccepted⟩
      · obtain ⟨hpruned, hbelow⟩ := mem_pathsBelow_iff.1 hbelow
        obtain ⟨folders, last, node', hshown, hsource, hlist⟩ :=
          (ih _ hp (hproper _ hp).2).1 hbelow
        refine ⟨name :: folders, last, node', hshown, ?_, listable_cons_iff.2 ⟨hshort, hlist⟩⟩
        apply isSource_cons_iff.2
        exact ⟨hpruned, node, (lookup_eq_some_iff_mem hnodup).2 hp, hsource⟩
    · rintro ⟨folders, name, node, hshown, hsource, hlist⟩
      cases folders with
      | nil =>
        obtain ⟨hlookup, hfile, haccepted⟩ := isSource_nil_iff.1 hsource
        refine ⟨listable_nil_iff.1 hlist, (name, node), mem_of_lookup_eq_some hlookup, .inl ?_⟩
        rw [mem_ownPath_iff, hshown]
        exact ⟨rfl, hfile, haccepted⟩
      | cons top folders =>
        obtain ⟨hpruned, child, hchild, hsource⟩ := isSource_cons_iff.1 hsource
        obtain ⟨hshort, hlist⟩ := listable_cons_iff.1 hlist
        have hp := mem_of_lookup_eq_some hchild
        refine ⟨hshort, (top, child), hp, .inr ?_⟩
        rw [mem_pathsBelow_iff, ih _ hp (hproper _ hp).2]
        exact ⟨hpruned, folders, name, node, hshown, hsource, hlist⟩

/-- The sources are the same when the entries are in order. -/
theorem isSource_arranged_iff (hn : n.isProper = true) :
  IsSource disk f path n.arranged folders name node
    ↔ ∃ node', node'.arranged = node ∧ IsSource disk f path n folders name node'
  := by
  have hfolder : ∀ (full : String) (node' : Node),
      isFolderAt disk full node'.arranged = isFolderAt disk full node' := by
    rintro full (_ | _ | _) <;> rfl
  constructor
  · rintro ⟨hentry, hfile, haccepted, hunpruned⟩
    rw [at?_arranged hn] at hentry
    obtain ⟨node', hnode', rfl⟩ := Option.map_eq_some_iff.1 hentry
    rw [hfolder] at hfile
    exact ⟨node', rfl, hnode', hfile, haccepted, hunpruned⟩
  · rintro ⟨node', rfl, hentry, hfile, haccepted, hunpruned⟩
    refine ⟨?_, ?_, haccepted, hunpruned⟩
    · rw [at?_arranged hn, hentry, Option.map_some]
    · rw [hfolder]
      exact hfile

/-- A file at a path is reported in one of three ways. -/
theorem count_reports (shown : String) :
  [(foundAt? disk f shown).isSome, isLargeAt disk f shown, (flawAt? disk shown).isSome].count true
    = 1
  := by
  rw [foundAt?, isLargeAt, flawAt?]
  cases disk.content (disk.path shown) with
  | error refusal => rfl
  | ok c =>
    by_cases hlarge : f.maxSize < (c.size : Int)
    · simp [hlarge]
    · simp [hlarge]

end

/-! ### Programs that are reached by detours -/

/-- A folder is entered and left again a number of times, and then entered. -/
def detour (times : Nat) : Place :=
  match times with
  | 0 => ["programs"]
  | times + 1 => "programs" :: ".." :: detour times

theorem detour_ne_nil (times : Nat) :
  detour times ≠ []
  := by
  cases times <;> apply List.cons_ne_nil

theorem mem_detour {times : Nat} {name : String} (h : name ∈ detour times) :
  name = "programs" ∨ name = ".."
  := by
  induction times with
  | zero => exact .inl (List.mem_singleton.1 h)
  | succ times ih =>
    rw [detour, List.mem_cons, List.mem_cons] at h
    obtain rfl | rfl | h := h
    · exact .inl rfl
    · exact .inr rfl
    · exact ih h

theorem ofText_text_detour (times : Nat) :
  Place.ofText (detour times).text = detour times
  := by
  apply Place.ofText_text
  intro name hname
  obtain rfl | rfl := mem_detour hname <;> decide +kernel

theorem utf8ByteSize_text_detour (times : Nat) :
  (detour times).text.utf8ByteSize = 12 * times + 8
  := by
  induction times with
  | zero => decide +kernel
  | succ times ih =>
    have hprograms : "programs".utf8ByteSize = 8 := by decide +kernel
    have hdots : "..".utf8ByteSize = 2 := by decide +kernel
    rw [detour, Place.utf8ByteSize_text_cons, Place.utf8ByteSize_text_cons,
      if_neg (List.cons_ne_nil _ _), if_neg (detour_ne_nil times), ih, hprograms, hdots]
    omega

/-- A disk with a program. -/
def programDisk (program : List (String × Node)) : Disk :=
  ⟨"/", .folder [("programs", .folder program)]⟩

theorem path_programDisk (program : List (String × Node)) (path : String) :
  (programDisk program).path path = joinPath "/" path
  := rfl

theorem leads_detour (program : List (String × Node)) (links times : Nat) :
  Leads (programDisk program).tree links [] (detour times) ⟨["programs"], some (.folder program)⟩
  := by
  have hstep : IsStep "programs" := by
    refine ⟨by decide, by decide, by decide +kernel⟩
  induction times with
  | zero => exact .down rfl hstep rfl (fun _ => Node.noConfusion) (.stay links ["programs"])
  | succ times ih =>
    apply Leads.down rfl hstep rfl (fun _ => Node.noConfusion)
    apply Leads.dots rfl ih

theorem isShortPath_detour (program : List (String × Node)) {times : Nat} (h : times ≤ 340) :
  IsShortPath ((programDisk program).path (detour times).text)
  := by
  rw [path_programDisk]
  constructor
  · have htop : isPath "/" = true := by decide
    apply isPath_joinPath_of_isPath htop
    apply Place.isPath_text
    intro name hname
    obtain rfl | rfl := mem_detour hname <;> decide
  · have hsize := utf8ByteSize_joinPath_le_add "/" (detour times).text
    have htop : "/".utf8ByteSize = 1 := by decide +kernel
    rw [utf8ByteSize_text_detour] at hsize
    rw [Disk.maxPathSize]
    omega

theorem spot_detour (program : List (String × Node)) {times : Nat} (h : times ≤ 340) :
  (programDisk program).spot ((programDisk program).path (detour times).text)
    = .ok ⟨["programs"], some (.folder program)⟩
  := by
  apply (isShortPath_detour program h).spot_eq
  rw [path_programDisk, ofText_joinPath_top, ofText_text_detour]
  exact leads_detour program maxLinks times

/-- A walk visits each source once, and no other path, wherever the system lists the folders on the
way to the source. Each visited file is reported as found, as too large or as unreadable. The order
in which folders list their entries does not count. -/
theorem sources_of_walk {disk : Disk} (hproper : disk.tree.isProper = true) {folder : String}
    {place : Place} {es : List (String × Node)}
    (hfolder : disk.spot (disk.path folder) = .ok ⟨place, some (.folder es)⟩)
    (extensions : List String) (maxMegabytes : Int) :
  let f : Filter := ⟨extensions.map Text.lower, maxMegabytes * 1024 * 1024⟩
  ∃ paths : List String, paths.Nodup
    ∧ (∀ shown, shown ∈ paths
      ↔ ∃ folders name node, shown = belowAll (normalPath folder) (folders ++ [name])
        ∧ IsSource disk f (normalPath folder) (.folder es) folders name node
        ∧ Listable disk (normalPath folder) folders)
    ∧ (∀ shown ∈ paths, [(foundAt? disk f shown).isSome, isLargeAt disk f shown,
        (flawAt? disk shown).isSome].count true = 1)
    ∧ walk disk folder extensions maxMegabytes
      = .ok ⟨paths.filterMap (foundAt? disk f), paths.filter (isLargeAt disk f),
          paths.filterMap (flawAt? disk)⟩
    ∧ ∀ tree, disk.tree.Reordered tree →
      walk ⟨disk.folder, tree⟩ folder extensions maxMegabytes
        = walk disk folder extensions maxMegabytes
  := by
  intro f
  have hes : (Node.folder es).isProper = true := by
    rw [Disk.spot, meaning_eq_ok_iff] at hfolder
    apply isProper_at? hproper (leads_of_reachFrom hfolder.2).at?_place
  refine ⟨sourcePaths disk f (normalPath folder) (Node.folder es).arranged,
    nodup_sourcePaths (isProper_arranged hes), ?_, fun shown _ => count_reports shown, ?_, ?_⟩
  · intro shown
    rw [mem_sourcePaths_iff (isProper_arranged hes)]
    simp only [isSource_arranged_iff hes]
    constructor
    · rintro ⟨folders, name, _, hshown, ⟨node, rfl, hsource⟩, hlist⟩
      exact ⟨folders, name, node, hshown, hsource, hlist⟩
    · rintro ⟨folders, name, node, hshown, hsource, hlist⟩
      exact ⟨folders, name, node.arranged, hshown, ⟨node, rfl, hsource⟩, hlist⟩
  · rw [walk, hfolder]
    exact congrArg Except.ok (walkNode_eq_ofPaths disk f _ _)
  · intro tree htree
    apply walk_eq_of_reordered hproper htree

/-- A program with a source that can be read, one that is too large if no byte is allowed, one that
is missing, and one in a pruned folder. -/
def mixedProgram : List (String × Node) :=
  [("lib.rs", .file (.text "")), ("gone.rs", .link "nowhere.rs"),
    ("dist", .folder [("made.rs", .file (.text ""))]), ("Big.RS", .file (.text "x"))]

theorem sources_of_walk_mixedProgram :
  (programDisk mixedProgram).tree.isProper = true
    ∧ (programDisk mixedProgram).spot ((programDisk mixedProgram).path (detour 1).text)
      = .ok ⟨["programs"], some (.folder mixedProgram)⟩
    ∧ ∃ paths : List String, paths.Nodup
      ∧ belowAll (normalPath (detour 1).text) ["lib.rs"] ∈ paths
      ∧ walk (programDisk mixedProgram) (detour 1).text [".rs"] 0
        = .ok ⟨paths.filterMap (foundAt? (programDisk mixedProgram) ⟨[".rs"], 0⟩),
          paths.filter (isLargeAt (programDisk mixedProgram) ⟨[".rs"], 0⟩),
          paths.filterMap (flawAt? (programDisk mixedProgram))⟩
  := by
  have hproper : (programDisk mixedProgram).tree.isProper = true := by decide +kernel
  have hspot := spot_detour mixedProgram (show 1 ≤ 340 by omega)
  obtain ⟨paths, hnodup, hpaths, -, hwalk, -⟩ := sources_of_walk hproper hspot [".rs"] 0
  refine ⟨hproper, hspot, paths, hnodup, (hpaths _).2 ?_, hwalk⟩
  refine ⟨[], "lib.rs", .file (.text ""), rfl, ⟨rfl, rfl, by decide +kernel, ?_⟩, ?_⟩
  · exact fun folder hfolder => absurd hfolder List.not_mem_nil
  · rw [listable_nil_iff, path_programDisk]
    have hnormal := utf8ByteSize_normalPath_le (detour 1).text
    have hsize := utf8ByteSize_joinPath_le_add "/" (normalPath (detour 1).text)
    have htop : "/".utf8ByteSize = 1 := by decide +kernel
    rw [utf8ByteSize_text_detour] at hnormal
    rw [Disk.maxPathSize]
    omega

/-- A program whose only source stands in a folder of its folder. -/
def nestedProgram : List (String × Node) :=
  [("lending", .folder [("lib.rs", .file (.text "fn f() {}"))])]

/-- The folder of the source has a path that is too long. -/
theorem size_below_detour :
  Disk.maxPathSize ≤ (joinPath "/" (below (normalPath (detour 340).text) "lending")).utf8ByteSize
  := by
  have hne : normalPath (detour 340).text ≠ "" := by
    intro hempty
    have hplace := ofText_normalPath (detour 340).text
    rw [hempty, Place.ofText_empty, ofText_text_detour] at hplace
    exact detour_ne_nil 340 hplace.symm
  have hlast : Place.ofText "lending" = ["lending"] := by decide +kernel
  have hplace : Place.ofText (below (normalPath (detour 340).text) "lending")
      = detour 340 ++ ["lending"] := by
    rw [below, if_neg hne, Place.ofText_append_stroke, ofText_normalPath, ofText_text_detour, hlast]
  have hsize : "lending".utf8ByteSize = 7 := by decide +kernel
  have hle := utf8ByteSize_text_le_joinPath "/" (below (normalPath (detour 340).text) "lending")
  rw [hplace, Place.utf8ByteSize_text_concat (detour_ne_nil 340), utf8ByteSize_text_detour,
    hsize] at hle
  exact hle

/-- A source whose folder has a path that is too long is reported nowhere. -/
theorem missed_below_longPath :
  (programDisk nestedProgram).tree.isProper = true
    ∧ (programDisk nestedProgram).spot ((programDisk nestedProgram).path (detour 340).text)
      = .ok ⟨["programs"], some (.folder nestedProgram)⟩
    ∧ IsSource (programDisk nestedProgram) ⟨[".rs"], 5 * 1024 * 1024⟩ (normalPath (detour 340).text)
      (.folder nestedProgram) ["lending"] "lib.rs" (.file (.text "fn f() {}"))
    ∧ walk (programDisk nestedProgram) (detour 340).text [".rs"] 5 = .ok Walk.empty
  := by
  refine ⟨by decide +kernel, spot_detour _ (Nat.le_refl 340), ⟨rfl, rfl, by decide +kernel, ?_⟩, ?_⟩
  · intro folder hfolder
    rw [List.mem_singleton.1 hfolder]
    decide
  · have harranged : (Node.folder nestedProgram).arranged = .folder nestedProgram := by
      simp [nestedProgram, Node.arranged, arrangedEntries, byName]
    have hnothing : ∀ f, sourcePaths (programDisk nestedProgram) f (normalPath (detour 340).text)
        (.folder nestedProgram) = [] := by
      intro f
      have hbelow : innerPaths (programDisk nestedProgram) f (normalPath (detour 340).text)
          nestedProgram = [] := by
        rw [nestedProgram, innerPaths, innerPaths, sourcePaths, ← nestedProgram, path_programDisk,
          if_pos size_below_detour]
        rfl
      rw [sourcePaths, hbelow]
      split
      · rfl
      · rw [nestedProgram]
        simp [ownPath, isFolderAt]
    rw [walk, spot_detour _ (Nat.le_refl 340)]
    simp only [harranged, walkNode_eq_ofPaths, hnothing]
    rfl

end AnchorIndex.Files

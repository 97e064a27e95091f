import AnchorIndex.Proofs.CallGraph.OrderedSet
import AnchorIndex.Proofs.Datum.Entries
import AnchorIndex.Proofs.Files.Walking

/-!
# The order of entries

A file system lists the entries of a folder in any order. Trees that differ in such orders only
(`Node.Reordered`) are the same once all entries are in the order of their names
(`Node.Reordered.arranged_eq`). A tree with its entries in order has the same files at the same
paths (`content_eq_of_arranged_eq`), so a walk does not depend on the order of entries
(`walk_eq_of_reordered`).
-/

namespace AnchorIndex.Files

/-- Two trees are the same but for the order of the entries in some folders. -/
inductive Node.Reordered : Node → Node → Prop
  | refl (n : Node) : Reordered n n
  | perm {es es' : List (String × Node)} (h : es.Perm es') : Reordered (.folder es) (.folder es')
  /-- Below one entry of a folder. -/
  | entry {n n' : Node} (h : Reordered n n') (name : String) (front back : List (String × Node)) :
    Reordered (.folder (front ++ (name, n) :: back)) (.folder (front ++ (name, n') :: back))
  | trans {a b c : Node} (h : Reordered a b) (h' : Reordered b c) : Reordered a c

/-! ### Entries in order -/

section

variable {es es' : List (String × Node)}

theorem byName_perm (es : List (String × Node)) :
  (byName es).Perm es
  := List.mergeSort_perm es _

theorem pairwise_byName (es : List (String × Node)) :
  (byName es).Pairwise fun p q => p.1 ≤ q.1
  := by
  have htrans : ∀ a b c : String × Node, decide (a.1 ≤ b.1) = true → decide (b.1 ≤ c.1) = true →
      decide (a.1 ≤ c.1) = true := by
    intro a b c hab hbc
    simp only [decide_eq_true_eq] at hab hbc ⊢
    apply String.le_trans hab hbc
  have htotal : ∀ a b : String × Node, (decide (a.1 ≤ b.1) || decide (b.1 ≤ a.1)) = true := by
    intro a b
    simpa using String.le_total a.1 b.1
  simpa [byName] using List.pairwise_mergeSort htrans htotal es

/-- Entries with distinct names have one order of their names. -/
theorem byName_eq_of_perm (h : es.Perm es') (hn : (es.map Prod.fst).Nodup) :
  byName es = byName es'
  := by
  have hperm : (byName es).Perm (byName es') :=
    (byName_perm es).trans (h.trans (byName_perm es').symm)
  apply hperm.eq_of_pairwise _ (pairwise_byName es) (pairwise_byName es')
  intro p q hp hq hle hle'
  have hp' : p ∈ es := (byName_perm es).mem_iff.1 hp
  have hq' : q ∈ es := h.mem_iff.2 ((byName_perm es').mem_iff.1 hq)
  apply List.inj_on_of_nodup_map hn hp' hq' (String.le_antisymm hle hle')

theorem lookup_arranged (hn : (es.map Prod.fst).Nodup) (name : String) :
  (byName (arrangedEntries es)).lookup name = (es.lookup name).map Node.arranged
  := by
  have hkeys : ((arrangedEntries es).map Prod.fst).Nodup := by
    rw [arrangedEntries_eq, List.map_map]
    exact hn
  rw [← lookup_eq_of_perm (byName_perm _).symm hkeys, arrangedEntries_eq, lookup_map_snd]

end

theorem Node.Reordered.isProper {n n' : Node} (h : n.Reordered n') (hn : n.isProper = true) :
  n'.isProper = true
  := by
  induction h with
  | refl n => exact hn
  | perm h =>
    rw [Node.isProper, properEntries_iff] at hn ⊢
    use (h.map Prod.fst).nodup_iff.1 hn.1
    intro p hp
    apply hn.2 p (h.mem_iff.2 hp)
  | @entry n n' _ name front back ih =>
    rw [Node.isProper, properEntries_iff] at hn ⊢
    constructor
    · simpa using hn.1
    · intro p hp
      obtain hp | rfl | hp := by simpa using hp
      · apply hn.2 p (by simp [hp])
      · obtain ⟨hname, hproper⟩ := hn.2 (name, n) (by simp)
        exact ⟨hname, ih hproper⟩
      · apply hn.2 p (by simp [hp])
  | trans _ _ ih ih' => exact ih' (ih hn)

/-- Trees that differ in the order of entries are the same once these are in order. -/
theorem Node.Reordered.arranged_eq {n n' : Node} (h : n.Reordered n') (hn : n.isProper = true) :
  n.arranged = n'.arranged
  := by
  induction h with
  | refl n => rfl
  | perm h =>
    rw [Node.isProper, properEntries_iff] at hn
    rw [Node.arranged, Node.arranged, arrangedEntries_eq, arrangedEntries_eq]
    congr 1
    apply byName_eq_of_perm (h.map _)
    rw [List.map_map]
    exact hn.1
  | @entry n n' _ name front back ih =>
    rw [Node.isProper, properEntries_iff] at hn
    have hentry := ih (hn.2 (name, n) (by simp)).2
    simp [Node.arranged, arrangedEntries_eq, hentry]
  | trans h _ ih ih' => rw [ih hn, ih' (h.isProper hn)]

/-! ### Following paths in arranged trees -/

section

variable {top : Node}

theorem at?_arranged (htop : top.isProper = true) (place : Place) :
  top.arranged.at? place = (top.at? place).map Node.arranged
  := by
  induction place generalizing top with
  | nil => rfl
  | cons name place ih =>
    cases top with
    | file c => rfl
    | link t => rfl
    | folder es =>
      rw [Node.isProper, properEntries_iff] at htop
      rw [Node.arranged, Node.at?, Node.at?, Node.child?, Node.child?, lookup_arranged htop.1]
      cases hchild : es.lookup name with
      | none => rfl
      | some child => exact ih (htop.2 _ (mem_of_lookup_eq_some hchild)).2

/-- The spot, with the entries below it in order. -/
def Spot.arranged (s : Spot) : Spot :=
  ⟨s.place, s.entry?.map Node.arranged⟩

/-- Following names leads to the same place in a tree with its entries in order, if following the
links on the way does. -/
theorem reachWith_arranged (htop : top.isProper = true)
    {follow follow' : Place → Place → Except Miss Spot}
    (hfollow : ∀ here place, follow' here place = (follow here place).map Spot.arranged)
    (here place : Place) :
  reachWith top.arranged follow' here place = (reachWith top follow here place).map Spot.arranged
  := by
  induction place generalizing here with
  | nil =>
    rw [reachWith, reachWith, at?_arranged htop]
    rfl
  | cons name rest ih =>
    rw [reachWith, reachWith, at?_arranged htop]
    cases hhere : top.at? here with
    | none => rfl
    | some n =>
      cases n with
      | file c => rfl
      | link t => rfl
      | folder es =>
        have hproper := isProper_at? htop hhere
        rw [Node.isProper, properEntries_iff] at hproper
        simp only [Option.map_some, Node.arranged, lookup_arranged hproper.1]
        split
        · apply ih
        · split
          · apply ih
          · split
            · rfl
            · cases hentry : es.lookup name with
              | none =>
                simp only [Option.map_none]
                split <;> rfl
              | some child =>
                cases child with
                | file c => apply ih
                | link t => apply hfollow
                | folder inner => apply ih

theorem reachFrom_arranged (htop : top.isProper = true) (links : Nat) (here place : Place) :
  reachFrom top.arranged links here place = (reachFrom top links here place).map Spot.arranged
  := by
  induction links generalizing here place with
  | zero =>
    rw [reachFrom, reachFrom]
    apply reachWith_arranged htop
    intro here place
    rfl
  | succ links ih =>
    rw [reachFrom, reachFrom]
    apply reachWith_arranged htop ih

end

/-! ### Disks whose trees are arranged alike -/

section

variable {d d' : Disk}

/-- Two disks with the same present folder whose trees are the same once the entries are in
order. -/
structure Disk.ArrangedAlike (d d' : Disk) : Prop where
  folder : d.folder = d'.folder
  proper : d.tree.isProper = true
  proper' : d'.tree.isProper = true
  arranged : d.tree.arranged = d'.tree.arranged

namespace Disk.ArrangedAlike

theorem path_eq (h : d.ArrangedAlike d') (path : String) :
  d.path path = d'.path path
  := by
  rw [Disk.path, Disk.path, h.folder]

theorem spot_eq (h : d.ArrangedAlike d') (path : String) :
  (d.spot path).map Spot.arranged = (d'.spot path).map Spot.arranged
  := by
  have hreach := reachFrom_arranged h.proper maxLinks [] (Place.ofText path)
  rw [h.arranged, reachFrom_arranged h.proper' maxLinks [] (Place.ofText path)] at hreach
  rw [Disk.spot, Disk.spot, Disk.meaning, Disk.meaning]
  split
  · rfl
  · split
    · rfl
    · rw [Node.reach, Node.reach]
      cases hr : reachFrom d.tree maxLinks [] (Place.ofText path) <;>
        cases hr' : reachFrom d'.tree maxLinks [] (Place.ofText path) <;>
          simp_all [Except.map, Except.mapError]

/-- A path is refused on both disks, or means a spot on both that has the same entry once the
entries below it are in order. -/
theorem spot_cases (h : d.ArrangedAlike d') (path : String) :
  (∃ refusal, d.spot path = .error refusal ∧ d'.spot path = .error refusal)
    ∨ ∃ place entry entry', d.spot path = .ok ⟨place, entry⟩ ∧ d'.spot path = .ok ⟨place, entry'⟩
      ∧ entry.map Node.arranged = entry'.map Node.arranged
  := by
  have hspot := h.spot_eq path
  cases hs : d.spot path with
  | error refusal =>
    cases hs' : d'.spot path with
    | error refusal' =>
      rw [hs, hs'] at hspot
      cases hspot
      exact .inl ⟨refusal, rfl, rfl⟩
    | ok spot' =>
      rw [hs, hs'] at hspot
      cases hspot
  | ok spot =>
    cases hs' : d'.spot path with
    | error refusal' =>
      rw [hs, hs'] at hspot
      cases hspot
    | ok spot' =>
      rw [hs, hs'] at hspot
      obtain ⟨hplace, hentry⟩ := Spot.mk.inj (Except.ok.inj hspot)
      obtain ⟨place, entry⟩ := spot
      obtain ⟨place', entry'⟩ := spot'
      cases hplace
      exact .inr ⟨place, entry, entry', rfl, rfl, hentry⟩

/-- There is the same content at a path. -/
theorem content_eq (h : d.ArrangedAlike d') (path : String) :
  d.content path = d'.content path
  := by
  have harranged : ∀ place entry, Disk.contentOf path ⟨place, entry⟩
      = Disk.contentOf path ⟨place, entry.map Node.arranged⟩ := by
    rintro place (_ | _ | _ | _) <;> rfl
  rw [Disk.content, Disk.content]
  obtain ⟨refusal, hs, hs'⟩ | ⟨place, entry, entry', hs, hs', hentry⟩ := h.spot_cases path
  · rw [hs, hs']
  · rw [hs, hs']
    change Disk.contentOf path _ = Disk.contentOf path _
    rw [harranged, hentry, ← harranged]

/-- There is a folder at the same paths. -/
theorem hasFolder_eq (h : d.ArrangedAlike d') (path : String) :
  d.hasFolder path = d'.hasFolder path
  := by
  have harranged : ∀ entry : Option Node, entry.any (·.isFolder)
      = (entry.map Node.arranged).any (·.isFolder) := by
    rintro (_ | _ | _ | _) <;> rfl
  rw [Disk.hasFolder, Disk.hasFolder, Disk.find?, Disk.find?]
  obtain ⟨refusal, hs, hs'⟩ | ⟨place, entry, entry', hs, hs', hentry⟩ := h.spot_cases path
  · rw [hs, hs']
  · rw [hs, hs']
    change Except.ok (entry.any (·.isFolder)) = .ok (entry'.any (·.isFolder))
    rw [harranged, hentry, ← harranged]

/-! ### Walks -/

theorem isFolderAt_eq (h : d.ArrangedAlike d') (path : String) (n : Node) :
  isFolderAt d path n = isFolderAt d' path n
  := by
  cases n with
  | file c => rfl
  | link t => rw [isFolderAt, isFolderAt, h.hasFolder_eq]
  | folder es => rfl

theorem ownPath_eq (h : d.ArrangedAlike d') (f : Filter) (path : String) :
  ownPath d f path = ownPath d' f path
  := by
  funext p
  rw [ownPath, ownPath, h.path_eq, h.isFolderAt_eq]

theorem sourcePaths_eq (h : d.ArrangedAlike d') (f : Filter) (path : String) (n : Node) :
  sourcePaths d f path n = sourcePaths d' f path n
  := by
  induction n using Node.induction generalizing path with
  | file c => simp [sourcePaths]
  | link t => simp [sourcePaths]
  | folder es ih =>
    have hbelow : es.flatMap (pathsBelow d f path) = es.flatMap (pathsBelow d' f path) := by
      apply List.flatMap_congr
      intro p hp
      rw [pathsBelow, pathsBelow, ih p hp]
    rw [sourcePaths, sourcePaths, h.path_eq, h.ownPath_eq, innerPaths_eq, innerPaths_eq, hbelow]

theorem ofPaths_eq (h : d.ArrangedAlike d') (f : Filter) (paths : List String) :
  Walk.ofPaths d f paths = .ofPaths d' f paths
  := by
  have hfound : foundAt? d f = foundAt? d' f := by
    funext path
    rw [foundAt?, foundAt?, h.path_eq, h.content_eq]
  have hlarge : isLargeAt d f = isLargeAt d' f := by
    funext path
    rw [isLargeAt, isLargeAt, h.path_eq, h.content_eq]
  have hflaw : flawAt? d = flawAt? d' := by
    funext path
    rw [flawAt?, flawAt?, h.path_eq, h.content_eq]
  rw [Walk.ofPaths, Walk.ofPaths, hfound, hlarge, hflaw]

theorem walkNode_eq (h : d.ArrangedAlike d') (f : Filter) (path : String) (n : Node) :
  walkNode d f path n = walkNode d' f path n
  := by
  rw [walkNode_eq_ofPaths, walkNode_eq_ofPaths, h.sourcePaths_eq, h.ofPaths_eq]

theorem walk_eq (h : d.ArrangedAlike d') (folder : String) (extensions : List String)
    (maxMegabytes : Int) :
  walk d folder extensions maxMegabytes = walk d' folder extensions maxMegabytes
  := by
  rw [walk, walk, ← h.path_eq]
  obtain ⟨refusal, hs, hs'⟩ | ⟨place, entry, entry', hs, hs', hentry⟩ :=
    h.spot_cases (d.path folder)
  · rw [hs, hs']
  · rw [hs, hs']
    cases entry with
    | none =>
      cases entry' with
      | none => rfl
      | some n' => cases hentry
    | some n =>
      cases entry' with
      | none => cases hentry
      | some n' => simp only [Option.some.inj hentry, h.walkNode_eq]

end Disk.ArrangedAlike

/-- A walk does not depend on the order of entries. -/
theorem walk_eq_of_reordered (hproper : d.tree.isProper = true) {tree : Node}
    (h : d.tree.Reordered tree) (folder : String) (extensions : List String)
    (maxMegabytes : Int) :
  walk ⟨d.folder, tree⟩ folder extensions maxMegabytes = walk d folder extensions maxMegabytes
  := by
  have halike : Disk.ArrangedAlike d ⟨d.folder, tree⟩ :=
    ⟨rfl, hproper, h.isProper hproper, h.arranged_eq hproper⟩
  rw [halike.walk_eq]

end

end AnchorIndex.Files

import AnchorIndex.Proofs.Datum.Traversal
import AnchorIndex.Proofs.Files.Folders

/-!
# Files that are spared

A change spares the files of a tree if it keeps its folders and links, and its files but for those
at some places (`Spares`). A path that means a spared file means the same file after the change
(`Disk.Spares.spot_eq`). Making folders spares all files (`spares_makeFolders`); putting something
in the place of a plain entry, or taking it away, spares the others (`spares_insert`,
`spares_remove`).
-/

namespace AnchorIndex.Files

/-- From the first tree to the second one folders and links are kept, and so are the files at all
places but some. -/
structure Spares (own : Place → Prop) (a b : Node) : Prop where
  keeps : Keeps a b
  file : ∀ q c, ¬ own q → a.at? q = some (.file c) → b.at? q = some (.file c)

namespace Spares

variable {own own' : Place → Prop} {a b c : Node}

theorem refl (own : Place → Prop) (a : Node) :
  Spares own a a
  := ⟨⟨fun _ es h => ⟨es, h⟩, fun _ _ h => h⟩, fun _ _ _ h => h⟩

theorem trans (h : Spares own a b) (h' : Spares own b c) :
  Spares own a c
  := by
  refine ⟨⟨?_, ?_⟩, ?_⟩
  · intro p es hp
    obtain ⟨es', hp'⟩ := h.keeps.folder p es hp
    apply h'.keeps.folder p es' hp'
  · intro p target hp
    apply h'.keeps.link p target (h.keeps.link p target hp)
  · intro q content hq hat
    apply h'.file q content hq (h.file q content hq hat)

theorem mono (h : Spares own a b) (himp : ∀ q, own q → own' q) :
  Spares own' a b
  := by
  use h.keeps
  intro q content hq
  apply h.file q content fun hown => hq (himp q hown)

end Spares

/-- What a path means is what is found at its place, if it is a short path. -/
theorem meaning_eq_ok_iff {α : Type} {path : String} {f : Place → Except Miss α} {a : α} :
  Disk.meaning path f = .ok a ↔ IsShortPath path ∧ f (Place.ofText path) = .ok a
  := by
  constructor
  · intro h
    have hshort : IsShortPath path := by
      rw [Disk.meaning] at h
      split at h
      · contradiction
      next hpath =>
        split at h
        · contradiction
        next hsize => exact ⟨by simpa using hpath, Nat.lt_of_not_le hsize⟩
    rw [hshort.meaning_eq, mapError_eq_ok_iff] at h
    exact ⟨hshort, h⟩
  · rintro ⟨hshort, h⟩
    rw [hshort.meaning_eq, mapError_eq_ok_iff, h]

/-- The second disk is seen from the same folder as the first one, and spares its files but for
those at some places. -/
structure Disk.Spares (own : Place → Prop) (d d' : Disk) : Prop where
  folder : d'.folder = d.folder
  tree : Files.Spares own d.tree d'.tree

namespace Disk.Spares

variable {own own' : Place → Prop} {d d' d'' : Disk}

theorem refl (own : Place → Prop) (d : Disk) :
  Disk.Spares own d d
  := ⟨rfl, Files.Spares.refl own d.tree⟩

theorem trans (h : Disk.Spares own d d') (h' : Disk.Spares own d' d'') :
  Disk.Spares own d d''
  := ⟨h'.folder.trans h.folder, h.tree.trans h'.tree⟩

theorem mono (h : Disk.Spares own d d') (himp : ∀ q, own q → own' q) :
  Disk.Spares own' d d'
  := ⟨h.folder, h.tree.mono himp⟩

/-- A path that means a spared file means it still. -/
theorem spot_eq (h : Disk.Spares own d d') {path : String} {place : Place} {c : Content}
    (hspot : d.spot path = .ok ⟨place, some (.file c)⟩) (hplace : ¬ own place) :
  d'.spot path = .ok ⟨place, some (.file c)⟩
  := by
  rw [Disk.spot, meaning_eq_ok_iff, Node.reach] at hspot
  obtain ⟨hshort, hreach⟩ := hspot
  have hleads := leads_of_reachFrom hreach
  apply hshort.spot_eq
  apply hleads.keep_file h.tree.keeps
  apply h.tree.file place c hplace hleads.at?_place

end Disk.Spares

/-! ### Changes of entries -/

section

variable {top : Node} {place : Place} {name : String} {es : List (String × Node)}

/-- A tree that is alike away from a plain entry spares the other files. -/
theorem spares_of_alikeAt {top' : Node} (h : top.at? place = some (.folder es))
    (hplain : IsPlain (es.lookup name))
    (halike : ∀ q, ¬ (place ++ [name]) <+: q → AlikeAt top top' q) :
  Spares (· = place ++ [name]) top top'
  := by
  use keeps_of_alikeAt h hplain halike
  intro q c hq hat
  have hnot : ¬ (place ++ [name]) <+: q := by
    intro hprefix
    apply hq (hplain.eq_of_prefix h hprefix hat).1
  obtain heq | ⟨⟨es', hfolder⟩, -⟩ := halike q hnot
  · rw [← heq, hat]
  · rw [hat] at hfolder
    cases hfolder

theorem spares_insert (h : top.at? place = some (.folder es)) (hplain : IsPlain (es.lookup name))
    (node : Node) :
  Spares (· = place ++ [name]) top (Node.insert node (place ++ [name]) (some top))
  := spares_of_alikeAt h hplain fun _ => alikeAt_insert node h

theorem spares_remove (h : top.at? place = some (.folder es)) (hplain : IsPlain (es.lookup name)) :
  Spares (· = place ++ [name]) top (top.remove (place ++ [name]))
  := spares_of_alikeAt h hplain fun _ => alikeAt_remove h

/-- Where nothing was, there was no file to spare. -/
theorem spares_insert_free (h : top.at? place = some (.folder es)) (hfree : es.lookup name = none)
    (node : Node) :
  Spares (fun _ => False) top (Node.insert node (place ++ [name]) (some top))
  := by
  have hplain : IsPlain (es.lookup name) := by
    rw [hfree]
    intro _ hnode
    contradiction
  have hspares := spares_insert h hplain node
  use hspares.keeps
  intro q c _ hat
  apply hspares.file q c _ hat
  rintro rfl
  rw [Node.at?_concat h, hfree] at hat
  contradiction

end

/-! ### Making folders -/

theorem Node.exists_at?_dropLast {n node : Node} {p : Place} (h : n.at? p = some node) :
  ∃ node', n.at? p.dropLast = some node'
  := by
  cases p using List.reverseRecOn with
  | nil => exact ⟨node, h⟩
  | append_singleton p name =>
    rw [Node.at?_append, Option.bind_eq_some_iff] at h
    obtain ⟨node', hnode', -⟩ := h
    rw [List.dropLast_concat]
    exact ⟨node', hnode'⟩

/-- Only a folder can be followed by a single dot. -/
theorem Leads.of_concat_dot {top : Node} {links : Nat} {here p : Place} {spot : Spot}
    (h : Leads top links here (p ++ ["."]) spot) :
  ∃ es, top.at? spot.place = some (.folder es)
  := by
  obtain ⟨links', above, es, hp, hdot⟩ := h.split (List.cons_ne_nil "." [])
  have hf : top.at? above = some (.folder es) := hp.at?_place
  generalize hname : "." = name at hdot
  cases hdot with
  | dot _ hstay =>
    rw [Leads.nil_iff.1 hstay]
    exact ⟨es, hf⟩
  | dots _ _ => exact absurd hname (by decide)
  | free _ hn _ => exact absurd hname.symm hn.ne_dot
  | link _ hn _ _ => exact absurd hname.symm hn.ne_dot
  | down _ hn _ _ _ => exact absurd hname.symm hn.ne_dot

/-- A slot without entry is in a folder. -/
theorem exists_of_slot_eq {top : Node} {p place : Place} (h : top.slot p = .ok ⟨place, none⟩) :
  ∃ above name es, place = above ++ [name] ∧ top.at? above = some (.folder es) ∧
    es.lookup name = none
  := by
  cases p using List.reverseRecOn with
  | nil => simp [Node.slot] at h
  | append_singleton p name =>
    rw [Node.slot, List.getLast?_concat, List.dropLast_concat] at h
    simp only at h
    split at h
    · contradiction
    next spot hspot =>
      obtain ⟨es, hf⟩ := (leads_of_reachFrom hspot).of_concat_dot
      split at h
      · contradiction
      · injection h with h
        injection h with hplace hentry
        rw [hplace] at hentry
        split at hplace
        · obtain ⟨node, hnode⟩ := Node.exists_at?_dropLast hf
          rw [← hplace, hnode] at hentry
          contradiction
        · rw [← hplace, Node.at?_concat hf] at hentry
          exact ⟨spot.place, name, es, hplace.symm, hf, hentry⟩

theorem spares_makeFolder {d d' : Disk} {path : String} (h : d.makeFolder path = .ok d') :
  Disk.Spares (fun _ => False) d d'
  := by
  rw [Disk.makeFolder] at h
  split at h
  · contradiction
  · contradiction
  next place hslot =>
    cases h
    rw [Disk.slot, meaning_eq_ok_iff] at hslot
    obtain ⟨above, name, es, rfl, hf, hfree⟩ := exists_of_slot_eq hslot.2
    exact ⟨rfl, spares_insert_free hf hfree .empty⟩

theorem spares_ensureFolder {d d' : Disk} {path : String} (h : d.ensureFolder path = .ok d') :
  Disk.Spares (fun _ => False) d d'
  := by
  rw [Disk.ensureFolder] at h
  split at h
  next hmake =>
    cases h
    apply spares_makeFolder hmake
  · split at h
    · cases h
      apply Disk.Spares.refl
    · contradiction

theorem spares_makeWay (start : String) (d : Disk) (way : Place) :
  Disk.Spares (fun _ => False) d (d.makeWay start way).2
  := by
  induction way generalizing d with
  | nil => apply Disk.Spares.refl
  | cons name above ih =>
    rw [Disk.makeWay]
    split
    next hmake => apply spares_makeFolder hmake
    · have habove := ih d
      cases hway : d.makeWay start above with
      | mk made d₁ =>
        rw [hway] at habove
        simp only
        split
        · apply habove
        next hensure => exact habove.trans (spares_ensureFolder hensure)
        · apply habove
    · split
      next hensure => apply spares_ensureFolder hensure
      · apply Disk.Spares.refl

/-- Making folders spares all files. -/
theorem spares_makeFolders (d : Disk) (path : String) :
  Disk.Spares (fun _ => False) d (d.makeFolders path).2
  := spares_makeWay _ d _

end AnchorIndex.Files

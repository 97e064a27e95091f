import Mathlib.Data.List.Induction
import AnchorIndex.Proofs.Files.Changing
import AnchorIndex.Proofs.Files.Paths

/-!
# Folders and their entries

A folder that a path means is made already: making it changes nothing (`makeFolders_eq_self`).
The path of a name in a folder that a path means leads to the entry with this name
(`spot_joinPath`, `slot_joinPath`).
-/

namespace AnchorIndex.Files

/-- A text that can be a path and is short enough for one. -/
structure IsShortPath (path : String) : Prop where
  isPath : isPath path = true
  size : path.utf8ByteSize < Disk.maxPathSize

theorem IsShortPath.meaning_eq {α : Type} {path : String} (h : IsShortPath path)
    (f : Place → Except Miss α) :
  Disk.meaning path f = (f (Place.ofText path)).mapError (·.refusal path)
  := by
  rw [Disk.meaning, h.isPath, if_neg (by simp), if_neg (Nat.not_le.2 h.size)]

theorem IsShortPath.normalPath {path : String} (h : IsShortPath path) :
  IsShortPath (normalPath path)
  := by
  constructor
  · apply isPath_normalPath h.isPath
  · have hle := utf8ByteSize_normalPath_le path
    have hlt := h.size
    omega

variable {d : Disk} {path : String} {place : Place} {es : List (String × Node)}

theorem IsShortPath.spot_eq (h : IsShortPath path) {spot : Spot}
    (hl : Leads d.tree maxLinks [] (Place.ofText path) spot) :
  d.spot path = .ok spot
  := by
  rw [Disk.spot, h.meaning_eq, Node.reach, hl.reachFrom]
  rfl

/-! ### Folders that are there -/

/-- A place that leads to an entry has an entry in its slot: that one, or a link. -/
theorem exists_slot_eq {top : Node} {p : Place} (hdot : "." ∉ p) {node : Node}
    (h : Leads top maxLinks [] p ⟨place, some node⟩) :
  ∃ place' node', top.slot p = .ok ⟨place', some node'⟩
  := by
  cases p using List.reverseRecOn with
  | nil => exact ⟨[], top, rfl⟩
  | append_singleton p name =>
    obtain ⟨links, mid, es, hmid, hname⟩ := h.split (List.cons_ne_nil name [])
    have hreach : top.reach (p ++ ["."]) = .ok ⟨mid, some (.folder es)⟩ :=
      hmid.concat_dot.reachFrom
    rw [Node.slot, List.getLast?_concat, List.dropLast_concat]
    simp only [hreach]
    cases hname with
    | dot hf' h' => simp at hdot
    | dots hf' h' =>
      have hthere := (Spot.mk.inj (Leads.nil_iff.1 h')).2
      rw [if_pos rfl, if_neg (by decide +kernel), ← hthere]
      exact ⟨_, node, rfl⟩
    | link hf' hn hl h' =>
      rw [if_neg hn.ne_dots, if_neg (Nat.not_lt.2 hn.size), Node.at?_concat hf', hl]
      exact ⟨_, _, rfl⟩
    | down hf' hn hl hnode h' =>
      rw [if_neg hn.ne_dots, if_neg (Nat.not_lt.2 hn.size), Node.at?_concat hf', hl]
      exact ⟨_, _, rfl⟩

theorem dot_notMem_ofText (path : String) :
  "." ∉ Place.ofText path
  := by
  intro h
  obtain ⟨-, -, hdot⟩ := Place.of_mem_ofText h
  apply hdot rfl

/-- Making a folder that is there changes nothing. -/
theorem makeFolders_eq_self (h : IsShortPath path)
    (hl : Leads d.tree maxLinks [] (Place.ofText path) ⟨place, some (.folder es)⟩) :
  d.makeFolders path = (.ok (), d)
  := by
  have hplace := ofText_normalPath path
  have hshort := h.normalPath
  obtain ⟨place', node', hslot⟩ := exists_slot_eq (dot_notMem_ofText path) hl
  have hmake : d.makeFolder (normalPath path) = .error (.alreadyThere (normalPath path)) := by
    rw [Disk.makeFolder, Disk.slot, hshort.meaning_eq, hplace, hslot]
    rfl
  have hensure : d.ensureFolder (normalPath path) = .ok d := by
    have hspot : d.spot (normalPath path) = .ok ⟨place, some (.folder es)⟩ := by
      apply hshort.spot_eq
      rwa [hplace]
    rw [Disk.ensureFolder, hmake]
    simp only [Disk.hasFolder, Disk.find?, hspot]
    rfl
  cases hp : (Place.ofText path).reverse with
  | nil => rw [Disk.makeFolders, hp, Disk.makeWay]
  | cons name above =>
    have hpath : lead path ++ Place.text (name :: above).reverse = normalPath path := by
      rw [← hp, List.reverse_reverse, normalPath]
    rw [Disk.makeFolders, hp, Disk.makeWay]
    simp only [hpath, hmake, hensure]

/-! ### Entries of a folder -/

section

variable {folder name : String}

theorem leads_joinPath (hn : IsEntryName name)
    (hl : Leads d.tree maxLinks [] (Place.ofText folder) ⟨place, some (.folder es)⟩)
    (hplain : IsPlain (es.lookup name)) :
  Leads d.tree maxLinks [] (Place.ofText (joinPath folder name))
    ⟨place ++ [name], es.lookup name⟩
  := by
  rw [ofText_joinPath folder hn]
  obtain ⟨links, happ⟩ := hl.append
  apply happ
  apply Leads.entry hl.at?_place hn.step
  intro target hlink
  have := hplain _ hlink
  contradiction

/-- The path of a plain entry means the entry. -/
theorem spot_joinPath (hp : IsShortPath (joinPath folder name)) (hn : IsEntryName name)
    (hl : Leads d.tree maxLinks [] (Place.ofText folder) ⟨place, some (.folder es)⟩)
    (hplain : IsPlain (es.lookup name)) :
  d.spot (joinPath folder name) = .ok ⟨place ++ [name], es.lookup name⟩
  := hp.spot_eq (leads_joinPath hn hl hplain)

/-- The path of an entry names the entry. -/
theorem slot_joinPath (hp : IsShortPath (joinPath folder name)) (hn : IsEntryName name)
    (hl : Leads d.tree maxLinks [] (Place.ofText folder) ⟨place, some (.folder es)⟩) :
  d.slot (joinPath folder name) = .ok ⟨place ++ [name], es.lookup name⟩
  := by
  have hf : d.tree.at? place = some (.folder es) := hl.at?_place
  have hreach : d.tree.reach (Place.ofText folder ++ ["."]) = .ok ⟨place, some (.folder es)⟩ :=
    hl.concat_dot.reachFrom
  rw [Disk.slot, hp.meaning_eq, ofText_joinPath folder hn, Node.slot, List.getLast?_concat,
    List.dropLast_concat]
  simp only [hreach, if_neg hn.step.ne_dots, if_neg (Nat.not_lt.2 hn.step.size),
    Node.at?_concat hf]
  rfl

end

end AnchorIndex.Files

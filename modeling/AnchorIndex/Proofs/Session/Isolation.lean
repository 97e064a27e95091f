import AnchorIndex.Proofs.Datum.Traversal
import AnchorIndex.Proofs.Entity.Identity
import AnchorIndex.Proofs.Session.Found

/-!
# Files do not affect one another

The entities that a scan finds in one file stand where they do whatever the other files are, and
whatever is known about the program (`map_standing_scanKinds`). No two entities of one kind start
on one line of one file (`apart_scanKinds`).
-/

namespace AnchorIndex.Session

open Files (SourceFile)
open Source (Range)

/-! ### Ranges of one file -/

/-- The ranges in a file are those of its text. -/
theorem filter_rangesIn {files : List SourceFile} {file : SourceFile} (kind : Kind)
    (hfiles : (files.map (·.path)).Nodup) (hfile : file ∈ files) :
  (rangesIn files kind).filter (·.1.path == file.path)
    = (Source.scan kind file.text).map fun r => (file, r)
  := by
  have hnone : ∀ rest : List SourceFile, (∀ f ∈ rest, f.path ≠ file.path) →
      (rangesIn rest kind).filter (·.1.path == file.path) = [] := by
    intro rest hrest
    rw [List.filter_eq_nil_iff]
    rintro ⟨f, r⟩ hp
    simpa using hrest f (mem_rangesIn.1 hp).1
  induction files with
  | nil => contradiction
  | cons f files ih =>
    rw [List.map_cons, List.nodup_cons] at hfiles
    have hcons : rangesIn (f :: files) kind
        = (Source.scan kind f.text).map (fun r => (f, r)) ++ rangesIn files kind := rfl
    rw [hcons, List.filter_append, List.filter_map]
    obtain rfl | hfile := List.mem_cons.1 hfile
    · rw [hnone files, List.append_nil]
      · congr 1
        rw [List.filter_eq_self]
        intro r _
        simp
      · intro f' hf' hpath
        apply hfiles.1
        rw [← hpath]
        apply List.mem_map_of_mem hf'
    · have hne : f.path ≠ file.path := by
        intro hpath
        apply hfiles.1
        rw [hpath]
        apply List.mem_map_of_mem hfile
      rw [ih hfiles.2 hfile]
      simp [hne]

/-- Ranges of one kind that start on one line of one file are the same. -/
theorem nodup_starts_rangesIn {files : List SourceFile} (kind : Kind)
    (hfiles : (files.map (·.path)).Nodup) :
  ((rangesIn files kind).map fun p => (p.1.path, p.2.first)).Nodup
  := by
  induction files with
  | nil => exact List.nodup_nil
  | cons f files ih =>
    rw [List.map_cons, List.nodup_cons] at hfiles
    have hcons : rangesIn (f :: files) kind
        = (Source.scan kind f.text).map (fun r => (f, r)) ++ rangesIn files kind := rfl
    rw [hcons, List.map_append, List.map_map, List.nodup_append]
    refine ⟨?_, ih hfiles.2, ?_⟩
    · rw [List.Nodup, List.pairwise_map]
      apply List.Pairwise.imp_of_mem _ (Source.pairwise_scan kind f.text)
      intro a b ha hb hlt heq
      have hbounds := Source.bounds_of_mem_scan ha
      have hfirst : a.first = b.first := (Prod.mk.inj heq).2
      omega
    · intro s hs s' hs' heq
      obtain ⟨r, -, rfl⟩ := List.mem_map.1 hs
      obtain ⟨⟨f', r'⟩, hp, rfl⟩ := List.mem_map.1 hs'
      apply hfiles.1
      have hpath : f.path = f'.path := (Prod.mk.inj heq).1
      rw [hpath]
      apply List.mem_map_of_mem (mem_rangesIn.1 hp).1

/-! ### Entities of one file -/

section

variable {files files' : List SourceFile} {known known' : Program} {kinds kinds' : List Kind}
  {kind : Kind}

theorem InnermostBlock.lines_eq {blocks : List Range} {r a b : Range}
    (ha : InnermostBlock blocks r a) (hb : InnermostBlock blocks r b) :
  a.first = b.first ∧ a.last = b.last
  := by
  obtain rfl | ⟨hlt, -⟩ := ha.inside b hb.mem hb.around
  · exact ⟨rfl, rfl⟩
  · obtain rfl | ⟨hlt', -⟩ := hb.inside a ha.mem ha.around
    · exact ⟨rfl, rfl⟩
    · omega

/-- Two entities that describe one range stand at the same place, if the same kinds are
configured. -/
theorem Describes.standing_eq (hkinds : ∀ kind, kind ∈ kinds' ↔ kind ∈ kinds)
    {p : SourceFile × Range} {d e : Entity} (hd : Describes known kinds kind p d)
    (he : Describes known' kinds' kind p e) :
  d.standing = e.standing
  := by
  have hblocks : blocksOf kinds' p.1.text = blocksOf kinds p.1.text := by
    have hsame : blockKinds kinds' = blockKinds kinds := by
      apply List.filter_congr
      intro k _
      rw [decide_eq_decide]
      apply hkinds k
    rw [blocksOf, blocksOf, hsame]
  have henclosing : d.enclosing = e.enclosing := by
    have hd' := hd.enclosing
    have he' := he.enclosing
    rw [hblocks] at he'
    obtain ⟨a, ha, hda⟩ | ⟨hnone, hd'⟩ := hd'
    · obtain ⟨b, hb, heb⟩ | ⟨hnone', -⟩ := he'
      · obtain ⟨hfirst, hlast⟩ := ha.lines_eq hb
        rw [hda, heb, hfirst, hlast]
      · exact absurd ha.around (hnone' a ha.mem)
    · obtain ⟨b, hb, -⟩ | ⟨-, he'⟩ := he'
      · exact absurd hb.around (hnone b hb.mem)
      · rw [hd', he']
  have hkind : d.kind = e.kind := hd.kind.trans he.kind.symm
  rw [Entity.standing, Entity.standing, Entity.logicalKey, Entity.logicalKey, hkind, henclosing,
    hd.path, he.path, hd.name, he.name, hd.first, he.first, hd.last, he.last]

/-- One entity is found in a file for each range of its text. -/
theorem forall₂_filter_scanKinds (known : Program) (hfiles : (files.map (·.path)).Nodup)
    {file : SourceFile} (hfile : file ∈ files) (hkind : kind ∈ kinds) :
  List.Forall₂ (Describes known kinds kind)
    ((Source.scan kind file.text).map fun r => (file, r))
    (((scanKinds files known kinds).ofKind kind).filter (·.path == file.path))
  := by
  rw [← filter_rangesIn kind hfiles hfile]
  apply List.rel_filter _ (forall₂_scanKinds hfiles known hkind)
  intro p e he
  simp only [he.path]

/-- Where the entities of a file stand depends on its text alone. -/
theorem map_standing_scanKinds (hkinds : ∀ kind, kind ∈ kinds' ↔ kind ∈ kinds)
    (hfiles : (files.map (·.path)).Nodup) (hfiles' : (files'.map (·.path)).Nodup)
    {file : SourceFile} (hfile : file ∈ files) (hfile' : file ∈ files') (hkind : kind ∈ kinds) :
  (((scanKinds files known kinds).ofKind kind).filter (·.path == file.path)).map
      Entity.standing
    = (((scanKinds files' known' kinds').ofKind kind).filter (·.path == file.path)).map
      Entity.standing
  := by
  apply map_eq_of_forall₂ _ (forall₂_filter_scanKinds known hfiles hfile hkind)
    (forall₂_filter_scanKinds known' hfiles' hfile' ((hkinds kind).2 hkind))
  intro p d e hd he
  apply hd.standing_eq hkinds he

theorem ofKind_scanKinds_of_notMem (files : List SourceFile) (known : Program)
    (hkind : kind ∉ kinds) :
  (scanKinds files known kinds).ofKind kind = []
  := by
  rw [scanKinds_eq, Scanned.ofKind_assignEnclosing, ofKind_foundKinds, if_neg hkind]
  rfl

section

variable {ps : List (SourceFile × Range)} (hps : ps.Perm (rangesIn files kind)) {es : List Entity}
  (h : List.Forall₂ (Describes known kinds kind) ps es)

include hps h

/-- Entities that describe the ranges of a kind stand on their lines. -/
theorem perm_lines_of_describes :
  (es.map fun e => (e.path, e.first, e.last)).Perm
    ((rangesIn files kind).map fun p => (p.1.path, p.2.first, p.2.last))
  := by
  have hlines : es.map (fun e => (e.path, e.first, e.last))
      = ps.map fun p => (p.1.path, p.2.first, p.2.last) := by
    rw [← List.forall₂_eq_eq_eq, List.forall₂_map_left_iff, List.forall₂_map_right_iff]
    apply h.flip.imp
    intro e p he
    rw [he.path, he.first, he.last]
  rw [hlines]
  apply hps.map

/-- Entities that describe the ranges of a kind do not start on one line of one file. -/
theorem apart_of_describes (hfiles : (files.map (·.path)).Nodup) :
  Apart es
  := by
  have hstarts := (perm_lines_of_describes hps h).map fun l => (l.1, l.2.1)
  rw [List.map_map, List.map_map] at hstarts
  apply hstarts.nodup_iff.2 (nodup_starts_rangesIn kind hfiles)

end

/-- The entities of a kind that are found do not start on one line of one file. -/
theorem apart_scanKinds (known : Program) (kinds : List Kind)
    (hfiles : (files.map (·.path)).Nodup) (kind : Kind) :
  Apart ((scanKinds files known kinds).ofKind kind)
  := by
  by_cases hkind : kind ∈ kinds
  · apply apart_of_describes (.refl _) (forall₂_scanKinds hfiles known hkind) hfiles
  · rw [ofKind_scanKinds_of_notMem files known hkind]
    apply List.nodup_nil

/-- An entity that is found stands in a walked file. -/
theorem exists_file_of_mem_scanKinds (hfiles : (files.map (·.path)).Nodup) {e : Entity}
    (h : e ∈ (scanKinds files known kinds).ofKind kind) :
  ∃ file ∈ files, e.path = file.path
  := by
  by_cases hkind : kind ∈ kinds
  · obtain ⟨⟨file, r⟩, hp, he⟩ :=
      exists_of_forall₂_right (forall₂_scanKinds hfiles known hkind) h
    exact ⟨file, (mem_rangesIn.1 hp).1, he.path⟩
  · rw [ofKind_scanKinds_of_notMem files known hkind] at h
    contradiction

end

end AnchorIndex.Session

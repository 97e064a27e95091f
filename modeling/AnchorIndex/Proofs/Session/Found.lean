import Mathlib.Data.List.Nodup
import Mathlib.Data.List.Perm.Basic
import AnchorIndex.Proofs.Session.Enclosing

/-!
# What a scan finds

A scan finds one entity for each range of a configured kind in a walked file
(`forall₂_scanKinds`). The entity stands on the lines of the range, has the name of the range, the
role that the range has in the program, and no identity; its enclosing lines are those of the
innermost block of the configured kinds strictly around the range (`Describes`).
-/

namespace AnchorIndex.Session

open Files (SourceFile)
open Source (Range)

/-! ### Ranges of files -/

/-- The ranges of a kind in the files, each with its file. -/
def rangesIn (files : List SourceFile) (kind : Kind) : List (SourceFile × Range) :=
  files.flatMap fun file => (Source.scan kind file.text).map fun r => (file, r)

theorem mem_rangesIn {files : List SourceFile} {kind : Kind} {file : SourceFile} {r : Range} :
  (file, r) ∈ rangesIn files kind ↔ file ∈ files ∧ r ∈ Source.scan kind file.text
  := by
  rw [rangesIn, List.mem_flatMap]
  constructor
  · rintro ⟨file', hfile, hr⟩
    obtain ⟨r', hr', heq⟩ := List.mem_map.1 hr
    cases heq
    exact ⟨hfile, hr'⟩
  · rintro ⟨hfile, hr⟩
    exact ⟨file, hfile, List.mem_map_of_mem hr⟩

/-- The configured kinds whose ranges may enclose others. -/
def blockKinds (kinds : List Kind) : List Kind :=
  [Kind.implementation, .trait].filter (· ∈ kinds)

/-- The ranges of a text that may enclose others, as far as their kinds are configured. -/
def blocksOf (kinds : List Kind) (text : String) : List Range :=
  (blockKinds kinds).flatMap (Source.scan · text)

/-- The block is the innermost of some blocks around a range. -/
structure InnermostBlock (blocks : List Range) (r b : Range) : Prop where
  mem : b ∈ blocks
  around : r.StrictlyInside b
  inside : ∀ a ∈ blocks, r.StrictlyInside a → a = b ∨ b.Inside a

/-- Of two ranges that are among the blocks of a text and have the same lines, there is only one. -/
theorem eq_of_mem_blocksOf {kinds : List Kind} {text : String} {a b : Range}
    (ha : a ∈ blocksOf kinds text) (hb : b ∈ blocksOf kinds text) (hfirst : a.first = b.first) :
  a = b
  := by
  obtain ⟨kind, -, ha⟩ := List.mem_flatMap.1 ha
  obtain ⟨kind', -, hb⟩ := List.mem_flatMap.1 hb
  obtain rfl : kind = kind' := by
    by_contra hne
    apply Source.first_ne_of_kind_ne ha hb hne hfirst
  have hbounds := Source.bounds_of_mem_scan ha
  have hbounds' := Source.bounds_of_mem_scan hb
  apply Source.eq_of_overlap ha hb <;> omega

/-- The entity describes a range of a file. Only its identity is left open. -/
structure Describes (known : Program) (kinds : List Kind) (kind : Kind) (p : SourceFile × Range)
    (e : Entity) : Prop where
  path : e.path = p.1.path
  name : e.name = p.2.name
  first : e.first = p.2.first
  last : e.last = p.2.last
  role : e.role = roleOf kind p.1.path p.2 (Text.lines p.1.text.toList) known
  enclosing :
    (∃ b, InnermostBlock (blocksOf kinds p.1.text) p.2 b ∧
      e.enclosing = some ((b.first : Int), (b.last : Int))) ∨
    ((∀ b ∈ blocksOf kinds p.1.text, ¬ p.2.StrictlyInside b) ∧ e.enclosing = none)

theorem Describes.kind {known : Program} {kinds : List Kind} {kind : Kind} {p : SourceFile × Range}
    {e : Entity} (h : Describes known kinds kind p e) :
  e.kind = kind
  := by
  rw [Entity.kind, h.role, kind_roleOf]

/-- Whether an entity describes a range does not depend on its identity. -/
theorem Describes.withId {known : Program} {kinds : List Kind} {kind : Kind}
    {p : SourceFile × Range} {e : Entity} (h : Describes known kinds kind p e) (id : String) :
  Describes known kinds kind p (e.withId id)
  := ⟨h.path, h.name, h.first, h.last, h.role, h.enclosing⟩

/-! ### Entities of ranges -/

section

variable {files : List SourceFile} {known : Program} {kinds : List Kind} {kind : Kind}

/-- The entity that is found for a range, before the blocks around it are known. -/
def IsFoundFor (known : Program) (kind : Kind) (p : SourceFile × Range) (e : Entity) : Prop :=
  entityOfRange? (roleOf kind p.1.path p.2 (Text.lines p.1.text.toList) known) p.1.path p.2
    = some e

theorem isSome_entityOfRange? {text : String} {r : Range} (h : r ∈ Source.scan kind text)
    (role : Role) (path : String) :
  (entityOfRange? role path r).isSome
  := by
  have hbounds := Source.bounds_of_mem_scan h
  rw [entityOfRange?, Entity.ofLines?, dif_pos (by omega)]
  rfl

theorem forall₂_filterMap {α β : Type} {f : α → Option β} {l : List α}
    (h : ∀ a ∈ l, (f a).isSome) :
  List.Forall₂ (fun a b => f a = some b) l (l.filterMap f)
  := by
  induction l with
  | nil => exact .nil
  | cons a l ih =>
    obtain ⟨b, hb⟩ := Option.isSome_iff_exists.1 (h a List.mem_cons_self)
    rw [List.filterMap_cons_some hb, List.forall₂_cons]
    use hb
    apply ih
    intro a ha
    apply h a (List.mem_cons_of_mem _ ha)

/-- One entity is found for each range. -/
theorem forall₂_scanKind (files : List SourceFile) (known : Program) (kind : Kind) :
  List.Forall₂ (IsFoundFor known kind) (rangesIn files kind) (scanKind files known kind)
  := by
  induction files with
  | nil => exact .nil
  | cons file files ih =>
    rw [rangesIn, scanKind, List.flatMap_cons, List.flatMap_cons]
    apply List.rel_append _ ih
    rw [List.forall₂_map_left_iff]
    apply forall₂_filterMap
    intro r hr
    apply isSome_entityOfRange? hr

theorem IsFoundFor.eq {p : SourceFile × Range} {e : Entity} (h : IsFoundFor known kind p e) :
  e.role = roleOf kind p.1.path p.2 (Text.lines p.1.text.toList) known ∧ e.name = p.2.name ∧
    e.id = ""
  := by
  rw [IsFoundFor, entityOfRange?, Entity.ofLines?] at h
  split at h
  · cases h
    exact ⟨rfl, rfl, rfl⟩
  · contradiction

theorem mem_containers_iff {c : Entity} :
  c ∈ (foundKinds files known kinds).containers
    ↔ ∃ kind ∈ blockKinds kinds, c ∈ scanKind files known kind
  := by
  rw [Scanned.containers, List.mem_append, ofKind_foundKinds, ofKind_foundKinds]
  simp only [blockKinds, List.mem_filter, List.mem_cons, List.not_mem_nil, or_false]
  constructor
  · rintro (h | h)
    · split at h
      next hkind => exact ⟨_, ⟨.inl rfl, by simpa using hkind⟩, h⟩
      · contradiction
    · split at h
      next hkind => exact ⟨_, ⟨.inr rfl, by simpa using hkind⟩, h⟩
      · contradiction
  · rintro ⟨kind, ⟨rfl | rfl, hkind⟩, h⟩
    · left
      rwa [if_pos (by simpa using hkind)]
    · right
      rwa [if_pos (by simpa using hkind)]

/-- An entity of a walked file is found for a range of it. -/
theorem exists_isFoundFor (hfiles : (files.map (·.path)).Nodup) {file : SourceFile}
    (hfile : file ∈ files) {c : Entity} (hc : c ∈ scanKind files known kind)
    (hpath : c.path = file.path) :
  ∃ r ∈ Source.scan kind file.text, IsFoundFor known kind (file, r) c
  := by
  obtain ⟨file', hfile', r, hr, hfound⟩ := exists_range_of_mem_scanKind hc
  obtain rfl : file' = file := by
    apply List.inj_on_of_nodup_map hfiles hfile' hfile
    rw [← hpath, (eq_of_entityOfRange? hfound).1]
  exact ⟨r, hr, hfound⟩

theorem exists_container (known : Program) {file : SourceFile} (hfile : file ∈ files) {b : Range}
    (hb : b ∈ blocksOf kinds file.text) :
  ∃ c ∈ (foundKinds files known kinds).containers,
    c.path = file.path ∧ c.first = b.first ∧ c.last = b.last
  := by
  obtain ⟨kind, hkind, hb⟩ := List.mem_flatMap.1 hb
  obtain ⟨c, hc⟩ := Option.isSome_iff_exists.1 (isSome_entityOfRange? hb
    (roleOf kind file.path b (Text.lines file.text.toList) known) file.path)
  obtain ⟨hpath, hfirst, hlast, -⟩ := eq_of_entityOfRange? hc
  refine ⟨c, mem_containers_iff.2 ⟨kind, hkind, ?_⟩, hpath, hfirst, hlast⟩
  rw [scanKind, List.mem_flatMap]
  exact ⟨file, hfile, List.mem_filterMap.2 ⟨b, hb, hc⟩⟩

theorem exists_block (hfiles : (files.map (·.path)).Nodup) {file : SourceFile}
    (hfile : file ∈ files) {c : Entity} (hc : c ∈ (foundKinds files known kinds).containers)
    (hpath : c.path = file.path) :
  ∃ b ∈ blocksOf kinds file.text, c.first = b.first ∧ c.last = b.last
  := by
  obtain ⟨kind, hkind, hc⟩ := mem_containers_iff.1 hc
  obtain ⟨b, hb, hfound⟩ := exists_isFoundFor hfiles hfile hc hpath
  obtain ⟨-, hfirst, hlast, -⟩ := eq_of_entityOfRange? hfound
  exact ⟨b, List.mem_flatMap.2 ⟨kind, hkind, hb⟩, hfirst, hlast⟩

/-- Only the enclosing lines of an entity depend on the blocks around it. -/
theorem enclosedIn_same (containers : List Entity) (e : Entity) :
  ∃ enclosing, e.enclosedIn containers = { e with enclosing := enclosing }
  := by
  rw [Entity.enclosedIn]
  split
  next c _ => exact ⟨some (c.first, c.last), rfl⟩
  · exact ⟨e.enclosing, rfl⟩

/-- A block around the range of an entity is that of a container around the entity. -/
theorem IsFoundFor.exists_containing (kinds : List Kind) {file : SourceFile} {r : Range} {e : Entity}
    (hfile : file ∈ files) (h : IsFoundFor known kind (file, r) e) {b : Range}
    (hb : b ∈ blocksOf kinds file.text) (hstrict : r.StrictlyInside b) :
  ∃ c ∈ (foundKinds files known kinds).containers, c.contains e ∧ c.first = b.first ∧
    c.last = b.last
  := by
  obtain ⟨hpath, hfirst, hlast, -⟩ := eq_of_entityOfRange? h
  change e.path = file.path at hpath
  change e.first = r.first at hfirst
  change e.last = r.last at hlast
  obtain ⟨hlt, hlt'⟩ := hstrict
  obtain ⟨c, hc, hcpath, hcfirst, hclast⟩ := exists_container known hfile hb
  refine ⟨c, hc, Entity.contains_iff.2 ⟨hcpath.trans hpath.symm, ?_, ?_⟩, hcfirst, hclast⟩
  · omega
  · omega

/-- The block whose lines enclose an entity is the innermost one around its range. -/
theorem IsFoundFor.enclosing (hfiles : (files.map (·.path)).Nodup) (kinds : List Kind)
    {file : SourceFile} {r : Range} {e : Entity} (hfile : file ∈ files)
    (h : IsFoundFor known kind (file, r) e) :
  (∃ b, InnermostBlock (blocksOf kinds file.text) r b ∧
    (e.enclosedIn (foundKinds files known kinds).containers).enclosing
      = some ((b.first : Int), (b.last : Int))) ∨
  ((∀ b ∈ blocksOf kinds file.text, ¬ r.StrictlyInside b) ∧
    (e.enclosedIn (foundKinds files known kinds).containers).enclosing = none)
  := by
  obtain ⟨hpath, hfirst, hlast, hnone⟩ := eq_of_entityOfRange? h
  change e.path = file.path at hpath
  change e.first = r.first at hfirst
  change e.last = r.last at hlast
  have htext : ∀ file' ∈ files, file'.path = file.path → file'.text = file.text := by
    intro file' hfile' heq
    rw [List.inj_on_of_nodup_map hfiles hfile' hfile heq]
  rw [Entity.enclosedIn]
  cases hinnermost : e.innermost? (foundKinds files known kinds).containers with
  | none =>
    right
    refine ⟨?_, hnone⟩
    intro b hb hstrict
    obtain ⟨c, hc, hcontains, -⟩ := h.exists_containing kinds hfile hb hstrict
    have hsome := Entity.isSome_innermost?_iff.2 ⟨c, hc, hcontains⟩
    rw [hinnermost] at hsome
    contradiction
  | some c =>
    left
    have hnested : Entity.NestedAround (foundKinds files known kinds).containers e := by
      intro a ha b hb hea heb
      apply inside_or_inside_of_mem_containers htext hpath ha hb hea heb
    obtain ⟨hc, hcontains, hinside⟩ := (Entity.innermost?_eq_some_iff hnested).1 hinnermost
    obtain ⟨hcpath, hlt, hlt'⟩ := Entity.contains_iff.1 hcontains
    obtain ⟨b, hb, hbfirst, hblast⟩ := exists_block hfiles hfile hc (hcpath.trans hpath)
    refine ⟨b, ⟨hb, ⟨by omega, by omega⟩, ?_⟩, ?_⟩
    · intro a ha hstrict
      obtain ⟨c', hc', hcontains', hafirst, halast⟩ := h.exists_containing kinds hfile ha hstrict
      obtain rfl | ⟨hbegin, hend⟩ := hinside c' hc' hcontains'
      · left
        apply eq_of_mem_blocksOf ha hb
        rw [← hafirst, hbfirst]
      · right
        constructor <;> omega
    · rw [← hbfirst, ← hblast]
      rfl

/-- With the innermost block around it, the entity that is found for a range describes it. -/
theorem IsFoundFor.describes (hfiles : (files.map (·.path)).Nodup) {p : SourceFile × Range}
    {e : Entity} (hfile : p.1 ∈ files) (h : IsFoundFor known kind p e) :
  Describes known kinds kind p (e.enclosedIn (foundKinds files known kinds).containers)
  := by
  have henclosing := h.enclosing hfiles kinds hfile
  obtain ⟨hpath, hfirst, hlast, -⟩ := eq_of_entityOfRange? h
  obtain ⟨hrole, hname, -⟩ := h.eq
  obtain ⟨enclosing, heq⟩ := enclosedIn_same (foundKinds files known kinds).containers e
  rw [heq] at henclosing ⊢
  exact ⟨hpath, hname, hfirst, hlast, hrole, henclosing⟩

/-- A scan finds one entity for each range of a configured kind in a walked file. -/
theorem forall₂_scanKinds (hfiles : (files.map (·.path)).Nodup) (known : Program)
    (hkind : kind ∈ kinds) :
  List.Forall₂ (Describes known kinds kind) (rangesIn files kind)
    ((scanKinds files known kinds).ofKind kind)
  := by
  rw [scanKinds_eq, Scanned.ofKind_assignEnclosing, ofKind_foundKinds, if_pos hkind,
    List.forall₂_map_right_iff]
  have hfile : ∀ p ∈ rangesIn files kind, p.1 ∈ files := fun p hp => (mem_rangesIn.1 hp).1
  have hfound := (List.forall₂_and_left _ _).2 ⟨hfile, forall₂_scanKind files known kind⟩
  apply hfound.imp
  rintro p e ⟨hp, hpe⟩
  apply hpe.describes hfiles hp

end

/-! ### Entities that are found -/

/-- An entity that is found is of its kind, and has no identity. -/
theorem kind_and_id_of_mem_scanKinds {files : List SourceFile} {known : Program}
    {kinds : List Kind} {kind : Kind} {e : Entity}
    (h : e ∈ (scanKinds files known kinds).ofKind kind) :
  e.kind = kind ∧ e.id = ""
  := by
  rw [scanKinds_eq, Scanned.ofKind_assignEnclosing] at h
  obtain ⟨d, hd, rfl⟩ := List.mem_map.1 h
  rw [ofKind_foundKinds] at hd
  split at hd
  · obtain ⟨file, -, r, -, hr⟩ := exists_range_of_mem_scanKind hd
    obtain ⟨hrole, -, hid⟩ := IsFoundFor.eq (p := (file, r)) hr
    obtain ⟨enclosing, heq⟩ := enclosedIn_same (foundKinds files known kinds).containers d
    rw [heq]
    refine ⟨?_, hid⟩
    change d.role.kind = kind
    rw [hrole, kind_roleOf]
  · contradiction

theorem map_withId_eq_self {es : List Entity} (h : ∀ e ∈ es, e.id = "") :
  es.map (·.withId "") = es
  := by
  calc es.map (·.withId "")
      = es.map id := by
        apply List.map_congr_left
        intro e he
        rw [Entity.withId, ← h e he]
        rfl
    _ = es := List.map_id es

/-- Entities that are those found of a kind but for their identities describe the ranges of the
kind in some order. -/
theorem exists_forall₂_describes {files : List SourceFile} (hfiles : (files.map (·.path)).Nodup)
    {known : Program} {kinds : List Kind} {kind : Kind} (hkind : kind ∈ kinds) {es : List Entity}
    (h : (es.map (·.withId "")).Perm ((scanKinds files known kinds).ofKind kind)) :
  ∃ ps, ps.Perm (rangesIn files kind) ∧
    List.Forall₂ (fun p e => p ∈ rangesIn files kind ∧ Describes known kinds kind p e) ps es
  := by
  have hfound := forall₂_scanKinds hfiles known hkind
  obtain ⟨ps, hdescribes, hps⟩ := List.perm_comp_forall₂ h hfound.flip
  refine ⟨ps, hps, ?_⟩
  rw [List.forall₂_map_left_iff] at hdescribes
  apply (List.forall₂_and_left _ _).2 ⟨fun p hp => hps.mem_iff.1 hp, _⟩
  apply hdescribes.flip.imp
  intro p e hpe
  apply hpe.withId e.id

end AnchorIndex.Session

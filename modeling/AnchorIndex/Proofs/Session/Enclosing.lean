import AnchorIndex.Proofs.Source.Nesting
import AnchorIndex.Session.Scan
import Mathlib.Data.List.Basic

/-!
# The innermost block around an entity

The ranges of a file nest (`Source.Laminar`), so of the blocks around an entity one lies inside of
all others. This is the shortest one, which the scan picks: `innermost?_eq_some_iff` says so of
entities that nest, and `laminar_and_innermost` of the entities of a file.
-/

namespace AnchorIndex

/-! ### The shortest of nested entities -/

@[simp]
theorem shortest?_eq_none_iff {es : List Entity} :
  shortest? es = none ↔ es = []
  := by
  cases es with
  | nil => simp [shortest?]
  | cons e r =>
    rw [shortest?]
    cases shortest? r with
    | none => simp
    | some m =>
      change (if _ then some m else some e) = none ↔ _
      split <;> simp

/-- The shortest of entities is one of them, and none of them is shorter. -/
theorem mem_and_span_le_of_shortest? {es : List Entity} {m : Entity}
    (h : shortest? es = some m) :
  m ∈ es ∧ ∀ e ∈ es, m.span ≤ e.span
  := by
  induction es generalizing m with
  | nil => contradiction
  | cons e r ih =>
    rw [shortest?] at h
    cases hr : shortest? r with
    | none =>
      obtain rfl := shortest?_eq_none_iff.1 hr
      cases h
      simp
    | some m' =>
      obtain ⟨hmem, hle⟩ := ih hr
      simp only [hr] at h
      split at h
      next hlt =>
        cases h
        refine ⟨List.mem_cons_of_mem _ hmem, ?_⟩
        intro e' he'
        obtain rfl | he' := List.mem_cons.1 he'
        · omega
        · apply hle _ he'
      next hlt =>
        cases h
        refine ⟨List.mem_cons_self, ?_⟩
        intro e' he'
        obtain rfl | he' := List.mem_cons.1 he'
        · apply Nat.le_refl
        · have := hle _ he'
          omega

namespace Entity

/-- An entity begins inside of another one and ends on or before its last line. -/
def Inside (e outer : Entity) : Prop :=
  outer.first < e.first ∧ e.last ≤ outer.last

theorem Inside.span_lt {e outer : Entity} (h : e.Inside outer) :
  e.span < outer.span
  := by
  have := e.first_le_last
  have := h.1
  have := h.2
  rw [span, span]
  omega

/-- A container is the innermost one around an entity: it contains the entity and lies inside of
every other container that does. -/
structure Innermost (containers : List Entity) (e c : Entity) : Prop where
  mem : c ∈ containers
  contains : c.contains e
  inside : ∀ c' ∈ containers, c'.contains e → c' = c ∨ c.Inside c'

/-- The containers around an entity lie inside of one another. -/
def NestedAround (containers : List Entity) (e : Entity) : Prop :=
  ∀ a ∈ containers, ∀ b ∈ containers, a.contains e → b.contains e →
    a = b ∨ a.Inside b ∨ b.Inside a

theorem contains_iff {c e : Entity} :
  c.contains e ↔ c.path = e.path ∧ c.first < e.first ∧ e.last < c.last
  := by
  simp [contains, and_assoc]

/-- Of containers around an entity that lie inside of one another, the one that is picked is the
innermost. -/
theorem innermost?_eq_some_iff {containers : List Entity} {e : Entity}
    (hnested : NestedAround containers e) {c : Entity} :
  e.innermost? containers = some c ↔ e.Innermost containers c
  := by
  have hfilter : ∀ {a}, a ∈ containers.filter (·.contains e) ↔ a ∈ containers ∧ a.contains e :=
    List.mem_filter
  rw [innermost?]
  constructor
  · intro h
    obtain ⟨hmem, hle⟩ := mem_and_span_le_of_shortest? h
    obtain ⟨hc, hcontains⟩ := hfilter.1 hmem
    refine ⟨hc, hcontains, ?_⟩
    intro c' hc' hcontains'
    have hspan := hle c' (hfilter.2 ⟨hc', hcontains'⟩)
    obtain heq | hinside | hinside := hnested c' hc' c hc hcontains' hcontains
    · left
      exact heq
    · have := hinside.span_lt
      omega
    · right
      exact hinside
  · intro h
    cases hm : shortest? (containers.filter (·.contains e)) with
    | none =>
      have hmem := hfilter.2 ⟨h.mem, h.contains⟩
      rw [shortest?_eq_none_iff.1 hm] at hmem
      contradiction
    | some m =>
      obtain ⟨hmem, hle⟩ := mem_and_span_le_of_shortest? hm
      obtain ⟨hm, hcontains⟩ := hfilter.1 hmem
      obtain rfl | hinside := h.inside m hm hcontains
      · rfl
      · have := hinside.span_lt
        have := hle c (hfilter.2 ⟨h.mem, h.contains⟩)
        omega

/-- The order of containers does not matter if those around the entity lie inside of one
another. -/
theorem innermost?_congr {containers containers' : List Entity} {e : Entity}
    (hmem : ∀ c, c ∈ containers ↔ c ∈ containers') (hnested : NestedAround containers' e) :
  e.innermost? containers = e.innermost? containers'
  := by
  have hnested' : NestedAround containers e := by
    intro a ha b hb
    apply hnested a ((hmem a).1 ha) b ((hmem b).1 hb)
  apply Option.ext
  intro c
  rw [innermost?_eq_some_iff hnested, innermost?_eq_some_iff hnested']
  constructor
  · rintro ⟨hc, hcontains, hinside⟩
    exact ⟨(hmem c).1 hc, hcontains, fun c' hc' => hinside c' ((hmem c').2 hc')⟩
  · rintro ⟨hc, hcontains, hinside⟩
    exact ⟨(hmem c).2 hc, hcontains, fun c' hc' => hinside c' ((hmem c').1 hc')⟩

theorem isSome_innermost?_iff {containers : List Entity} {e : Entity} :
  (e.innermost? containers).isSome ↔ ∃ c ∈ containers, c.contains e
  := by
  rw [innermost?, ← not_iff_not, Bool.not_eq_true, Option.isSome_eq_false_iff,
    Option.isNone_iff_eq_none, shortest?_eq_none_iff, List.filter_eq_nil_iff]
  simp

/-- The lines of the innermost container are kept with the entity, if there is one. -/
theorem enclosing_enclosedIn {containers : List Entity} {e : Entity} (h : e.enclosing = none) :
  (e.enclosedIn containers).enclosing
    = ((e.enclosedIn containers).innermost? containers).map
        fun c => ((c.first : Int), (c.last : Int))
  := by
  cases hc : e.innermost? containers with
  | none =>
    have heq : e.enclosedIn containers = e := by simp [enclosedIn, hc]
    rw [heq, hc, h]
    rfl
  | some c =>
    have heq : e.enclosedIn containers = e.withEnclosing (c.first, c.last) := by
      simp [enclosedIn, hc]
    have hsame : (e.withEnclosing (c.first, c.last)).innermost? containers
        = e.innermost? containers := rfl
    rw [heq, hsame, hc]
    rfl

end Entity

/-! ### What is found for some kinds -/

theorem Scanned.ofKind_assignEnclosing (s : Scanned) (kind : Kind) :
  (assignEnclosing s).ofKind kind = (s.ofKind kind).map (·.enclosedIn s.containers)
  := by
  have hlookup : ∀ l : Scanned, ∀ f : Entity → Entity,
      (l.map fun p => (p.1, p.2.map f)).lookup kind = (l.lookup kind).map (·.map f) := by
    intro l f
    induction l with
    | nil => rfl
    | cons p l ih =>
      obtain ⟨k, es⟩ := p
      rw [List.map_cons, List.lookup_cons, List.lookup_cons, ih]
      dsimp only
      split <;> rfl
  have hassign : assignEnclosing s
      = s.map fun p => (p.1, p.2.map fun e => e.enclosedIn s.containers) := rfl
  rw [hassign, ofKind, hlookup, ofKind]
  cases s.lookup kind <;> rfl

namespace Session

open Files (SourceFile)

/-- What is found for each of some kinds, before the blocks around it are known. -/
def foundKinds (files : List SourceFile) (program : Program) (kinds : List Kind) : Scanned :=
  (distinctKinds kinds).map fun k => (k, scanKind files program k)

theorem scanKinds_eq (files : List SourceFile) (program : Program) (kinds : List Kind) :
  scanKinds files program kinds = assignEnclosing (foundKinds files program kinds)
  :=
  rfl

theorem ofKind_foundKinds (files : List SourceFile) (program : Program) (kinds : List Kind)
    (kind : Kind) :
  (foundKinds files program kinds).ofKind kind
    = if kind ∈ kinds then scanKind files program kind else []
  := by
  rw [Scanned.ofKind, foundKinds]
  split
  next h =>
    have hmem : kind ∈ distinctKinds kinds := List.mem_eraseDups.2 h
    rw [List.lookup_graph _ hmem]
    rfl
  next h =>
    have hlookup : ((distinctKinds kinds).map fun k => (k, scanKind files program k)).lookup kind
        = none := by
      rw [List.lookup_eq_none_iff]
      intro p hp
      obtain ⟨k, hk, rfl⟩ := List.mem_map.1 hp
      rw [bne_iff_ne]
      rintro rfl
      apply h (List.mem_eraseDups.1 hk)
    rw [hlookup]
    rfl

/-- An entity of a file stands for a range of its text. -/
theorem exists_range_of_mem_scanKind {files : List SourceFile} {program : Program} {kind : Kind}
    {e : Entity} (h : e ∈ scanKind files program kind) :
  ∃ file ∈ files, ∃ r ∈ Source.scan kind file.text,
    entityOfRange? (roleOf kind file.path r (Text.lines file.text.toList) program) file.path r
      = some e
  := by
  obtain ⟨file, hfile, h⟩ := List.mem_flatMap.1 h
  obtain ⟨r, hr, h⟩ := List.mem_filterMap.1 h
  exact ⟨file, hfile, r, hr, h⟩

theorem eq_of_entityOfRange? {role : Role} {path : String} {r : Source.Range} {e : Entity}
    (h : entityOfRange? role path r = some e) :
  e.path = path ∧ e.first = r.first ∧ e.last = r.last ∧ e.enclosing = none
  := by
  rw [entityOfRange?, Entity.ofLines?] at h
  split at h
  · cases h
    simp
  · contradiction

/-- Lists of the same kinds find the same. -/
theorem ofKind_scanKinds_of_mem_iff {files : List SourceFile} {program : Program}
    {kinds kinds' : List Kind} (h : ∀ kind, kind ∈ kinds' ↔ kind ∈ kinds) (kind : Kind) :
  (scanKinds files program kinds').ofKind kind = (scanKinds files program kinds).ofKind kind
  := by
  have hfound : ∀ kind, (foundKinds files program kinds').ofKind kind
      = (foundKinds files program kinds).ofKind kind := by
    intro kind
    rw [ofKind_foundKinds, ofKind_foundKinds, if_congr (h kind) rfl rfl]
  rw [scanKinds_eq, scanKinds_eq, Scanned.ofKind_assignEnclosing, Scanned.ofKind_assignEnclosing,
    Scanned.containers, Scanned.containers, hfound, hfound, hfound]

theorem enclosing_of_mem_scanKinds {files : List SourceFile} {program : Program}
    {kinds : List Kind} {kind : Kind} {e : Entity}
    (h : e ∈ (scanKinds files program kinds).ofKind kind) :
  e.enclosing
    = (e.innermost? (foundKinds files program kinds).containers).map
        fun c => ((c.first : Int), (c.last : Int))
  := by
  rw [scanKinds_eq, Scanned.ofKind_assignEnclosing] at h
  obtain ⟨e, he, rfl⟩ := List.mem_map.1 h
  apply Entity.enclosing_enclosedIn
  rw [ofKind_foundKinds] at he
  split at he
  · obtain ⟨file, -, r, -, hr⟩ := exists_range_of_mem_scanKind he
    exact (eq_of_entityOfRange? hr).2.2.2
  · contradiction

section

variable {files : List SourceFile} {program : Program} {kinds : List Kind} {path text : String}

/-- A container of a file stands for a range of its text that ends at a closing brace. -/
theorem exists_range_of_mem_containers
    (htext : ∀ file ∈ files, file.path = path → file.text = text) {c : Entity}
    (hc : c ∈ (foundKinds files program kinds).containers) (hpath : c.path = path) :
  ∃ kind, ∃ r ∈ Source.scan kind text,
    r.EndsAt text .closed ∧
    entityOfRange? (roleOf kind path r (Text.lines text.toList) program) path r = some c
  := by
  have hkind : ∃ kind, kind ≠ .struct ∧ c ∈ (foundKinds files program kinds).ofKind kind := by
    obtain hc | hc := List.mem_append.1 hc
    · exact ⟨_, by decide, hc⟩
    · exact ⟨_, by decide, hc⟩
  obtain ⟨kind, hstruct, hc⟩ := hkind
  rw [ofKind_foundKinds] at hc
  split at hc
  · obtain ⟨file, hfile, r, hr, hentity⟩ := exists_range_of_mem_scanKind hc
    obtain rfl : file.path = path := by rw [← hpath, (eq_of_entityOfRange? hentity).1]
    obtain rfl := htext file hfile rfl
    exact ⟨kind, r, hr, Source.endsAt_closed_of_mem_scan hr hstruct, hentity⟩
  · contradiction

/-- The containers around an entity of a file lie inside of one another. -/
theorem inside_or_inside_of_mem_containers
    (htext : ∀ file ∈ files, file.path = path → file.text = text) {e a b : Entity}
    (hpath : e.path = path) (ha : a ∈ (foundKinds files program kinds).containers)
    (hb : b ∈ (foundKinds files program kinds).containers) (hea : a.contains e)
    (heb : b.contains e) :
  a = b ∨ a.Inside b ∨ b.Inside a
  := by
  obtain ⟨hapath, hafirst, halast⟩ := Entity.contains_iff.1 hea
  obtain ⟨hbpath, hbfirst, hblast⟩ := Entity.contains_iff.1 heb
  obtain ⟨kind, r, hr, hclosed, hra⟩ :=
    exists_range_of_mem_containers htext ha (hapath.trans hpath)
  obtain ⟨kind', r', hr', hclosed', hrb⟩ :=
    exists_range_of_mem_containers htext hb (hbpath.trans hpath)
  obtain ⟨-, hfirst, hlast, -⟩ := eq_of_entityOfRange? hra
  obtain ⟨-, hfirst', hlast', -⟩ := eq_of_entityOfRange? hrb
  have := e.first_le_last
  obtain ⟨rfl, rfl⟩ | ⟨hlt, hle⟩ | ⟨hlt, hle⟩ :=
    Source.inside_or_inside hr hr' hclosed hclosed' (by omega) (by omega)
  · left
    apply Option.some.inj (hra.symm.trans hrb)
  · right
    left
    constructor <;> omega
  · right
    right
    constructor <;> omega

end

/-- The ranges of a text nest, and so do the blocks strictly around one of them. Of the blocks
around an entity, in whichever order they are listed, the scan picks the one that lies inside of
all others, and this does not depend on the order in which kinds are listed. -/
theorem laminar_and_innermost (text : String) :
  Source.Laminar text
  ∧ (∀ kind, ∀ r ∈ Source.scan kind text, ∀ a ∈ Source.blocks text, ∀ b ∈ Source.blocks text,
      r.StrictlyInside a → r.StrictlyInside b → a = b ∨ a.Inside b ∨ b.Inside a)
  ∧ ∀ (files : List SourceFile) (program : Program) (path : String) (kinds : List Kind),
      (∀ file ∈ files, file.path = path → file.text = text) →
      (∀ kind, ∀ e ∈ (scanKinds files program kinds).ofKind kind, e.path = path →
        ∀ containers, (∀ c, c ∈ containers ↔ c ∈ (foundKinds files program kinds).containers) →
          (∀ c, e.innermost? containers = some c
            ↔ e.Innermost (foundKinds files program kinds).containers c)
          ∧ ((e.innermost? containers).isSome
            ↔ ∃ c ∈ (foundKinds files program kinds).containers, c.contains e)
          ∧ e.enclosing
            = (e.innermost? containers).map fun c => ((c.first : Int), (c.last : Int)))
      ∧ ∀ kinds', (∀ kind, kind ∈ kinds' ↔ kind ∈ kinds) → ∀ kind,
          (scanKinds files program kinds').ofKind kind
            = (scanKinds files program kinds).ofKind kind
  := by
  refine ⟨Source.laminar text, ?_, ?_⟩
  · intro kind r hr a ha b hb hra hrb
    apply Source.inside_or_inside_of_mem_blocks hr ha hb hra hrb
  · intro files program path kinds htext
    refine ⟨?_, fun kinds' hkinds => ofKind_scanKinds_of_mem_iff hkinds⟩
    intro kind e he hpath containers hcontainers
    have hnested : Entity.NestedAround (foundKinds files program kinds).containers e := by
      intro a ha b hb hea heb
      apply inside_or_inside_of_mem_containers htext hpath ha hb hea heb
    rw [Entity.innermost?_congr hcontainers hnested]
    refine ⟨fun c => Entity.innermost?_eq_some_iff hnested, Entity.isSome_innermost?_iff, ?_⟩
    apply enclosing_of_mem_scanKinds he

/-- A function in a trait in an implementation, both of which end on one line. -/
def sharedBrace : String :=
  "impl Vault \x7b\ntrait Lock \x7b\nfn open() \x7b\n\x7d\n\x7d \x7d\n"

theorem laminar_and_innermost_sharedBrace :
  let files : List SourceFile := [⟨"lib.rs", sharedBrace⟩]
  let containers := (foundKinds files .unknown Kind.all).containers
  (∃ r ∈ Source.scan .function sharedBrace, ∃ a ∈ Source.blocks sharedBrace,
    ∃ b ∈ Source.blocks sharedBrace, r.StrictlyInside a ∧ r.StrictlyInside b
      ∧ (a.first = 1 ∧ a.last = 5) ∧ (b.first = 2 ∧ b.last = 5)
      ∧ (a = b ∨ a.Inside b ∨ b.Inside a))
  ∧ (∃ e ∈ (scanKinds files .unknown Kind.all).ofKind .function, ∃ c ∈ containers,
      e.path = "lib.rs" ∧ e.innermost? containers.reverse = some c ∧ e.Innermost containers c
      ∧ (c.first = 2 ∧ c.last = 5) ∧ e.enclosing = some (2, 5))
  ∧ (scanKinds files .unknown Kind.all.reverse).ofKind .function
    = (scanKinds files .unknown Kind.all).ofKind .function
  := by
  intro files containers
  obtain ⟨-, hchain, hpicked⟩ := laminar_and_innermost sharedBrace
  have htext : ∀ file ∈ files, file.path = "lib.rs" → file.text = sharedBrace := by
    intro file hfile hpath
    obtain rfl := List.mem_singleton.1 hfile
    rfl
  obtain ⟨hpicked, horder⟩ := hpicked files .unknown "lib.rs" Kind.all htext
  refine ⟨?_, ?_, horder _ (fun kind => List.mem_reverse) .function⟩
  · have hranges : ∃ r ∈ Source.scan .function sharedBrace, ∃ a ∈ Source.blocks sharedBrace,
        ∃ b ∈ Source.blocks sharedBrace, (r.first = 3 ∧ r.last = 4)
          ∧ (a.first = 1 ∧ a.last = 5) ∧ (b.first = 2 ∧ b.last = 5) := by
      decide +kernel
    obtain ⟨r, hr, a, ha, b, hb, hlines, halines, hblines⟩ := hranges
    have hra : r.StrictlyInside a := by constructor <;> omega
    have hrb : r.StrictlyInside b := by constructor <;> omega
    exact ⟨r, hr, a, ha, b, hb, hra, hrb, halines, hblines,
      hchain .function r hr a ha b hb hra hrb⟩
  · have hentity : ∃ e ∈ (scanKinds files .unknown Kind.all).ofKind .function,
        e.path = "lib.rs" ∧ ∃ c ∈ containers, c.contains e ∧ e.enclosing = some (2, 5) := by
      decide +kernel
    obtain ⟨e, he, hpath, c', hc', hcontains, henclosing⟩ := hentity
    obtain ⟨hiff, hsome, hlines⟩ :=
      hpicked .function e he hpath containers.reverse fun c => List.mem_reverse
    obtain ⟨c, hc⟩ := Option.isSome_iff_exists.1 (hsome.2 ⟨c', hc', hcontains⟩)
    have hinnermost := (hiff c).1 hc
    rw [henclosing, hc] at hlines
    have hpair : (2 : Int) = c.first ∧ (5 : Int) = c.last := by simpa using hlines
    exact ⟨e, he, c, hinnermost.mem, hpath, hc, hinnermost, by omega, henclosing⟩

end Session

end AnchorIndex

import AnchorIndex.Proofs.CallGraph.OrderedSet
import AnchorIndex.Proofs.Session.Actions
import AnchorIndex.Proofs.Store.Remembering
import AnchorIndex.Session.Resolve
import AnchorIndex.Session.Scan

/-!
# Computing dependency records

A dependency record is computed from what a scan leaves (`Basis`): the stored entities, the records
of implementations and the texts of the walked files. `Basis.record` is the record of a function as
a plain function of these. Reading entities, members and sources fills what a session remembers and
changes nothing else (`Reads`), so in every state in which the basis holds, computing answers this
record (`run_compute`).
-/

namespace AnchorIndex

namespace Session

open Effect
open Files (Disk SourceFile)

/-! ### The basis -/

/-- What calls are resolved with after a scan: the stored entities of each kind, which stand in
walked files, the implementation records, whose members are stored functions, and the files. -/
structure Basis where
  entities : Kind → List Entity
  implementations : List (String × Implementation.Record)
  files : List SourceFile
  isSome_textAt? : ∀ kind, ∀ e ∈ entities kind, (textAt? files e.path).isSome
  exists_of_mem_memberIds : ∀ p ∈ implementations, ∀ id ∈ p.2.memberIds,
    ∃ e ∈ entities .function, e.id = id

namespace Basis

variable (b : Basis)

/-- The stored entities under their identities. -/
def index : List (String × Entity) :=
  Store.indexById (Kind.all.flatMap b.entities)

/-- The lines of a walked file. -/
def lines (path : String) : List (List Char) :=
  Text.lines ((textAt? b.files path).getD "").toList

/-- The members of an implementation. -/
def membersOf (r : Implementation.Record) (ids : List String) : List Member :=
  ids.filterMap fun id =>
    (b.index.lookup id).map fun e => ⟨Implementation.baseName r.type, e.name, id⟩

/-- The members of implemented types; those of foreign traits have none. -/
def members : List Member :=
  b.implementations.flatMap fun p => if p.2.isExternal then [] else b.membersOf p.2 p.2.memberIds

/-- The identities of the functions with a name. -/
def named (name : String) : List String :=
  ((b.entities .function).filter (·.name == name)).map (·.id)

/-- The source text of an entity. -/
def text (e : Entity) : List Char :=
  excerpt (b.lines e.path) e.first e.last

/-- The dependency record of a function. -/
def record (e : Entity) : CallGraph.Record :=
  let body := Source.mask (Source.Function.body (b.text e))
  let taken := CallGraph.takeQualified (memberIds b.members) body
  let names := (CallGraph.callNames e.name taken.body).eraseDups
  .ofEdges e.id e.name (taken.ids ++ names.flatMap b.named)
    (names.filter fun name => (b.named name).isEmpty)

/-- A session is in a state in which nothing but the basis is remembered. -/
structure Holds (t : State) : Prop where
  entities : ∀ kind, t.store.memory.entities kind = some (b.entities kind)
  byId : ∀ index, t.store.memory.byId = some index → index = b.index
  implementations : t.store.memory.implementations = some b.implementations
  members : ∀ ms, t.members = some ms → ms = b.members
  sources : ∀ path text, textAt? b.files path = some text →
    ∀ lines, t.sources.lookup path = some lines → lines = Text.lines text.toList

/-- The files on a disk still have the texts that were walked. -/
def Readable (disk : Disk) : Prop :=
  ∀ path text, textAt? b.files path = some text →
    ∃ content, disk.content (disk.path path) = .ok content ∧ content.readLossy = text

variable {b}

/-! ### Looking up -/

theorem lookup_index (id : String) :
  b.index.lookup id
    = ((Kind.all.flatMap b.entities).map fun e => (e.id, e)).reverse.lookup id
  := lookup_mergeRepeated _ _

theorem isSome_lookup_index {kind : Kind} {e : Entity} (h : e ∈ b.entities kind) :
  (b.index.lookup e.id).isSome
  := by
  rw [lookup_index, Option.isSome_iff_ne_none, Ne, List.lookup_eq_none_iff]
  intro hnone
  have hmem : e ∈ Kind.all.flatMap b.entities := List.mem_flatMap.2 ⟨kind, Kind.mem_all kind, h⟩
  have := hnone _ (List.mem_reverse.2 (List.mem_map_of_mem hmem))
  simp at this

/-- An entity that is found under an identity is stored with it. -/
theorem of_lookup_index {id : String} {e : Entity} (h : b.index.lookup id = some e) :
  e.id = id ∧ ∃ kind, e ∈ b.entities kind
  := by
  rw [lookup_index] at h
  obtain ⟨e', he', heq⟩ := List.mem_map.1 (List.mem_reverse.1 (mem_of_lookup_eq_some h))
  cases heq
  obtain ⟨kind, -, hkind⟩ := List.mem_flatMap.1 he'
  exact ⟨rfl, kind, hkind⟩

theorem isSome_textAt?_of_lookup {id : String} {e : Entity} (h : b.index.lookup id = some e) :
  (textAt? b.files e.path).isSome
  := by
  obtain ⟨-, kind, hkind⟩ := of_lookup_index h
  apply b.isSome_textAt? kind e hkind

theorem isSome_lookup_of_mem_named {id name : String} (h : id ∈ b.named name) :
  (b.index.lookup id).isSome
  := by
  obtain ⟨e, he, rfl⟩ := List.mem_map.1 h
  apply isSome_lookup_index (List.mem_filter.1 he).1

theorem isSome_lookup_of_mem_memberIds {p : String × Implementation.Record}
    (h : p ∈ b.implementations) {id : String} (hid : id ∈ p.2.memberIds) :
  (b.index.lookup id).isSome
  := by
  obtain ⟨e, he, rfl⟩ := b.exists_of_mem_memberIds p h id hid
  apply isSome_lookup_index he

theorem isSome_lookup_of_mem_members {m : Member} (h : m ∈ b.members) :
  (b.index.lookup m.id).isSome
  := by
  obtain ⟨p, hp, hm⟩ := List.mem_flatMap.1 h
  split at hm
  · contradiction
  · obtain ⟨id, hid, hm⟩ := List.mem_filterMap.1 hm
    obtain ⟨e, -, rfl⟩ := Option.map_eq_some_iff.1 hm
    apply isSome_lookup_of_mem_memberIds hp hid

end Basis

/-- The functions that are taken out of a body are targets. -/
theorem exists_of_mem_takeQualifiedFrom {targets : String → String → List String} {inWord : Bool}
    {left : Nat} {blanked : Bool} {body : List Char} {id : String}
    (h : id ∈ (CallGraph.takeQualifiedFrom targets inWord left blanked body).ids) :
  ∃ type name, id ∈ targets type name
  := by
  induction body generalizing inWord left blanked with
  | nil => contradiction
  | cons c r ih =>
    cases left with
    | succ left => exact ih h
    | zero =>
      rw [CallGraph.takeQualifiedFrom] at h
      split at h
      · exact ih h
      next type method rest _ =>
        obtain h | h := List.mem_append.1 h
        · exact ⟨type, method, h⟩
        · exact ih h

namespace Basis

variable {b : Basis}

/-- The functions of a record are stored. -/
theorem isSome_lookup_of_mem_internal {e : Entity} {id : String}
    (h : id ∈ (b.record e).internal) :
  (b.index.lookup id).isSome
  := by
  obtain h | h := List.mem_append.1 (mem_orderedSet.1 h)
  · obtain ⟨type, name, hid⟩ := exists_of_mem_takeQualifiedFrom h
    obtain ⟨m, hm, rfl⟩ := List.mem_map.1 hid
    apply isSome_lookup_of_mem_members (List.mem_filter.1 hm).1
  · obtain ⟨name, -, hid⟩ := List.mem_flatMap.1 h
    apply isSome_lookup_of_mem_named hid

end Basis

/-! ### Reading -/

/-- In the second state of a session the same basis holds, some more bodies were searched, and the
disk and the dependency records are as in the first one. -/
structure Reads (b : Basis) (bodies : Nat) (t t' : State) : Prop where
  holds : b.Holds t'
  disk : t'.store.disk = t.store.disk
  folder : t'.store.folder = t.store.folder
  dependencies : t'.store.memory.dependencies = t.store.memory.dependencies
  parsed : t'.parsed = t.parsed + bodies

theorem Reads.refl {b : Basis} {t : State} (h : b.Holds t) :
  Reads b 0 t t
  := ⟨h, rfl, rfl, rfl, rfl⟩

theorem Reads.trans {b : Basis} {m n : Nat} {t t' t'' : State} (h : Reads b m t t')
    (h' : Reads b n t' t'') :
  Reads b (m + n) t t''
  := by
  refine ⟨h'.holds, h'.disk.trans h.disk, h'.folder.trans h.folder,
    h'.dependencies.trans h.dependencies, ?_⟩
  rw [h'.parsed, h.parsed, Nat.add_assoc]

section

variable {b : Basis} {t : State}

theorem run_query (h : b.Holds t) (kind : Kind) (name : Option String) (role : Option Role) :
  run (onStore (Store.query kind name role)) t
    = (.ok ((b.entities kind).filter fun e =>
        (name.all fun n => e.name == n) && (role.all fun r => e.role == r)), t)
  := run_onStore_eq (Store.run_query_of_remembered h.entities kind name role)

/-- The state of a session with the index of all entities remembered. -/
def withIndex (b : Basis) (t : State) : State :=
  { t with store := t.store.withIndex b.index }

theorem reads_withIndex (h : b.Holds t) :
  Reads b 0 t (withIndex b t)
  := by
  refine ⟨⟨h.entities, ?_, h.implementations, h.members, h.sources⟩, rfl, rfl, rfl, rfl⟩
  rintro _ ⟨⟩
  rfl

theorem run_byId (h : b.Holds t) :
  run (onStore Store.byId) t = (.ok b.index, withIndex b t)
  := run_onStore_eq (Store.run_byId_of_remembered h.entities h.byId)

theorem run_find? (h : b.Holds t) (id : String) :
  run (onStore (Store.find? id)) t = (.ok (b.index.lookup id), withIndex b t)
  := run_onStore_eq (Store.run_find?_of_remembered h.entities h.byId id)

theorem run_read (h : b.Holds t) {id : String} {e : Entity} (he : b.index.lookup id = some e) :
  run (onStore (Store.read id)) t = (.ok e, withIndex b t)
  := run_onStore_eq (Store.run_read_of_lookup_eq_some h.entities h.byId he)

theorem run_read_of_none (h : b.Holds t) {id : String} (hid : b.index.lookup id = none) :
  run (onStore (Store.read id)) t
    = (.error (.fault (.entityMissing id "any kind")), withIndex b t)
  := run_onStore_eq (Store.run_read_of_lookup_eq_none h.entities h.byId hid)

/-! ### Members -/

theorem run_membersOf (h : b.Holds t) (r : Implementation.Record) {ids : List String}
    (hids : ∀ id ∈ ids, (b.index.lookup id).isSome) :
  ∃ t', run (membersOf r ids) t = (.ok (b.membersOf r ids), t') ∧ Reads b 0 t t'
  := by
  induction ids generalizing t with
  | nil => exact ⟨t, rfl, .refl h⟩
  | cons id ids ih =>
    obtain ⟨e, he⟩ := Option.isSome_iff_exists.1 (hids id List.mem_cons_self)
    have hreads := reads_withIndex h
    obtain ⟨t', hrun, hreads'⟩ :=
      ih hreads.holds fun id' hid' => hids id' (List.mem_cons_of_mem id hid')
    refine ⟨t', ?_, hreads.trans hreads'⟩
    rw [membersOf, run_bind_ok (run_read h he), run_bind_ok hrun, run_pure, Basis.membersOf,
      Basis.membersOf, List.filterMap_cons, he]
    rfl

theorem run_membersOfAll (h : b.Holds t) {ps : List (String × Implementation.Record)}
    (hps : ∀ p ∈ ps, p ∈ b.implementations) :
  ∃ t', run (membersOfAll (ps.map Prod.snd)) t
      = (.ok (ps.flatMap fun p =>
          if p.2.isExternal then [] else b.membersOf p.2 p.2.memberIds), t') ∧
    Reads b 0 t t'
  := by
  induction ps generalizing t with
  | nil => exact ⟨t, rfl, .refl h⟩
  | cons p ps ih =>
    have hhere : ∃ t', run (if p.2.isExternal then pure [] else membersOf p.2 p.2.memberIds) t
        = (.ok (if p.2.isExternal then [] else b.membersOf p.2 p.2.memberIds), t') ∧
        Reads b 0 t t' := by
      split
      · exact ⟨t, rfl, .refl h⟩
      · apply run_membersOf h p.2
        intro id hid
        apply Basis.isSome_lookup_of_mem_memberIds (hps p List.mem_cons_self) hid
    obtain ⟨t₁, hrun₁, hreads₁⟩ := hhere
    obtain ⟨t₂, hrun₂, hreads₂⟩ :=
      ih hreads₁.holds fun q hq => hps q (List.mem_cons_of_mem p hq)
    refine ⟨t₂, ?_, hreads₁.trans hreads₂⟩
    rw [List.map_cons, membersOfAll_cons, run_bind_ok hrun₁, run_bind_ok hrun₂, run_pure,
      List.flatMap_cons]

theorem run_implementations (h : b.Holds t) :
  run (onStore Store.implementations) t = (.ok (b.implementations.map Prod.snd), t)
  := by
  apply run_onStore_eq
  rw [Store.implementations, Store.implementationIndex_eq, Store.Effect.run_bind_ok
    (Store.run_consult_of_remembered Store.implementationShelf h.implementations)]
  rfl

/-- The members are answered, and remembered if they were not. -/
theorem run_members (h : b.Holds t) :
  ∃ t', run members t = (.ok b.members, t') ∧ Reads b 0 t t'
  := by
  rw [members, run_get_bind]
  cases hmembers : t.members with
  | some ms =>
    obtain rfl := h.members ms hmembers
    exact ⟨t, rfl, .refl h⟩
  | none =>
    obtain ⟨t', hrun, hreads⟩ := run_membersOfAll h fun p hp => hp
    refine ⟨{ t' with members := some b.members }, ?_, ?_⟩
    · simp only
      rw [run_bind_ok (run_implementations h), run_bind_ok hrun]
      rfl
    · have hholds := hreads.holds
      refine ⟨⟨hholds.entities, hholds.byId, hholds.implementations, ?_, hholds.sources⟩,
        hreads.disk, hreads.folder, hreads.dependencies, hreads.parsed⟩
      rintro _ ⟨⟩
      rfl

/-! ### Sources -/

theorem run_sourceLines (h : b.Holds t) (hreadable : b.Readable t.store.disk) {path : String}
    (hpath : (textAt? b.files path).isSome) :
  ∃ t', run (sourceLines path) t = (.ok (b.lines path), t') ∧ Reads b 0 t t'
  := by
  obtain ⟨text, htext⟩ := Option.isSome_iff_exists.1 hpath
  have hlines : b.lines path = Text.lines text.toList := by
    rw [Basis.lines, htext]
    rfl
  rw [sourceLines, run_get_bind, hlines]
  cases hsource : t.sources.lookup path with
  | some lines =>
    obtain rfl := h.sources path text htext lines hsource
    exact ⟨t, rfl, .refl h⟩
  | none =>
    obtain ⟨content, hcontent, rfl⟩ := hreadable path text htext
    refine ⟨{ t with sources := setEntry path (Text.lines content.readLossy.toList) t.sources },
      ?_, ?_⟩
    · simp only [hcontent]
      rw [run_modify_bind, run_pure]
    · refine ⟨⟨h.entities, h.byId, h.implementations, h.members, ?_⟩, rfl, rfl, rfl, rfl⟩
      intro path' text' htext' lines hsource'
      rw [lookup_setEntry] at hsource'
      split at hsource'
      next heq =>
        subst heq
        cases hsource'
        rw [htext] at htext'
        cases htext'
        rfl
      · apply h.sources path' text' htext' lines hsource'

theorem run_content (h : b.Holds t) (hreadable : b.Readable t.store.disk) {e : Entity}
    (hpath : (textAt? b.files e.path).isSome) :
  ∃ t', run (content e) t = (.ok (b.text e), t') ∧ Reads b 0 t t'
  := by
  obtain ⟨t', hrun, hreads⟩ := run_sourceLines h hreadable hpath
  refine ⟨t', ?_, hreads⟩
  rw [content, run_bind_ok hrun, run_pure]
  rfl

/-! ### Records -/

theorem run_lookUpNames (h : b.Holds t) (names : List String) :
  run (lookUpNames names) t
    = (.ok (names.flatMap b.named, names.filter fun name => (b.named name).isEmpty), t)
  := by
  induction names with
  | nil => rfl
  | cons name names ih =>
    have hquery : run (onStore (Store.query .function (some name) none)) t
        = (.ok ((b.entities .function).filter (·.name == name)), t) := by
      simpa using run_query h .function (some name) none
    have hempty : ((b.entities .function).filter (·.name == name)).isEmpty
        = (b.named name).isEmpty := by
      rw [Basis.named, List.isEmpty_map]
    rw [lookUpNames, run_bind_ok hquery, run_bind_ok ih]
    simp only [hempty, List.flatMap_cons, List.filter_cons]
    by_cases hnamed : (b.named name).isEmpty
    · rw [if_pos hnamed, if_pos hnamed, List.isEmpty_iff.1 hnamed, run_pure]
      rfl
    · rw [if_neg hnamed, if_neg hnamed, run_pure]
      rfl

/-- The record that is computed of a stored function is that of the basis. -/
theorem run_compute (h : b.Holds t) (hreadable : b.Readable t.store.disk) {e : Entity}
    (hpath : (textAt? b.files e.path).isSome) :
  ∃ t', run (compute e) t = (.ok (b.record e), t') ∧ Reads b 1 t t'
  := by
  have hholds : b.Holds { t with parsed := t.parsed + 1 } :=
    ⟨h.entities, h.byId, h.implementations, h.members, h.sources⟩
  obtain ⟨t₁, hcontent, hreads₁⟩ := run_content hholds hreadable hpath
  obtain ⟨t₂, hmembers, hreads₂⟩ := run_members hreads₁.holds
  have hreads : Reads b 0 { t with parsed := t.parsed + 1 } t₂ := hreads₁.trans hreads₂
  refine ⟨t₂, ?_, hreads.holds, hreads.disk, hreads.folder, hreads.dependencies, hreads.parsed⟩
  rw [compute, run_modify_bind, run_bind_ok hcontent, run_bind_ok hmembers,
    run_bind_ok (run_lookUpNames hreads₂.holds _), run_pure]
  rfl

end

end Session

end AnchorIndex

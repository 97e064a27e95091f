import AnchorIndex.Proofs.Entity.Identity
import AnchorIndex.Proofs.Session.Building
import AnchorIndex.Proofs.Session.Isolation
import AnchorIndex.Proofs.Session.Persisting
import AnchorIndex.Proofs.Session.Retaining

/-!
# Members of implementations

A function that is found lies strictly inside one implementation block at most, since the blocks of
a text follow one another. The record of a block lists the functions inside it, by first line
(`HasMembers`). Records name functions by their identities: where these are different, a scan
leaves each function in one record at most (`members_after_scan`). They are different in every run
that began with an empty folder of documents; but documents may be edited, and a scan keeps the
identities that it finds there (`shared_identity_after_scan`).
-/

namespace AnchorIndex

/-! ### Members of one block -/

namespace Implementation

variable {block : Entity} {functions : List Entity}

theorem mem_members_iff {f : Entity} :
  f ∈ members block functions ↔ f ∈ functions ∧ block.contains f = true
  := by
  rw [members, List.mem_mergeSort, List.mem_filter]

/-- Members that start on different lines of one file are listed by their first lines. -/
theorem pairwise_members (h : Apart functions) :
  (members block functions).Pairwise fun f g => f.first < g.first
  := by
  have hsorted : (members block functions).Pairwise fun f g => f.first ≤ g.first := by
    have htrans : ∀ a b c : Entity, decide (a.first ≤ b.first) = true →
        decide (b.first ≤ c.first) = true → decide (a.first ≤ c.first) = true := by
      intro a b c hab hbc
      rw [decide_eq_true_eq] at hab hbc ⊢
      omega
    have htotal : ∀ a b : Entity,
        (decide (a.first ≤ b.first) || decide (b.first ≤ a.first)) = true := by
      intro a b
      rw [Bool.or_eq_true, decide_eq_true_eq, decide_eq_true_eq]
      omega
    apply (List.pairwise_mergeSort htrans htotal _).imp
    intro a b hab
    simpa using hab
  have hperm : (members block functions).Perm (functions.filter (block.contains ·)) :=
    List.mergeSort_perm _ _
  have hapart : Apart (members block functions) := by
    apply Apart.perm _ hperm
    apply List.Nodup.sublist (List.filter_sublist.map _) h
  rw [Apart, List.Nodup, List.pairwise_map] at hapart
  apply (hsorted.and hapart).imp_of_mem
  rintro f g hf hg ⟨hle, hne⟩
  have hfpath := (Entity.contains_iff.1 (mem_members_iff.1 hf).2).1
  have hgpath := (Entity.contains_iff.1 (mem_members_iff.1 hg).2).1
  apply lt_of_le_of_ne hle
  intro hfirst
  apply hne
  rw [← hfpath, ← hgpath, hfirst]

end Implementation

namespace Session

open Effect
open Files (SourceFile)
open Source (Range)
open Implementation (Record mem_members_iff pairwise_members)

/-- The record is that of a block: it lists the functions strictly inside the block, by first
line. -/
structure HasMembers (functions : List Entity) (block : Entity) (r : Record) : Prop where
  entityId : r.entityId = block.id
  members : ∃ ms : List Entity, r.memberIds = ms.map (·.id) ∧
    (ms.Pairwise fun f g => f.first < g.first) ∧
    ∀ f, f ∈ ms ↔ f ∈ functions ∧ block.contains f = true

theorem hasMembers_build {functions : List Entity} (h : Apart functions) (block : Entity)
    (definitions : List (String × Entity)) :
  HasMembers functions block (Record.build block functions definitions)
  := ⟨rfl, _, rfl, pairwise_members h, fun _ => mem_members_iff⟩

/-- Entities have different identities. -/
def Distinct (es : List Entity) : Prop :=
  (es.map (·.id)).Nodup

theorem Distinct.eq_of_id_eq {es : List Entity} (h : Distinct es) {d e : Entity} (hd : d ∈ es)
    (he : e ∈ es) (hid : d.id = e.id) :
  d = e
  := List.inj_on_of_nodup_map h hd he hid

namespace HasMembers

variable {functions : List Entity} {block : Entity} {r : Record}

/-- Where functions have different identities, those inside of a block are the ones that its record
names. -/
theorem mem_memberIds_iff (h : HasMembers functions block r) (hdistinct : Distinct functions)
    {f : Entity} (hf : f ∈ functions) :
  f.id ∈ r.memberIds ↔ block.contains f = true
  := by
  obtain ⟨ms, hms, -, hmem⟩ := h.members
  rw [hms, List.mem_map]
  constructor
  · rintro ⟨g, hg, hid⟩
    obtain ⟨hg, hinside⟩ := (hmem g).1 hg
    rwa [hdistinct.eq_of_id_eq hf hg hid.symm]
  · intro hinside
    exact ⟨f, (hmem f).2 ⟨hf, hinside⟩, rfl⟩

theorem nodup_memberIds (h : HasMembers functions block r) (hdistinct : Distinct functions) :
  r.memberIds.Nodup
  := by
  obtain ⟨ms, hms, hsorted, hmem⟩ := h.members
  rw [hms]
  apply List.Nodup.map_on
  · intro f hf g hg
    apply hdistinct.eq_of_id_eq ((hmem f).1 hf).1 ((hmem g).1 hg).1
  · apply hsorted.imp
    rintro f g hlt rfl
    omega

end HasMembers

/-! ### Functions and blocks -/

section

variable {files : List SourceFile} (hfiles : (files.map (·.path)).Nodup) {known : Program}
  {kinds : List Kind} {ps : List (SourceFile × Range)} {blocks : List Entity}

include hfiles

/-- Of the blocks that are found, one at most is around an entity. -/
theorem eq_of_contains (hps : ps.Perm (rangesIn files .implementation))
    (h : List.Forall₂ (fun p e => p ∈ rangesIn files .implementation ∧
      Describes known kinds .implementation p e) ps blocks) {b c f : Entity} (hb : b ∈ blocks)
    (hc : c ∈ blocks) (hbf : b.contains f = true) (hcf : c.contains f = true) :
  b = c
  := by
  obtain ⟨hbpath, hbfirst, hblast⟩ := Entity.contains_iff.1 hbf
  obtain ⟨hcpath, hcfirst, hclast⟩ := Entity.contains_iff.1 hcf
  obtain ⟨⟨file, r⟩, -, hp, hpb⟩ := exists_of_forall₂_right h hb
  obtain ⟨⟨file', r'⟩, -, hp', hpc⟩ := exists_of_forall₂_right h hc
  obtain ⟨hfile, hr⟩ := mem_rangesIn.1 hp
  obtain ⟨hfile', hr'⟩ := mem_rangesIn.1 hp'
  have hpath : b.path = c.path := hbpath.trans hcpath.symm
  obtain rfl : file = file' := by
    apply List.inj_on_of_nodup_map hfiles hfile hfile'
    rw [← hpb.path, ← hpc.path, hpath]
  have hlines := f.first_le_last
  have hrange : r = r' := by
    apply Source.eq_of_overlap hr hr'
    · rw [← hpb.first, ← hpc.last]
      omega
    · rw [← hpc.first, ← hpb.last]
      omega
  have hapart := apart_of_describes hps (h.imp fun _ _ => And.right) hfiles
  apply List.inj_on_of_nodup_map hapart hb hc
  rw [hpath, hpb.first, hpc.first, hrange]

omit hfiles in
/-- A function whose enclosing lines are those of a block in its file is inside of the block. -/
theorem contains_of_enclosing {p : SourceFile × Range} {kind : Kind} {f b : Entity}
    (h : Describes known kinds kind p f) (hpath : f.path = b.path)
    (henclosing : f.enclosing = some ((b.first : Int), (b.last : Int))) :
  b.contains f = true
  := by
  obtain ⟨c, hc, heq⟩ | ⟨-, hnone⟩ := h.enclosing
  · rw [heq, Option.some.injEq, Prod.mk.injEq, Int.natCast_inj, Int.natCast_inj] at henclosing
    obtain ⟨hfirst, hlast⟩ := hc.around
    apply Entity.contains_iff.2
    rw [h.first, h.last, ← henclosing.1, ← henclosing.2]
    exact ⟨hpath.symm, hfirst, hlast⟩
  · rw [hnone] at henclosing
    contradiction

end

/-! ### Records of all blocks -/

/-- Records are those of blocks. A function lies inside of one block at most, and it lies inside of
the block that it is said to be enclosed by. -/
structure Grouped (functions blocks : List Entity) (records : List Record) : Prop where
  exists_block : ∀ r ∈ records, ∃ b ∈ blocks, HasMembers functions b r
  block_unique : ∀ f ∈ functions, ∀ b ∈ blocks, ∀ c ∈ blocks,
    b.contains f = true → c.contains f = true → b = c
  enclosed : ∀ f ∈ functions, ∀ b ∈ blocks, f.path = b.path →
    f.enclosing = some ((b.first : Int), (b.last : Int)) → b.contains f = true

/-- The records, one for each block, part the functions by their identities: a function is named by
one record at most and there once, and by the record of a block exactly if it lies inside of it. -/
structure Partitioned (functions blocks : List Entity) (records : List Record) : Prop where
  perm_blocks : (records.map (·.entityId)).Perm (blocks.map (·.id))
  record_unique : ∀ f ∈ functions, ∀ r ∈ records, ∀ q ∈ records,
    f.id ∈ r.memberIds → f.id ∈ q.memberIds → r = q
  nodup_memberIds : ∀ r ∈ records, r.memberIds.Nodup
  mem_memberIds_iff : ∀ f ∈ functions, ∀ b ∈ blocks, ∀ r ∈ records, r.entityId = b.id →
    (f.id ∈ r.memberIds ↔ b.contains f = true)
  mem_of_enclosing : ∀ f ∈ functions, ∀ b ∈ blocks, ∀ r ∈ records, r.entityId = b.id →
    f.path = b.path → f.enclosing = some ((b.first : Int), (b.last : Int)) → f.id ∈ r.memberIds

/-- Where functions have different identities and blocks too, the records part the functions. -/
theorem Grouped.partitioned {functions blocks : List Entity} {records : List Record}
    (h : Grouped functions blocks records) (hfunctions : Distinct functions)
    (hblocks : Distinct blocks)
    (hperm : (records.map (·.entityId)).Perm (blocks.map (·.id))) :
  Partitioned functions blocks records
  := by
  have hmem : ∀ f ∈ functions, ∀ b ∈ blocks, ∀ r ∈ records, r.entityId = b.id →
      (f.id ∈ r.memberIds ↔ b.contains f = true) := by
    intro f hf b hb r hr hid
    obtain ⟨c, hc, hmembers⟩ := h.exists_block r hr
    obtain rfl : b = c := hblocks.eq_of_id_eq hb hc (hid.symm.trans hmembers.entityId)
    apply hmembers.mem_memberIds_iff hfunctions hf
  refine ⟨hperm, ?_, ?_, hmem, ?_⟩
  · intro f hf r hr q hq hfr hfq
    obtain ⟨b, hb, hrb⟩ := h.exists_block r hr
    obtain ⟨c, hc, hqc⟩ := h.exists_block q hq
    obtain rfl : b = c := h.block_unique f hf b hb c hc
      ((hrb.mem_memberIds_iff hfunctions hf).1 hfr) ((hqc.mem_memberIds_iff hfunctions hf).1 hfq)
    apply List.inj_on_of_nodup_map (hperm.nodup_iff.2 hblocks) hr hq
    rw [hrb.entityId, hqc.entityId]
  · intro r hr
    obtain ⟨b, -, hmembers⟩ := h.exists_block r hr
    apply hmembers.nodup_memberIds hfunctions
  · intro f hf b hb r hr hid hpath henclosing
    apply (hmem f hf b hb r hr hid).2
    apply h.enclosed f hf b hb hpath henclosing

/-! ### Records that a scan builds -/

/-- The index of records that are built for blocks, as a scan stores it. -/
def indexOf (built : List Record) : List (String × Record) :=
  Store.indexRecords (·.entityId) (built.mergeSort (Store.orderedBy (·.name) (·.entityId)))

section

variable {functions blocks : List Entity} {definitions : List (String × Entity)}
  {built : List Record}
  (hbuilt : blocks.mapM (Record.buildChecked · functions definitions) = .ok built)

include hbuilt

theorem exists_hasMembers_of_mem_indexOf (h : Apart functions) {r : Record}
    (hr : r ∈ (indexOf built).map Prod.snd) :
  ∃ b ∈ blocks, HasMembers functions b r
  := by
  obtain ⟨p, hp, rfl⟩ := List.mem_map.1 hr
  have hmem := List.mem_mergeSort.1 (Store.mem_of_mem_indexRecords hp)
  obtain ⟨b, hb, heq⟩ := exists_of_forall₂_right (forall₂_of_mapM hbuilt) hmem
  use b, hb
  rw [heq]
  apply hasMembers_build h

theorem perm_map_entityId (h : Distinct blocks) :
  (((indexOf built).map Prod.snd).map (·.entityId)).Perm (blocks.map (·.id))
  := by
  have hsorted : ((built.mergeSort (Store.orderedBy (·.name) (·.entityId))).map
      (·.entityId)).Perm (blocks.map (·.id)) := by
    rw [← map_entityId_of_mapM hbuilt]
    apply (List.mergeSort_perm _ _).map
  rw [indexOf, Store.map_snd_indexRecords (hsorted.nodup_iff.2 h)]
  exact hsorted

/-- Each block has a record under its identity. -/
theorem exists_lookup_indexOf {b : Entity} (hb : b ∈ blocks) :
  ∃ r ∈ (indexOf built).map Prod.snd, r.entityId = b.id ∧ (indexOf built).lookup b.id = some r
  := by
  have hid : b.id ∈ (built.mergeSort (Store.orderedBy (·.name) (·.entityId))).map (·.entityId) := by
    rw [((List.mergeSort_perm _ _).map _).mem_iff, map_entityId_of_mapM hbuilt]
    apply List.mem_map_of_mem hb
  have hsome : ((indexOf built).lookup b.id).isSome := by
    rw [indexOf, Store.indexRecords, lookup_mergeRepeated, isSome_lookup_iff, List.map_reverse,
      List.mem_reverse, List.map_map]
    exact hid
  obtain ⟨r, hr⟩ := Option.isSome_iff_exists.1 hsome
  refine ⟨r, List.mem_map_of_mem (mem_of_lookup_eq_some hr), ?_, hr⟩
  rw [indexOf, Store.indexRecords, lookup_mergeRepeated] at hr
  obtain ⟨q, -, heq⟩ := List.mem_map.1 (List.mem_reverse.1 (mem_of_lookup_eq_some hr))
  rw [Prod.mk.injEq] at heq
  rw [← heq.1, heq.2]

end

/-! ### The scan -/

/-- The session comes from a store whose folder held no document. -/
def BeganFresh (s : State) : Prop :=
  ∃ s₁ : State, s₁.store.IsFresh ∧ s₁.store.mint.IsLawful ∧ Run (fun _ _ => True) s₁ s

/-- In a run from an empty folder, entities of one kind have different identities. -/
theorem BeganFresh.distinct {s t : State} {r : Except Failure Summary} (h : BeganFresh s)
    (hscan : run scan s = (r, t)) {kind : Kind} {es : List Entity}
    (hes : Remembers kind es t.store.memory) :
  Distinct es
  := by
  obtain ⟨s₁, hfresh, hlawful, hrun⟩ := h
  obtain ⟨ds, hds⟩ := exists_recorded_of_run hfresh hlawful (hrun.tail (.scan trivial hscan))
  rw [hds.identified.eq_of_stored (Store.State.stored_of_some hes)]
  apply hds.identified.nodup

/-- What a session remembers of functions, blocks and their records after a scan. -/
structure RemembersMembers (s : State) (functions blocks : List Entity) (records : List Record) :
    Prop where
  remembers_functions : Remembers .function functions s.store.memory
  remembers_blocks : Remembers .implementation blocks s.store.memory
  answer_records : answer (onStore Store.implementations) s = .ok records
  answer_record : ∀ b ∈ blocks, ∃ r ∈ records, r.entityId = b.id ∧
    answer (onStore (Store.implementation? b.id)) s = .ok (some r)
  perm_blocks : Distinct blocks → (records.map (·.entityId)).Perm (blocks.map (·.id))
  grouped : Grouped functions blocks records

theorem exists_remembersMembers_of_scan {s₀ s : State} {summary : Summary}
    (hproper : s₀.store.disk.tree.isProper = true)
    (hkinds : ∀ kind, kind ∈ s₀.settings.scan.kinds) (hscan : run scan s₀ = (.ok summary, s)) :
  ∃ functions blocks records, RemembersMembers s functions blocks records
  := by
  obtain ⟨found, known, sources, hwalk, -, hrun, hstored⟩ := stored_after_scan hproper hscan
  have hfiles := Files.nodup_walk hproper hwalk
  obtain ⟨functions, blocks, traits, built, hfunctions, hblocks, hbuilt, hremembers⟩ :=
    exists_records_of_run_scanFound hrun (hkinds _) (hkinds _)
  obtain ⟨ps, es, hes, -, hps, hfound⟩ := hstored .function (hkinds _)
  obtain rfl : es = functions := Option.some.inj (hes.symm.trans hfunctions)
  obtain ⟨qs, bs, hbs, -, hqs, hbfound⟩ := hstored .implementation (hkinds _)
  obtain rfl : bs = blocks := Option.some.inj (hbs.symm.trans hblocks)
  have hindex : Store.implementationShelf.index s.store = .ok (indexOf built) := by
    have hremembered : Store.implementationShelf.remembered s.store.memory
        = some (indexOf built) := hremembers
    rw [Store.Shelf.index, hremembered]
  refine ⟨es, bs, (indexOf built).map Prod.snd, hes, hbs, ?_, ?_, perm_map_entityId hbuilt, ?_⟩
  · rw [answer_onStore, Store.answer_implementations, hindex]
    rfl
  · intro b hb
    obtain ⟨r, hr, hid, hlookup⟩ := exists_lookup_indexOf hbuilt hb
    use r, hr, hid
    rw [answer_onStore, Store.answer_implementation?, hindex]
    exact congrArg Except.ok hlookup
  · refine ⟨?_, ?_, ?_⟩
    · intro r hr
      apply exists_hasMembers_of_mem_indexOf hbuilt _ hr
      apply apart_of_describes hps (hfound.imp fun _ _ => And.right) hfiles
    · intro f _ b hb c hc
      apply eq_of_contains hfiles hqs hbfound hb hc
    · intro f hf b _ hpath henclosing
      obtain ⟨p, -, -, hp⟩ := exists_of_forall₂_right hfound hf
      apply contains_of_enclosing hp hpath henclosing

/-- After a scan of all kinds that succeeds, each implementation record lists the functions inside
of a stored block by first line, and a stored function lies inside of one block at most, and of the
one that it is said to be enclosed by. Each block has a record under its identity. Where functions
have different identities and blocks too, as in every run from an empty folder, the records part
the functions. -/
theorem members_after_scan {s₀ s : State} {summary : Summary}
    (hproper : s₀.store.disk.tree.isProper = true)
    (hkinds : ∀ kind, kind ∈ s₀.settings.scan.kinds) (hscan : run scan s₀ = (.ok summary, s)) :
  ∃ functions blocks records,
    answer (onStore (Store.all .function)) s = .ok functions
    ∧ answer (onStore (Store.all .implementation)) s = .ok blocks
    ∧ answer (onStore Store.implementations) s = .ok records
    ∧ (∀ b ∈ blocks, ∃ r ∈ records, r.entityId = b.id ∧
        answer (onStore (Store.implementation? b.id)) s = .ok (some r))
    ∧ Grouped functions blocks records
    ∧ (BeganFresh s₀ → Distinct functions ∧ Distinct blocks)
    ∧ (Distinct functions → Distinct blocks → Partitioned functions blocks records)
  := by
  obtain ⟨functions, blocks, records, h⟩ := exists_remembersMembers_of_scan hproper hkinds hscan
  refine ⟨functions, blocks, records, answer_all_of_remembers h.remembers_functions,
    answer_all_of_remembers h.remembers_blocks, h.answer_records, h.answer_record, h.grouped, ?_,
    ?_⟩
  · intro hfresh
    exact ⟨hfresh.distinct hscan h.remembers_functions,
      hfresh.distinct hscan h.remembers_blocks⟩
  · intro hfunctions hblocks
    apply h.grouped.partitioned hfunctions hblocks (h.perm_blocks hblocks)

/-- A session on a folder with these documents, and with this text as the only source. -/
def vaultSession (documents : List (String × Files.Node)) (text : String) : State :=
  State.start
    ⟨"/", .folder [("m", .folder documents),
      ("programs", .folder [("lib.rs", .file (.text text))])]⟩
    (.after 0)
    { Settings.standard with metadata := ⟨"m"⟩ }

theorem mem_kinds_vaultSession (documents : List (String × Files.Node)) (text : String)
    (kind : Kind) :
  kind ∈ (vaultSession documents text).settings.scan.kinds
  := Kind.mem_all kind

/-- A session without documents on one function in a block. -/
def freshVault : State :=
  vaultSession [] "impl T {
fn a() {}
}
"

theorem members_after_scan_freshVault :
  let s := after scan freshVault
  let id := "00000000000000000000000000000001"
  ∃ summary functions blocks records,
    freshVault.store.disk.tree.isProper = true
    ∧ (∀ kind, kind ∈ freshVault.settings.scan.kinds)
    ∧ run scan freshVault = (.ok summary, s)
    ∧ BeganFresh freshVault
    ∧ answer (onStore (Store.all .function)) s = .ok functions
    ∧ functions.map (·.id) = [id]
    ∧ answer (onStore Store.implementations) s = .ok records
    ∧ records.map (·.memberIds) = [[id]]
    ∧ Partitioned functions blocks records
  := by
  intro s id
  have hfacts : freshVault.store.disk.tree.isProper = true
      ∧ freshVault.store.isHosted = true
      ∧ (∀ schema ∈ Store.schemas,
        (freshVault.store.records schema).toOption.map (·.isEmpty) = some true)
      ∧ (answer scan freshVault).toOption.isSome = true
      ∧ (answer (onStore (Store.all .function)) s).toOption.map (·.map (·.id)) = some [id]
      ∧ (answer (onStore Store.implementations) s).toOption.map (·.map (·.memberIds))
        = some [[id]] := by
    decide +kernel
  obtain ⟨hproper, hhosted, hnone, hscan, hids, hmembers⟩ := hfacts
  have hkinds := mem_kinds_vaultSession [] "impl T {
fn a() {}
}
"
  have hfresh : BeganFresh freshVault :=
    ⟨freshVault, Store.State.isFresh_of_isHosted hhosted rfl hnone, Store.Mint.isLawful_after 0,
      .refl⟩
  obtain ⟨summary, hrun⟩ := exists_run_of_isSome hscan
  obtain ⟨functions, blocks, records, hfunctions, -, hrecords, -, -, hdistinct, hparted⟩ :=
    members_after_scan hproper hkinds hrun
  rw [hfunctions] at hids
  rw [hrecords] at hmembers
  refine ⟨summary, functions, blocks, records, hproper, hkinds, hrun, hfresh, hfunctions,
    Option.some.inj hids, hrecords, Option.some.inj hmembers, ?_⟩
  exact hparted (hdistinct hfresh).1 (hdistinct hfresh).2

/-- A file with a function in a block and one behind it. -/
def sharedFile : SourceFile :=
  ⟨"programs/lib.rs", "impl T \x7b\nfn a() \x7b\x7d\n\x7d\nfn b() \x7b\x7d\n"⟩

/-- A session on this file, with a document in which both functions have one identity. -/
def sharedVault : State :=
  vaultSession
    [("functions.md", .file (.text
      ("# a\n- id: x\n- type: Other\n- path: programs/lib.rs\n"
        ++ "- start_line_index: 2\n- end_line_index: 2\n- enclosing_range: 1-3\n"
        ++ "# b\n- id: x\n- type: Other\n- path: programs/lib.rs\n"
        ++ "- start_line_index: 4\n- end_line_index: 4\n")))]
    sharedFile.text

/-- After a scan the entities of a configured kind stand on the lines of the ranges. -/
theorem perm_lines_after_scan {s₀ s : State} {summary : Summary} {found : Files.Walk}
    (hproper : s₀.store.disk.tree.isProper = true) (hscan : run scan s₀ = (.ok summary, s))
    (hwalk : s₀.walk = .ok found) {kind : Kind} (hkind : kind ∈ s₀.settings.scan.kinds)
    {es : List Entity} (hes : Remembers kind es s.store.memory) :
  (es.map fun e => (e.path, e.first, e.last)).Perm
    ((rangesIn found.files kind).map fun p => (p.1.path, p.2.first, p.2.last))
  := by
  obtain ⟨_, known, sources, hwalk', -, -, hstored⟩ := stored_after_scan hproper hscan
  rw [hwalk] at hwalk'
  cases hwalk'
  obtain ⟨ps, ds, hds, -, hps, hdescribes⟩ := hstored kind hkind
  obtain rfl : ds = es := Option.some.inj (hds.symm.trans hes)
  apply perm_lines_of_describes hps (hdescribes.imp fun _ _ => And.right)

/-- Where documents were edited, functions may share an identity, and a scan keeps it. Then the
record of a block names a function that does not lie inside of it. -/
theorem shared_identity_after_scan :
  let s := after scan sharedVault
  (∃ summary, run scan sharedVault = (.ok summary, s))
  ∧ (∀ kind, kind ∈ sharedVault.settings.scan.kinds)
  ∧ ∃ functions blocks,
    answer (onStore (Store.all .function)) s = .ok functions
    ∧ answer (onStore (Store.all .implementation)) s = .ok blocks
    ∧ ∃ f ∈ functions, ∃ b ∈ blocks, ∃ r,
      answer (onStore (Store.implementation? b.id)) s = .ok (some r)
      ∧ f.id ∈ r.memberIds ∧ b.contains f = false
  := by
  intro s
  have hfacts : sharedVault.store.disk.tree.isProper = true
      ∧ (answer scan sharedVault).toOption.isSome = true
      ∧ sharedVault.walk.toOption.map (·.files) = some [sharedFile]
      ∧ (sharedVault.settings.libPath? sharedVault.store.disk).toOption.map id = some none
      ∧ (rangesIn [sharedFile] .function).map (fun p => (p.1.path, p.2.first, p.2.last))
        = [(sharedFile.path, 2, 2), (sharedFile.path, 4, 4)]
      ∧ (rangesIn [sharedFile] .implementation).map (fun p => (p.1.path, p.2.first, p.2.last))
        = [(sharedFile.path, 1, 3)]
      ∧ (sharedVault.store.stored .function).toOption.all (fun old =>
          (Store.keyed ((scanKinds [sharedFile] .unknown sharedVault.settings.scan.kinds).ofKind
            .function)).all fun p => Store.knownId? (Store.knownIds old) p.1 == some "x")
        = true := by
    decide +kernel
  obtain ⟨hproper, hscan, hwalk, hlib, hfunctionLines, hblockLines, hids⟩ := hfacts
  have hkinds : ∀ kind, kind ∈ sharedVault.settings.scan.kinds := mem_kinds_vaultSession _ _
  have hfirst : sharedVault.settings.scan.kinds
      = [.function, .struct, .trait, .implementation, .enumeration] := rfl
  obtain ⟨summary, hrun⟩ : ∃ summary, run scan sharedVault = (.ok summary, s) :=
    exists_run_of_isSome hscan
  clear_value s
  obtain ⟨found, hwalk, hfiles⟩ := exists_of_map_toOption hwalk
  obtain ⟨_, hlib, rfl⟩ := exists_of_map_toOption hlib
  -- Both functions keep the identity that the document gives them.
  have hshared : ∀ es, Remembers .function es s.store.memory → ∀ e ∈ es, e.id = "x" := by
    obtain ⟨_, known, sources, current, mint, hwalk', hprogram, hcurrent, hrenewed⟩ :=
      exists_renewed_of_scan hfirst (by decide) hrun
    rw [hwalk] at hwalk'
    cases hwalk'
    obtain rfl := eq_unknown_of_run_program (t := sharedVault.anew []) hlib hprogram
    rw [hcurrent] at hids
    intro es hes e he
    obtain rfl : _ = es := Option.some.inj (hrenewed.symm.trans hes)
    obtain ⟨p, hp, -, hid⟩ := Store.exists_keyed_of_mem_renewed he
    apply hid
    rw [hfiles] at hp
    simpa using List.all_eq_true.1 hids p hp
  obtain ⟨functions, blocks, records, h⟩ := exists_remembersMembers_of_scan hproper hkinds hrun
  have hblocks := perm_lines_after_scan hproper hrun hwalk (hkinds _) h.remembers_blocks
  rw [hfiles, hblockLines, List.perm_singleton, List.map_eq_singleton_iff] at hblocks
  obtain ⟨b, rfl, hb⟩ := hblocks
  have hfunctions := perm_lines_after_scan hproper hrun hwalk (hkinds _) h.remembers_functions
  rw [hfiles, hfunctionLines] at hfunctions
  obtain ⟨g, hg, hglines⟩ := List.mem_map.1 (hfunctions.mem_iff.2 List.mem_cons_self)
  obtain ⟨f, hf, hflines⟩ :=
    List.mem_map.1 (hfunctions.mem_iff.2 (List.mem_cons_of_mem _ List.mem_cons_self))
  rw [Prod.mk.injEq, Prod.mk.injEq] at hb hglines hflines
  obtain ⟨r, hr, -, hanswer⟩ := h.answer_record b List.mem_cons_self
  obtain ⟨c, hc, hmembers⟩ := h.grouped.exists_block r hr
  obtain rfl := List.mem_singleton.1 hc
  obtain ⟨ms, hms, -, hmem⟩ := hmembers.members
  refine ⟨⟨summary, hrun⟩, hkinds, functions, _, answer_all_of_remembers h.remembers_functions,
    answer_all_of_remembers h.remembers_blocks, f, hf, c, hc, r, hanswer, ?_, ?_⟩
  · have hinside : c.contains g = true := by
      apply Entity.contains_iff.2
      rw [hb.1, hb.2.1, hb.2.2, hglines.1, hglines.2.1, hglines.2.2]
      decide
    rw [hms]
    apply List.mem_map.2 ⟨g, (hmem g).2 ⟨hg, hinside⟩, ?_⟩
    rw [hshared _ h.remembers_functions g hg, hshared _ h.remembers_functions f hf]
  · rw [Bool.eq_false_iff, ne_eq, Entity.contains_iff, hb.2.2, hflines.2.2]
    rintro ⟨-, -, hlt⟩
    contradiction

end Session

end AnchorIndex

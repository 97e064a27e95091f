import AnchorIndex.Proofs.Store.Finding
import AnchorIndex.Proofs.Store.Records

/-!
# What operations remember

Whether a document can be written depends on the disk (`ChangesDisk`). What the store remembers
after an operation that writes one does not: putting entities in, filing records and replacing
them change one part of the memory each. Entities and records are replaced in the memory once
their document is written; records are filed before (`of_run_file`), so they stay if the disk
refuses the document. And where the entities of all kinds are remembered, reading them needs no
document and succeeds.
-/

namespace AnchorIndex.Store

open Effect
open Document (Schema)

/-! ### Changes of the disk -/

/-- An operation changes the disk at most. It succeeds, or the disk refuses it. -/
def ChangesDisk (x : Action Unit) : Prop :=
  ∀ s, ∃ disk, run x s = (.ok (), s.withDisk disk) ∨
    ∃ refusal, run x s = (.error (.refused refusal), s.withDisk disk)

theorem changesDisk_prepareFolder :
  ChangesDisk prepareFolder
  := by
  intro s
  rw [prepareFolder, run_get_bind]
  cases hmade : s.disk.makeFolders s.folder with
  | mk made disk =>
    use disk
    cases made with
    | ok _ => exact .inl rfl
    | error refusal => exact .inr ⟨refusal, rfl⟩

theorem changesDisk_change (f : Files.Disk → Except Files.Refusal Files.Disk) :
  ChangesDisk (change f)
  := by
  intro s
  rw [change, run_get_bind]
  cases hf : f s.disk with
  | ok disk => exact ⟨disk, .inl rfl⟩
  | error refusal => exact ⟨s.disk, .inr ⟨refusal, rfl⟩⟩

theorem ChangesDisk.bind {x y : Action Unit} (hx : ChangesDisk x) (hy : ChangesDisk y) :
  ChangesDisk (x >>= fun _ => y)
  := by
  intro s
  obtain ⟨disk, hrun | ⟨refusal, hrun⟩⟩ := hx s
  · rw [run_bind_ok hrun]
    apply hy (s.withDisk disk)
  · rw [run_bind_error hrun]
    exact ⟨disk, .inr ⟨refusal, rfl⟩⟩

theorem changesDisk_writeDocument (schema : Schema) (rs : List Document.Record) :
  ChangesDisk (writeDocument schema rs)
  := by
  intro s
  rw [writeDocument, run_get_bind]
  apply changesDisk_prepareFolder.bind ((changesDisk_change _).bind (changesDisk_change _))

theorem ChangesDisk.of_run {x : Action Unit} (h : ChangesDisk x) {s s' : State}
    {r : Except Failure Unit} (hrun : run x s = (r, s')) :
  (∃ disk, s' = s.withDisk disk) ∧ (r = .ok () ∨ ∃ refusal, r = .error (.refused refusal))
  := by
  obtain ⟨disk, hx | ⟨refusal, hx⟩⟩ := h s
  · rw [hx] at hrun
    cases hrun
    exact ⟨⟨disk, rfl⟩, .inl rfl⟩
  · rw [hx] at hrun
    cases hrun
    exact ⟨⟨disk, rfl⟩, .inr ⟨refusal, rfl⟩⟩

/-! ### What is remembered -/

section

variable {s s' : State}

/-- The memory after the entities of a kind are saved. -/
theorem memory_of_run_save {kind : Kind} {es : List Entity}
    (h : run (save kind es) s = (.ok (), s')) :
  s'.memory = { s.memory.withEntities kind (listed es) with byId := none }
  := by
  obtain ⟨_, s₁, hwrite, hremember⟩ := exists_of_run_bind h
  obtain ⟨⟨disk, rfl⟩, -⟩ := (changesDisk_writeDocument _ _).of_run hwrite
  rw [run_remember] at hremember
  cases hremember
  rfl

/-- Assigning identities changes nothing that is remembered. -/
theorem of_run_assign {kind : Kind} {known : List (IdentityKey × String)} {batch : List Entity}
    {r : List (IdentityKey × Entity)} (h : run (assign kind known batch) s = (.ok r, s')) :
  s'.memory = s.memory ∧ r = assigned known (keyed batch) s.mint
  := by
  rw [assign] at h
  cases hfind : batch.find? (·.kind != kind) with
  | some d =>
    rw [hfind] at h
    cases h
  | none =>
    simp only [hfind, run_assignIds] at h
    cases h
    exact ⟨rfl, rfl⟩

/-- A batch that takes the place of all entities of a kind is remembered as it renews those that
were stored. -/
theorem memory_of_run_replaceAll {kind : Kind} {batch es : List Entity}
    (h : run (replaceAll kind batch) s = (.ok es, s')) :
  ∃ current mint, s.stored kind = .ok current ∧
    s'.memory = { s.memory.withEntities kind (renewed current batch mint) with byId := none }
  := by
  obtain ⟨current, s₁, hall, h⟩ := exists_of_run_bind h
  obtain ⟨r, s₂, hassign, h⟩ := exists_of_run_bind h
  obtain ⟨_, s₃, hsave, h⟩ := exists_of_run_bind h
  rw [run_pure] at h
  cases h
  obtain ⟨hmemory, rfl⟩ := of_run_assign hassign
  rw [run_all, Prod.mk.injEq] at hall
  obtain ⟨hcurrent, rfl⟩ := hall
  refine ⟨current, (s.loading kind).mint, hcurrent, ?_⟩
  rw [memory_of_run_save hsave, hmemory, withEntities_loading]
  rfl

variable {α : Type}

/-- What is filed is remembered, even if the disk refuses to keep it. -/
theorem of_run_file (shelf : Shelf α) {index : List (String × α)} {rs : List α}
    {r : Except Failure Unit} (h : run (shelf.file index rs) s = (r, s')) :
  (∃ disk, s' = (shelf.consulted index s).withDisk disk) ∧
    (r = .ok () ∨ ∃ refusal, r = .error (.refused refusal))
  := by
  rw [Shelf.file, run_bind_ok (run_remember _ s)] at h
  apply (changesDisk_writeDocument _ _).of_run h

theorem memory_of_run_replace (shelf : Shelf α) {rs : List α}
    (h : run (shelf.replace rs) s = (.ok (), s')) :
  s'.memory = shelf.remembering (indexRecords shelf.key rs) s.memory
  := by
  obtain ⟨_, s₁, hwrite, hremember⟩ := exists_of_run_bind h
  obtain ⟨⟨disk, rfl⟩, -⟩ := (changesDisk_writeDocument _ _).of_run hwrite
  rw [run_remember] at hremember
  cases hremember
  rfl

end

/-- The records of an index are among those that are indexed. -/
theorem mem_of_mem_indexRecords {α : Type} {key : α → String} {rs : List α} {p : String × α}
    (h : p ∈ indexRecords key rs) :
  p.2 ∈ rs
  := by
  have hnodup : ((indexRecords key rs).map Prod.fst).Nodup :=
    nodup_foldl_setEntry Prod.fst Prod.snd _ List.nodup_nil
  have hlookup := (lookup_eq_some_iff_mem hnodup).2 h
  rw [indexRecords, lookup_mergeRepeated] at hlookup
  obtain ⟨r, hr, heq⟩ := List.mem_map.1 (List.mem_reverse.1 (mem_of_lookup_eq_some hlookup))
  rw [Prod.mk.injEq] at heq
  rwa [← heq.2]

/-- Records that are remembered need no document. -/
theorem run_consult_of_remembered (shelf : Shelf α) {s : State} {index : List (String × α)}
    (h : shelf.remembered s.memory = some index) :
  run shelf.consult s = (.ok index, s)
  := by
  rw [Shelf.consult, run_get_bind, h]
  rfl

/-- Dependency records that are put to those that are remembered are remembered with them. The
disk may refuse to keep them, but not that of a usable store. -/
theorem run_putDependencies {s : State} {memo : List (String × CallGraph.Record)}
    (h : s.memory.dependencies = some memo) (rs : List CallGraph.Record) :
  ∃ r s', run (putDependencies rs) s = (r, s') ∧
    (∃ disk, s' = (dependencyShelf.consulted (dependencyShelf.put rs memo) s).withDisk disk) ∧
    (r = .ok () ∨ ∃ refusal, r = .error (.refused refusal)) ∧
    (s.Usable → r = .ok () ∧ s'.Usable)
  := by
  rw [putDependencies_eq, run_bind_ok (run_consult_of_remembered dependencyShelf h)]
  cases hfile : run (dependencyShelf.file (dependencyShelf.put rs memo)
      (orderedDependencies (dependencyShelf.put rs memo))) s with
  | mk r s' =>
    obtain ⟨hdisk, hr⟩ := of_run_file dependencyShelf hfile
    refine ⟨r, s', rfl, hdisk, hr, ?_⟩
    intro husable
    obtain ⟨s'', hrun, hfiled⟩ := dependencyShelf.run_file husable (dependencyShelf.put rs memo)
      (orderedDependencies (dependencyShelf.put rs memo))
    rw [hfile] at hrun
    cases hrun
    exact ⟨rfl, hfiled.wrote.usable⟩

/-! ### Remembered entities -/

section

variable {s : State} {es : Kind → List Entity}

theorem run_all_of_remembered (h : ∀ kind, s.memory.entities kind = some (es kind))
    (kind : Kind) :
  run (all kind) s = (.ok (es kind), s)
  := by
  have hloading : s.loading kind = s := by rw [State.loading, h kind]
  rw [run_all, State.stored_of_some (h kind), hloading]

theorem run_query_of_remembered (h : ∀ kind, s.memory.entities kind = some (es kind))
    (kind : Kind) (name : Option String) (role : Option Role) :
  run (query kind name role) s
    = (.ok ((es kind).filter fun e =>
        (name.all fun n => e.name == n) && (role.all fun r => e.role == r)), s)
  := by
  rw [query, run_bind_ok (run_all_of_remembered h kind), run_pure]

theorem run_allOf_of_remembered (h : ∀ kind, s.memory.entities kind = some (es kind))
    (kinds : List Kind) :
  run (allOf kinds) s = (.ok (kinds.flatMap es), s)
  := by
  induction kinds with
  | nil => rfl
  | cons kind rest ih =>
    rw [allOf, run_bind_ok (run_all_of_remembered h kind), run_bind_ok ih, run_pure,
      List.flatMap_cons]

/-- The index of all entities is remembered when it is answered. -/
theorem run_byId_of_remembered (h : ∀ kind, s.memory.entities kind = some (es kind))
    (hindex : ∀ index, s.memory.byId = some index → index = indexById (Kind.all.flatMap es)) :
  run byId s
    = (.ok (indexById (Kind.all.flatMap es)), s.withIndex (indexById (Kind.all.flatMap es)))
  := by
  rw [byId, run_get_bind]
  cases hbyId : s.memory.byId with
  | some index =>
    obtain rfl := hindex index hbyId
    have hsame : s.withIndex (indexById (Kind.all.flatMap es)) = s := by
      rw [State.withIndex, ← hbyId]
    rw [hsame]
    rfl
  | none =>
    change run (allOf Kind.all >>= fun es =>
      remember (fun m => { m with byId := some (indexById es) }) >>= fun _ =>
        pure (indexById es)) s = _
    rw [run_bind_ok (run_allOf_of_remembered h Kind.all), run_bind_ok (run_remember _ s), run_pure]
    rfl

theorem run_find?_of_remembered (h : ∀ kind, s.memory.entities kind = some (es kind))
    (hindex : ∀ index, s.memory.byId = some index → index = indexById (Kind.all.flatMap es))
    (id : String) :
  run (find? id) s
    = (.ok ((indexById (Kind.all.flatMap es)).lookup id),
        s.withIndex (indexById (Kind.all.flatMap es)))
  := by
  rw [find?, run_bind_ok (run_byId_of_remembered h hindex), run_pure]

theorem run_read_of_lookup_eq_some (h : ∀ kind, s.memory.entities kind = some (es kind))
    (hindex : ∀ index, s.memory.byId = some index → index = indexById (Kind.all.flatMap es))
    {id : String} {e : Entity} (he : (indexById (Kind.all.flatMap es)).lookup id = some e) :
  run (read id) s = (.ok e, s.withIndex (indexById (Kind.all.flatMap es)))
  := by
  rw [read, run_bind_ok (run_find?_of_remembered h hindex id), he]
  rfl

theorem run_read_of_lookup_eq_none (h : ∀ kind, s.memory.entities kind = some (es kind))
    (hindex : ∀ index, s.memory.byId = some index → index = indexById (Kind.all.flatMap es))
    {id : String} (hid : (indexById (Kind.all.flatMap es)).lookup id = none) :
  run (read id) s
    = (.error (.fault (.entityMissing id "any kind")),
      s.withIndex (indexById (Kind.all.flatMap es)))
  := by
  rw [read, run_bind_ok (run_find?_of_remembered h hindex id), hid]
  rfl

end

end AnchorIndex.Store

import AnchorIndex.Proofs.Session.Actions
import AnchorIndex.Proofs.Store.Linking
import AnchorIndex.Session.Scan

/-!
# Records that are built from entities

From entities whose names and identities documents keep, implementation records are built that
documents keep (`isClean_build`). There is one record for each block, and it refers to the
functions and traits that it was built from (`implementationLinks_of_build`); for accounts structs
there is one record for each struct (`map_structId_of_run`).
-/

namespace AnchorIndex.Session

open Effect
open Document (IsNormal Unbroken)
open Files (SourceFile)
open Store (ImplementationLinks)

/-! ### Headers -/

theorem isNormal_splitHeader {header : String} (h : IsNormal header) :
  IsNormal (Implementation.splitHeader header).1 ∧ IsNormal (Implementation.splitHeader header).2
  := by
  rw [Implementation.splitHeader]
  split
  next trait type hcut =>
    have hparts := Text.eq_of_cutAt? hcut
    constructor
    · apply Document.isNormal_strip
      intro c hc
      apply h.1 c
      rw [hparts]
      simp [hc]
    · apply Document.isNormal_strip
      intro c hc
      apply h.1 c
      rw [hparts]
      simp [hc]
  · constructor
    · apply Document.isNormal_of_solid
      intro c hc
      contradiction
    · apply Document.isNormal_strip h.1

/-! ### Implementation records -/

section

variable {block : Entity} {functions : List Entity} {definitions : List (String × Entity)}

theorem mem_of_mem_members {f : Entity} (h : f ∈ Implementation.members block functions) :
  f ∈ functions
  := (List.mem_filter.1 ((List.mergeSort_perm _ _).mem_iff.1 h)).1

/-- The definition of a record that is built is one of those that it was built from. -/
theorem exists_of_definitionId_build {id : String}
    (h : (Implementation.Record.build block functions definitions).definitionId = some id) :
  ∃ p ∈ definitions, p.2.id = id
  := by
  simp only [Implementation.Record.build] at h
  obtain ⟨t, ht, rfl⟩ := Option.map_eq_some_iff.1 h
  split at ht
  · contradiction
  · exact ⟨_, mem_of_lookup_eq_some ht, rfl⟩

/-- A document keeps an implementation record that is built from what documents keep. -/
theorem isClean_build (hblock : IsNormal block.id ∧ IsNormal block.name)
    (hfunctions : ∀ f ∈ functions, IsNormal f.id)
    (hdefinitions : ∀ p ∈ definitions, IsNormal p.2.id ∧ p.2.id ≠ "") :
  (Implementation.Record.build block functions definitions).IsClean
  := by
  obtain ⟨htrait, htype⟩ := isNormal_splitHeader hblock.2
  refine ⟨hblock.1, hblock.2, htrait, htype, ?_, ?_⟩
  · intro id hid
    obtain ⟨f, hf, rfl⟩ := List.mem_map.1 hid
    apply hfunctions f (mem_of_mem_members hf)
  · intro id hid
    obtain ⟨p, hp, rfl⟩ := exists_of_definitionId_build hid
    apply hdefinitions p hp

end

theorem mem_of_mem_definitionsByName {traits : List Entity} {p : String × Entity}
    (h : p ∈ definitionsByName traits) :
  p.2 ∈ traits
  := by
  have hindex : definitionsByName traits = Store.indexRecords (·.name) traits := rfl
  rw [hindex] at h
  apply Store.mem_of_mem_indexRecords h

section

variable {es : Kind → List Entity} {blocks functions traits : List Entity}
  {records : List Implementation.Record}

/-- There is one record for each block. -/
theorem forall₂_of_mapM {definitions : List (String × Entity)}
    (h : blocks.mapM (Implementation.Record.buildChecked · functions definitions) = .ok records) :
  List.Forall₂ (fun block r => r = Implementation.Record.build block functions definitions) blocks
    records
  := by
  apply (mapM_eq_ok_iff.1 h).imp
  intro block r hr
  rw [Implementation.Record.buildChecked] at hr
  split at hr
  · exact (Except.ok.inj hr).symm
  · contradiction

theorem map_entityId_of_mapM {definitions : List (String × Entity)}
    (h : blocks.mapM (Implementation.Record.buildChecked · functions definitions) = .ok records) :
  records.map (·.entityId) = blocks.map (·.id)
  := by
  rw [← List.forall₂_eq_eq_eq, List.forall₂_map_left_iff, List.forall₂_map_right_iff]
  apply (forall₂_of_mapM h).flip.imp
  rintro _ block rfl
  rfl

/-- The records that are built for the stored implementations refer to what is stored. -/
theorem implementationLinks_of_build (htraits : ∀ t ∈ traits, t ∈ es .trait)
    (h : (es .implementation).mapM (Implementation.Record.buildChecked · (es .function)
      (definitionsByName traits)) = .ok records) :
  ImplementationLinks es records
  := by
  have hbuilt := forall₂_of_mapM h
  constructor
  · apply List.Perm.of_eq (map_entityId_of_mapM h)
  · intro r hr id hid
    obtain ⟨block, -, rfl⟩ := exists_of_forall₂_right hbuilt hr
    obtain ⟨f, hf, rfl⟩ := List.mem_map.1 hid
    apply List.mem_map_of_mem (mem_of_mem_members hf)
  · intro r hr id hid
    obtain ⟨block, -, rfl⟩ := exists_of_forall₂_right hbuilt hr
    obtain ⟨p, hp, rfl⟩ := exists_of_definitionId_build hid
    apply List.mem_map_of_mem (htraits _ (mem_of_mem_definitionsByName hp))

/-- Documents keep the records that are built from what a store holds. -/
theorem isClean_of_build {s : Store.State} (hes : Store.Recorded s es)
    (htraits : ∀ t ∈ traits, t ∈ es .trait)
    (h : (es .implementation).mapM (Implementation.Record.buildChecked · (es .function)
      (definitionsByName traits)) = .ok records) :
  ∀ r ∈ records, r.IsClean
  := by
  intro r hr
  obtain ⟨block, hblock, rfl⟩ := exists_of_forall₂_right (forall₂_of_mapM h) hr
  apply isClean_build
  · exact ⟨hes.identified.isNormal_id hblock, hes.named _ block hblock⟩
  · intro f hf
    apply hes.identified.isNormal_id hf
  · intro p hp
    have ht := htraits _ (mem_of_mem_definitionsByName hp)
    exact ⟨hes.identified.isNormal_id ht, hes.identified.id_ne_empty ht⟩

end

/-! ### Accounts records -/

/-- There is one accounts record for each struct. -/
theorem map_structId_of_run {files : List SourceFile} {structs : List Entity} {t t' : State}
    {records : List Account.Record}
    (h : run (accountsRecordsOf files structs) t = (.ok records, t')) :
  records.map (·.structId) = structs.map (·.id)
  := by
  induction structs generalizing t records with
  | nil =>
    cases h
    rfl
  | cons e structs ih =>
    obtain ⟨lines, t₁, hlines, h⟩ := exists_of_run_bind h
    split at h
    · cases h
    next fields hfields =>
      obtain ⟨more, t₂, hmore, h⟩ := exists_of_run_bind h
      cases h
      rw [List.map_cons, List.map_cons, ih hmore]

end AnchorIndex.Session

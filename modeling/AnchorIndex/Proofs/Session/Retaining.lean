import AnchorIndex.Proofs.Files.Walking
import AnchorIndex.Proofs.Session.Found
import AnchorIndex.Proofs.Session.Stages

/-!
# What a session remembers after a scan

Once a scan has stored the entities of a kind, none of its later parts forgets them (`Preserves`).
So whatever the store held before, after a scan that succeeds the session lists for each configured
kind one entity for each range of a walked file, and nothing else (`stored_after_scan`). The
implementation records that it remembers are built from these (`exists_records_of_run_scanFound`).
-/

namespace AnchorIndex.Session

open Effect
open Files (SourceFile Walk)
open Source (Range)
open Store (IsListed Loads Memory accountsShelf dependencyShelf implementationShelf)

variable {α β : Type}

/-! ### Parts that keep what is remembered -/

/-- What holds of the memory of the store still holds after the operation, if that succeeds. -/
def Preserves (P : Memory → Prop) (x : Action α) : Prop :=
  ∀ s a s', run x s = (.ok a, s') → P s.store.memory → P s'.store.memory

/-- What holds of the memory still holds when more documents are read. -/
def Lasting (P : Memory → Prop) : Prop :=
  ∀ s s', Loads s s' → P s.memory → P s'.memory

section

variable {P : Memory → Prop}

theorem OnlyReads.preserves {x : Action α} (h : OnlyReads x) (hP : Lasting P) :
  Preserves P x
  := fun _ _ _ hrun => hP _ _ (h.of_run hrun).1

theorem preserves_pure (a : α) :
  Preserves P (pure a)
  := by
  intro s b s' hrun hs
  cases hrun
  exact hs

theorem Preserves.bind {x : Action α} {f : α → Action β} (hx : Preserves P x)
    (hf : ∀ a, Preserves P (f a)) :
  Preserves P (x >>= f)
  := by
  intro s b s' hrun hs
  obtain ⟨a, s₁, hrun₁, hrun₂⟩ := exists_of_run_bind hrun
  apply hf a s₁ b s' hrun₂
  apply hx s a s₁ hrun₁ hs

variable {ρ : Type} {shelf : Store.Shelf ρ}
  (hshelf : ∀ index m, P m → P (shelf.remembering index m))

include hshelf

theorem preserves_replace (rs : List ρ) :
  Preserves P (onStore (shelf.replace rs))
  := by
  intro s a s' hrun hs
  obtain ⟨store, hstore, rfl⟩ := exists_of_run_onStore hrun
  change P store.memory
  rw [Store.memory_of_run_replace shelf hstore]
  apply hshelf _ _ hs

theorem preserves_file (index : List (String × ρ)) (rs : List ρ) :
  Preserves P (onStore (shelf.file index rs))
  := by
  intro s a s' hrun hs
  obtain ⟨store, hstore, rfl⟩ := exists_of_run_onStore hrun
  obtain ⟨⟨disk, rfl⟩, -⟩ := Store.of_run_file shelf hstore
  apply hshelf _ _ hs

end

section

variable {P : Memory → Prop} (hP : Lasting P)

theorem preserves_clearDependencies
    (hshelf : ∀ index m, P m → P (dependencyShelf.remembering index m)) :
  Preserves P (onStore Store.clearDependencies)
  := by
  rw [Store.clearDependencies_eq]
  apply preserves_file hshelf

include hP

theorem preserves_rebuildImplementations
    (hshelf : ∀ index m, P m → P (implementationShelf.remembering index m)) :
  Preserves P rebuildImplementations
  := by
  apply ((onlyReads_all .function).preserves hP).bind
  intro functions
  apply ((onlyReads_query .trait none (some .traitDefinition)).preserves hP).bind
  intro traits
  apply ((onlyReads_all .implementation).preserves hP).bind
  intro blocks
  apply ((onlyReads_lift _).preserves hP).bind
  intro records
  rw [Store.replaceImplementations_eq]
  apply (preserves_replace hshelf _).bind
  intro _
  apply preserves_pure

theorem preserves_rebuildAccounts
    (hshelf : ∀ index m, P m → P (accountsShelf.remembering index m)) (files : List SourceFile) :
  Preserves P (rebuildAccounts files)
  := by
  apply ((onlyReads_query .struct none (some .contextAccounts)).preserves hP).bind
  intro structs
  apply ((onlyReads_accountsRecordsOf files structs).preserves hP).bind
  intro records
  rw [Store.replaceAccounts_eq]
  apply (preserves_replace hshelf _).bind
  intro _
  apply preserves_pure

end

/-! ### Entities -/

/-- These entities of a kind are remembered. -/
def Remembers (kind : Kind) (es : List Entity) (m : Memory) : Prop :=
  m.entities kind = some es

theorem lasting_remembers (kind : Kind) (es : List Entity) :
  Lasting (Remembers kind es)
  := by
  intro s s' hloads hes
  obtain hsame | ⟨hnone, -⟩ := hloads.entities kind
  · rw [Remembers, hsame]
    exact hes
  · rw [Remembers, hnone] at hes
    contradiction

theorem remembers_remembering {ρ : Type} (shelf : Store.Shelf ρ) {kind : Kind} {es : List Entity}
    (index : List (String × ρ)) (m : Memory) (h : Remembers kind es m) :
  Remembers kind es (shelf.remembering index m)
  := by
  rw [Remembers, shelf.entities_remembering]
  exact h

/-- Once the entities are stored, a scan keeps them in mind. -/
theorem exists_stored_of_run_scanFound {found : Walk} {known : Program} {kinds : List Kind}
    {t t' : State} {summary : Summary}
    (h : run (scanFound found known kinds) t = (.ok summary, t')) :
  ∃ t₁, run (storeScanned (scanKinds found.files known kinds) kinds) t = (.ok (), t₁) ∧
    ∀ kind es, Remembers kind es t₁.store.memory → Remembers kind es t'.store.memory
  := by
  obtain ⟨_, t₁, hstored, h⟩ := exists_of_run_bind h
  refine ⟨t₁, hstored, ?_⟩
  intro kind es hes
  have hlasting := lasting_remembers kind es
  have hrest := fun f : Nat → Nat → Summary =>
    (preserves_clearDependencies (remembers_remembering dependencyShelf)).bind fun _ =>
      (preserves_rebuildImplementations hlasting (remembers_remembering _)).bind fun m =>
        (preserves_rebuildAccounts hlasting (remembers_remembering _) found.files).bind fun n =>
          preserves_pure (f m n)
  exact hrest _ _ _ _ h hes

/-- What a scan has found of a kind is what the session remembers. -/
theorem exists_remembers_of_run_scanFound {found : Walk} {known : Program} {kinds : List Kind}
    {t t' : State} {summary : Summary} (h : run (scanFound found known kinds) t = (.ok summary, t'))
    {kind : Kind} (hkind : kind ∈ kinds) :
  ∃ es, Remembers kind es t'.store.memory ∧ IsListed es ∧
    (es.map (·.withId "")).Perm ((scanKinds found.files known kinds).ofKind kind)
  := by
  obtain ⟨t₁, hstored, hkeeps⟩ := exists_stored_of_run_scanFound h
  obtain ⟨store, rfl, hentities, -⟩ := of_run_storeScanned hstored
  obtain ⟨es, hes, hlisted, hperm⟩ := hentities kind hkind
  rw [map_withId_eq_self fun e he => (kind_and_id_of_mem_scanKinds he).2] at hperm
  exact ⟨es, hkeeps kind es hes, hlisted, hperm⟩

theorem answer_all_of_remembers {kind : Kind} {es : List Entity} {s : State}
    (h : Remembers kind es s.store.memory) :
  answer (onStore (Store.all kind)) s = .ok es
  := by
  rw [answer_onStore_all, Store.State.stored_of_some h]

theorem answer_query_of_remembers {kind : Kind} {es : List Entity} {s : State}
    (h : Remembers kind es s.store.memory) (name : Option String) (role : Option Role) :
  answer (onStore (Store.query kind name role)) s
    = .ok (es.filter fun e => (name.all fun n => e.name == n) && (role.all fun r => e.role == r))
  := by
  rw [answer, run_onStore, Store.query, Store.Effect.run_bind, Store.run_all,
    Store.State.stored_of_some h]
  rfl

/-! ### Implementation records -/

/-- These implementation records are remembered under these identities. -/
def RemembersRecords (index : List (String × Implementation.Record)) (m : Memory) : Prop :=
  m.implementations = some index

theorem lasting_remembersRecords (index : List (String × Implementation.Record)) :
  Lasting (RemembersRecords index)
  := by
  intro s s' hloads hindex
  rw [RemembersRecords, hloads.implementations]
  exact hindex

/-- Implementation records are built from the functions and blocks that are remembered. -/
theorem exists_records_of_run_rebuildImplementations {t t' : State} {n : Nat}
    {functions blocks : List Entity} (hfunctions : Remembers .function functions t.store.memory)
    (hblocks : Remembers .implementation blocks t.store.memory)
    (h : run rebuildImplementations t = (.ok n, t')) :
  ∃ traits records,
    blocks.mapM (Implementation.Record.buildChecked · functions (definitionsByName traits))
      = .ok records ∧
    RemembersRecords (Store.indexRecords (·.entityId)
      (records.mergeSort (Store.orderedBy (·.name) (·.entityId)))) t'.store.memory
  := by
  obtain ⟨functions', traits, blocks', records, t₁, -, -, hfunctions', -, hblocks', hbuilt,
    hreplace⟩ := exists_built_of_run_rebuildImplementations h
  rw [Store.State.stored_of_some hfunctions] at hfunctions'
  rw [Store.State.stored_of_some hblocks] at hblocks'
  cases hfunctions'
  cases hblocks'
  obtain ⟨store, hstore, rfl⟩ := exists_of_run_onStore hreplace
  rw [Store.replaceImplementations_eq] at hstore
  refine ⟨traits, records, hbuilt, ?_⟩
  change store.memory.implementations = _
  rw [Store.memory_of_run_replace implementationShelf hstore]
  rfl

/-- What a scan builds of the functions and blocks that it has stored is what the session
remembers. -/
theorem exists_records_of_run_scanFound {found : Walk} {known : Program} {kinds : List Kind}
    {t t' : State} {summary : Summary} (h : run (scanFound found known kinds) t = (.ok summary, t'))
    (hfunction : Kind.function ∈ kinds) (hblock : Kind.implementation ∈ kinds) :
  ∃ functions blocks traits records, Remembers .function functions t'.store.memory ∧
    Remembers .implementation blocks t'.store.memory ∧
    blocks.mapM (Implementation.Record.buildChecked · functions (definitionsByName traits))
      = .ok records ∧
    RemembersRecords (Store.indexRecords (·.entityId)
      (records.mergeSort (Store.orderedBy (·.name) (·.entityId)))) t'.store.memory
  := by
  obtain ⟨_, t₁, hstored, h⟩ := exists_of_run_bind h
  obtain ⟨store, rfl, hentities, -⟩ := of_run_storeScanned hstored
  obtain ⟨functions, hfunctions, -⟩ := hentities .function hfunction
  obtain ⟨blocks, hblocks, -⟩ := hentities .implementation hblock
  obtain ⟨_, t₂, hclear, h⟩ := exists_of_run_bind h
  have hclears := fun kind es => preserves_clearDependencies (P := Remembers kind es)
    (remembers_remembering dependencyShelf) _ _ _ hclear
  obtain ⟨n, t₃, hbuild, h⟩ := exists_of_run_bind h
  have hbuilds := fun kind es => preserves_rebuildImplementations (lasting_remembers kind es)
    (remembers_remembering implementationShelf) _ _ _ hbuild
  obtain ⟨m, t₄, haccounts, h⟩ := exists_of_run_bind h
  have hkeeps := fun kind es => preserves_rebuildAccounts (lasting_remembers kind es)
    (remembers_remembering accountsShelf) found.files _ _ _ haccounts
  cases h
  obtain ⟨traits, records, hrecords, hindex⟩ := exists_records_of_run_rebuildImplementations
    (hclears _ _ hfunctions) (hclears _ _ hblocks) hbuild
  refine ⟨functions, blocks, traits, records, hkeeps _ _ (hbuilds _ _ (hclears _ _ hfunctions)),
    hkeeps _ _ (hbuilds _ _ (hclears _ _ hblocks)), hrecords, ?_⟩
  apply preserves_rebuildAccounts (lasting_remembersRecords _) _ found.files _ _ _ haccounts hindex
  intro index m hm
  exact hm

/-- Whatever the store held before, after a scan that succeeds the session lists for each configured
kind one entity for each range of a walked file, and nothing else. -/
theorem stored_after_scan {s₀ s : State} {summary : Summary}
    (hproper : s₀.store.disk.tree.isProper = true) (hscan : run scan s₀ = (.ok summary, s)) :
  ∃ found known sources, s₀.walk = .ok found ∧
    run (program found.files) (s₀.anew []) = (.ok known, s₀.anew sources) ∧
    run (scanFound found known s₀.settings.scan.kinds) (s₀.anew sources) = (.ok summary, s) ∧
    ∀ kind ∈ s₀.settings.scan.kinds, ∃ ps es, Remembers kind es s.store.memory ∧ IsListed es ∧
      ps.Perm (rangesIn found.files kind) ∧
      List.Forall₂ (fun p e => p ∈ rangesIn found.files kind ∧
        Describes known s₀.settings.scan.kinds kind p e) ps es
  := by
  obtain ⟨_, hfails, -⟩ | ⟨found, known, sources, hwalk, hprogram, hrun⟩ := scan_cases hscan
  · contradiction
  refine ⟨found, known, sources, hwalk, hprogram, hrun, ?_⟩
  intro kind hkind
  obtain ⟨es, hes, hlisted, hperm⟩ := exists_remembers_of_run_scanFound hrun hkind
  obtain ⟨ps, hps, hdescribes⟩ :=
    exists_forall₂_describes (Files.nodup_walk hproper hwalk) hkind hperm
  exact ⟨ps, es, hes, hlisted, hps, hdescribes⟩

/-- The entities of the first kind that a scan stores renew those that the store had of it. -/
theorem exists_renewed_of_scan {s₀ s : State} {summary : Summary} {kind : Kind} {kinds : List Kind}
    (hkinds : s₀.settings.scan.kinds = kind :: kinds) (hkind : kind ∉ kinds)
    (hscan : run scan s₀ = (.ok summary, s)) :
  ∃ found known sources current mint, s₀.walk = .ok found ∧
    run (program found.files) (s₀.anew []) = (.ok known, s₀.anew sources) ∧
    s₀.store.stored kind = .ok current ∧
    Remembers kind (Store.renewed current
      ((scanKinds found.files known s₀.settings.scan.kinds).ofKind kind) mint) s.store.memory
  := by
  obtain ⟨_, hfails, -⟩ | ⟨found, known, sources, hwalk, hprogram, hrun⟩ := scan_cases hscan
  · contradiction
  obtain ⟨t, hstored, hkeeps⟩ := exists_stored_of_run_scanFound hrun
  rw [hkinds] at hstored
  obtain ⟨current, mint, hcurrent, hes⟩ := exists_renewed_of_run_storeScanned hkind hstored
  refine ⟨found, known, sources, current, mint, hwalk, hprogram, hcurrent, ?_⟩
  rw [hkinds]
  apply hkeeps _ _ hes

end AnchorIndex.Session

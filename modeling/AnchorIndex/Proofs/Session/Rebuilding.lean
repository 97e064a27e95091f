import AnchorIndex.Proofs.Session.Building
import AnchorIndex.Proofs.Session.Found
import AnchorIndex.Proofs.Session.Stages
import AnchorIndex.Proofs.Source.Names

/-!
# What a scan leaves linked

A scan that succeeds puts what it found in the place of the entities of the configured kinds
(`rescanned`), takes all dependency records away and builds the other records anew. So it leaves a
store that is linked, whatever records there were before (`linked_of_scan`).
-/

namespace AnchorIndex.Session

open Effect
open Document (IsNormal)
open Files (SourceFile Walk)
open Store (AccountLinks DependencyLinks ImplementationLinks Linked Mint Recorded contextStructs
  newCount renewed)

/-! ### Entities -/

theorem isPlaced_enclosedIn {e : Entity} (h : e.IsPlaced) (containers : List Entity) :
  (e.enclosedIn containers).IsPlaced
  := by
  rw [Entity.enclosedIn]
  split
  · intro first last hlines
    cases hlines
    apply Int.natCast_nonneg
  · exact h

/-- A document keeps the name and the lines of what is found. -/
theorem placed_and_named_of_mem_scanKinds {files : List SourceFile} {known : Program}
    {kinds : List Kind} {kind : Kind} {e : Entity}
    (h : e ∈ (scanKinds files known kinds).ofKind kind) :
  e.IsPlaced ∧ IsNormal e.name
  := by
  rw [scanKinds_eq, Scanned.ofKind_assignEnclosing] at h
  obtain ⟨d, hd, rfl⟩ := List.mem_map.1 h
  rw [ofKind_foundKinds] at hd
  split at hd
  · obtain ⟨file, -, r, hr, hfound⟩ := exists_range_of_mem_scanKind hd
    obtain ⟨-, -, -, hnone⟩ := eq_of_entityOfRange? hfound
    obtain ⟨-, hname, -⟩ := IsFoundFor.eq (p := (file, r)) hfound
    constructor
    · apply isPlaced_enclosedIn
      intro first last hlines
      rw [hnone] at hlines
      contradiction
    · obtain ⟨enclosing, heq⟩ := enclosedIn_same (foundKinds files known kinds).containers d
      rw [heq]
      change IsNormal d.name
      rw [hname]
      apply Source.isNormal_name hr
  · contradiction

/-- The entities after those that were found for each of some kinds took the place of those there
were. -/
def rescanned (scanned : Scanned) : List Kind → Mint → (Kind → List Entity) → Kind → List Entity
  | [], _, es => es
  | kind :: rest, m, es =>
    rescanned scanned rest (m.skip (newCount (es kind) (scanned.ofKind kind)))
      (Function.update es kind (renewed (es kind) (scanned.ofKind kind) m))

section

variable {es : Kind → List Entity} {t t' : State}

/-- What is found can be stored in the place of what there was. -/
theorem run_storeScanned {scanned : Scanned}
    (hscanned : ∀ kind, ∀ e ∈ scanned.ofKind kind, e.kind = kind ∧ e.IsPlaced ∧ IsNormal e.name)
    (kinds : List Kind) (h : Recorded t.store es) :
  ∃ store, run (storeScanned scanned kinds) t = (.ok (), { t with store := store }) ∧
    Recorded store (rescanned scanned kinds t.store.mint es)
  := by
  induction kinds generalizing t es with
  | nil => exact ⟨t.store, rfl, h⟩
  | cons kind kinds ih =>
    obtain ⟨_, store, hstore, hrecorded, hmint⟩ := h.replaceAll (hscanned kind)
    obtain ⟨store', hrun, hrecorded'⟩ := ih (t := { t with store := store }) hrecorded
    refine ⟨store', ?_, ?_⟩
    · rw [storeScanned, run_bind_ok (run_onStore_eq hstore), hrun]
    · rw [rescanned, ← hmint]
      exact hrecorded'

/-- What a scan finds can be stored in the place of what there was. -/
theorem run_storeScanned_scanKinds (files : List SourceFile) (known : Program) (kinds : List Kind)
    (h : Recorded t.store es) :
  ∃ store, run (storeScanned (scanKinds files known kinds) kinds) t
      = (.ok (), { t with store := store }) ∧
    Recorded store (rescanned (scanKinds files known kinds) kinds t.store.mint es)
  := run_storeScanned (fun _ _ he => ⟨(kind_and_id_of_mem_scanKinds he).1,
    placed_and_named_of_mem_scanKinds he⟩) kinds h

/-! ### Records -/

theorem answer_all (h : Recorded t.store es) (kind : Kind) :
  answer (onStore (Store.all kind)) t = .ok (es kind)
  := by
  rw [answer_onStore_all, h.identified.stored]

/-- Building the implementation records only reads, and then puts records of what is stored, which
documents keep, in the place of all others. -/
theorem exists_of_run_rebuildImplementations {n : Nat} (h : Recorded t.store es)
    (hrun : run rebuildImplementations t = (.ok n, t')) :
  ∃ records t₁, Store.Loads t.store t₁.store ∧ t₁.members = t.members ∧
    ImplementationLinks es records ∧ (∀ r ∈ records, r.IsClean) ∧
    run (onStore (Store.replaceImplementations records)) t₁ = (.ok (), t')
  := by
  obtain ⟨functions, traits, blocks, records, t₁, hload, hmembers, hfunctions, ⟨all, hall, htraits⟩,
    hblocks, hbuilt, hreplace⟩ := exists_built_of_run_rebuildImplementations hrun
  obtain rfl := h.identified.eq_of_stored hfunctions
  obtain rfl := h.identified.eq_of_stored hblocks
  obtain rfl := h.identified.eq_of_stored hall
  exact ⟨records, t₁, hload, hmembers, implementationLinks_of_build htraits hbuilt,
    isClean_of_build h htraits hbuilt, hreplace⟩

/-- The implementation records that are built refer to what is stored. -/
theorem links_of_run_rebuildImplementations {n : Nat} (h : Recorded t.store es)
    (hdependencies : Store.dependencyShelf.Shows t.store fun rs => ∀ r ∈ rs, DependencyLinks es r)
    (hrun : run rebuildImplementations t = (.ok n, t')) :
  Recorded t'.store es ∧ t'.members = t.members ∧
    (Store.dependencyShelf.Shows t'.store fun rs => ∀ r ∈ rs, DependencyLinks es r) ∧
    Store.implementationShelf.Shows t'.store (ImplementationLinks es)
  := by
  obtain ⟨records, t₁, hload, hmembers, hlinks, hclean, hreplace⟩ :=
    exists_of_run_rebuildImplementations h hrun
  have hrecorded := h.load hload
  have hdependencies₁ := hdependencies.load hload hload.dependencies
  obtain ⟨store, hstore, rfl⟩ := exists_of_run_onStore hreplace
  obtain ⟨store', index, ordered, hstore', hfiled, himplementations⟩ :=
    hrecorded.replaceImplementations hlinks hclean
  rw [hstore'] at hstore
  cases hstore
  exact ⟨hrecorded.aside hfiled.aside, hmembers,
    hdependencies₁.filed_other hfiled (by decide +kernel) rfl, himplementations⟩

/-- Building the accounts records only reads, and then puts the records of the stored structs that
list accounts in the place of all others. -/
theorem exists_of_run_rebuildAccounts {files : List SourceFile} {n : Nat} (h : Recorded t.store es)
    (hrun : run (rebuildAccounts files) t = (.ok n, t')) :
  ∃ records t₁ t₂, run (accountsRecordsOf files (contextStructs es)) t₁ = (.ok records, t₂) ∧
    Store.Loads t.store t₂.store ∧ t₂.members = t.members ∧
    run (onStore (Store.replaceAccounts records)) t₂ = (.ok (), t')
  := by
  obtain ⟨structs, t₁, hstructs, hrun⟩ := exists_of_run_bind hrun
  obtain ⟨records, t₂, hrecords, hrun⟩ := exists_of_run_bind hrun
  obtain ⟨hload₁, hmembers₁⟩ := (onlyReads_query .struct _ _).of_run hstructs
  obtain ⟨hload₂, hmembers₂⟩ := (onlyReads_accountsRecordsOf files structs).of_run hrecords
  obtain ⟨_, t₃, hreplace, hrun⟩ := exists_of_run_bind hrun
  cases hrun
  have hcontext : structs = contextStructs es := by
    obtain ⟨all, hall, hfilter⟩ := exists_stored_of_run_query hstructs
    rw [h.identified.eq_of_stored hall] at hfilter
    simpa [contextStructs] using hfilter
  rw [hcontext] at hrecords
  exact ⟨records, t₁, t₂, hrecords, hload₁.trans hload₂, hmembers₂.trans hmembers₁, hreplace⟩

/-- With accounts records that are built from what is stored, the store is linked. -/
theorem linked_of_run_rebuildAccounts {files : List SourceFile} {n : Nat}
    (h : Recorded t.store es)
    (hdependencies : Store.dependencyShelf.Shows t.store fun rs => ∀ r ∈ rs, DependencyLinks es r)
    (himplementations : Store.implementationShelf.Shows t.store (ImplementationLinks es))
    (hrun : run (rebuildAccounts files) t = (.ok n, t')) :
  Linked t'.store es ∧ t'.members = t.members
  := by
  obtain ⟨records, t₁, t₂, hrecords, hload, hmembers, hreplace⟩ :=
    exists_of_run_rebuildAccounts h hrun
  have hlinks : AccountLinks es records := List.Perm.of_eq (map_structId_of_run hrecords)
  obtain ⟨store, hstore, rfl⟩ := exists_of_run_onStore hreplace
  obtain ⟨store', index, ordered, hstore', hfiled, haccounts⟩ :=
    (h.load hload).replaceAccounts hlinks
  rw [hstore'] at hstore
  cases hstore
  refine ⟨⟨(h.load hload).aside hfiled.aside, ?_, ?_, haccounts⟩, hmembers⟩
  · apply (hdependencies.load hload hload.dependencies).filed_other hfiled (by decide +kernel) rfl
  · apply (himplementations.load hload hload.implementations).filed_other hfiled
      (by decide +kernel) rfl

/-! ### Scans -/

/-- A scan that succeeds stores what it found, and then builds the records. -/
theorem exists_of_run_scan {summary : Summary} (h : Recorded t.store es)
    (hrun : run scan t = (.ok summary, t')) :
  ∃ found known t₁ t₂ implementations structs, t.walk = .ok found ∧
    answer (program found.files) (t.anew []) = .ok known ∧ t₁.members = none ∧
    Recorded t₁.store (rescanned (scanKinds found.files known t.settings.scan.kinds)
      t.settings.scan.kinds t.store.mint es) ∧
    (Store.dependencyShelf.Shows t₁.store fun rs => ∀ r ∈ rs, DependencyLinks
      (rescanned (scanKinds found.files known t.settings.scan.kinds) t.settings.scan.kinds
        t.store.mint es) r) ∧
    run rebuildImplementations t₁ = (.ok implementations, t₂) ∧
    run (rebuildAccounts found.files) t₂ = (.ok structs, t')
  := by
  obtain ⟨_, hfails, -⟩ | ⟨found, known, sources, hwalk, hprogram, hrun⟩ := scan_cases hrun
  · contradiction
  obtain ⟨store₁, hstored, h₁⟩ :=
    run_storeScanned_scanKinds (t := t.anew sources) found.files known t.settings.scan.kinds h
  rw [scanFound, run_bind_ok hstored] at hrun
  obtain ⟨store₂, hstore₂, h₂, hdependencies⟩ := h₁.clearDependencies
  rw [run_bind_ok (run_onStore_eq hstore₂)] at hrun
  obtain ⟨implementations, t₂, hrebuilt, hrun⟩ := exists_of_run_bind hrun
  obtain ⟨structs, t₃, haccounts, hrun⟩ := exists_of_run_bind hrun
  cases hrun
  exact ⟨found, known, { t.anew sources with store := store₂ }, t₂, implementations, structs, hwalk,
    by rw [answer, hprogram], rfl, h₂, hdependencies, hrebuilt, haccounts⟩

/-- A scan that succeeds leaves a linked store, and no members. -/
theorem linked_of_scan {summary : Summary} (h : Recorded t.store es)
    (hrun : run scan t = (.ok summary, t')) :
  ∃ found known, t.walk = .ok found ∧ answer (program found.files) (t.anew []) = .ok known ∧
    Linked t'.store (rescanned (scanKinds found.files known t.settings.scan.kinds)
      t.settings.scan.kinds t.store.mint es) ∧
    t'.members = none
  := by
  obtain ⟨found, known, t₁, t₂, implementations, structs, hwalk, hprogram, hmembers₁, h₁,
    hdependencies₁, hrebuilt, haccounts⟩ := exists_of_run_scan h hrun
  refine ⟨found, known, hwalk, hprogram, ?_⟩
  obtain ⟨h₂, hmembers₂, hdependencies₂, himplementations⟩ :=
    links_of_run_rebuildImplementations h₁ hdependencies₁ hrebuilt
  obtain ⟨hlinked, hmembers₃⟩ :=
    linked_of_run_rebuildAccounts h₂ hdependencies₂ himplementations haccounts
  exact ⟨hlinked, (hmembers₃.trans hmembers₂).trans hmembers₁⟩

end

end AnchorIndex.Session

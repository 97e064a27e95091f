import AnchorIndex.Proofs.Datum.Traversal
import AnchorIndex.Proofs.Session.Computing
import AnchorIndex.Proofs.Session.Enclosing

/-!
# What a scan leaves

A scan that succeeds leaves a session that remembers the entities of all kinds that it scanned and
the records of implementations, but no dependency record and no body that was searched. So a basis
for resolving calls holds after it, with the files that were walked (`exists_basis_of_scan`).
-/

namespace AnchorIndex.Session

open Effect
open Files (SourceFile)

/-! ### Sources -/

/-- Reading the lines of a file changes what is remembered of its source only. -/
theorem of_run_sourceLines {path : String} {t t' : State} {lines : List (List Char)}
    (h : run (sourceLines path) t = (.ok lines, t')) :
  ∃ sources, t' = { t with sources := sources } ∧
    ∀ p, p ≠ path → sources.lookup p = t.sources.lookup p
  := by
  rw [sourceLines, run_get_bind] at h
  cases hlines : t.sources.lookup path with
  | some lines =>
    simp only [hlines, run_pure] at h
    cases h
    exact ⟨t.sources, rfl, fun _ _ => rfl⟩
  | none =>
    simp only [hlines] at h
    cases hcontent : t.store.disk.content (t.store.disk.path path) with
    | error refusal =>
      simp only [hcontent] at h
      cases refusal <;> cases h
    | ok content =>
      simp only [hcontent, run_modify_bind, run_pure] at h
      cases h
      refine ⟨_, rfl, ?_⟩
      intro p hp
      rw [lookup_setEntry, if_neg hp]

/-- What is found out about the program leaves the sources of walked files alone. -/
theorem of_run_program {files : List SourceFile} {t t' : State} {known : Program}
    (h : run (program files) t = (.ok known, t')) :
  ∃ sources, t' = { t with sources := sources } ∧
    ∀ p, (textAt? files p).isSome → sources.lookup p = t.sources.lookup p
  := by
  rw [program, run_get_bind] at h
  obtain ⟨libPath, t₁, hlift, h⟩ := exists_of_run_bind h
  rw [run_lift, Prod.mk.injEq] at hlift
  obtain ⟨-, rfl⟩ := hlift
  cases libPath with
  | none =>
    cases h
    exact ⟨t.sources, rfl, fun _ _ => rfl⟩
  | some path =>
    cases htext : textAt? files path with
    | some text =>
      simp only [htext, run_pure] at h
      cases h
      exact ⟨t.sources, rfl, fun _ _ => rfl⟩
    | none =>
      simp only [htext] at h
      obtain ⟨lines, t₂, hlines, h⟩ := exists_of_run_bind h
      obtain ⟨sources, rfl, hsources⟩ := of_run_sourceLines hlines
      cases h
      refine ⟨sources, rfl, ?_⟩
      intro p hp
      apply hsources
      rintro rfl
      rw [htext] at hp
      contradiction

/-- Where the settings name no library file, nothing is known of the program. -/
theorem eq_unknown_of_run_program {files : List SourceFile} {t t' : State} {known : Program}
    (hlib : t.settings.libPath? t.store.disk = .ok none)
    (h : run (program files) t = (.ok known, t')) :
  known = .unknown
  := by
  rw [program, run_get_bind, hlib] at h
  cases h
  rfl

/-! ### Entities -/

theorem isSome_textAt?_of_mem {files : List SourceFile} {file : SourceFile} (h : file ∈ files) :
  (textAt? files file.path).isSome
  := by
  rw [textAt?, Option.isSome_map, List.find?_isSome]
  exact ⟨file, h, by simp⟩

/-- Scanned entities stand in walked files. -/
theorem isSome_textAt?_of_mem_scanKinds {files : List SourceFile} {known : Program}
    {kinds : List Kind} {kind : Kind} {e : Entity}
    (h : e ∈ (scanKinds files known kinds).ofKind kind) :
  (textAt? files e.path).isSome
  := by
  rw [scanKinds_eq, Scanned.ofKind_assignEnclosing] at h
  obtain ⟨e, he, rfl⟩ := List.mem_map.1 h
  have hpath : ∀ containers, (e.enclosedIn containers).path = e.path := by
    intro containers
    rw [Entity.enclosedIn]
    split <;> rfl
  rw [hpath]
  rw [ofKind_foundKinds] at he
  split at he
  · obtain ⟨file, hfile, r, -, hr⟩ := exists_range_of_mem_scanKind he
    rw [(eq_of_entityOfRange? hr).1]
    apply isSome_textAt?_of_mem hfile
  · contradiction

/-- The entities of the kinds that are stored are remembered in order, up to identities. -/
theorem of_run_storeScanned {scanned : Scanned} {kinds : List Kind} {t t' : State}
    (h : run (storeScanned scanned kinds) t = (.ok (), t')) :
  ∃ store, t' = { t with store := store } ∧
    (∀ kind ∈ kinds, ∃ es, store.memory.entities kind = some es ∧ Store.IsListed es ∧
      (es.map (·.withId "")).Perm ((scanned.ofKind kind).map (·.withId ""))) ∧
    (∀ kind, kind ∉ kinds → store.memory.entities kind = t.store.memory.entities kind) ∧
    (store.memory.byId = none ∨ kinds = [] ∧ store = t.store)
  := by
  induction kinds generalizing t with
  | nil =>
    cases h
    exact ⟨_, rfl, by simp, fun _ _ => rfl, .inr ⟨rfl, rfl⟩⟩
  | cons kind kinds ih =>
    obtain ⟨es, t₁, hreplace, h⟩ := exists_of_run_bind h
    obtain ⟨store₁, hstore₁, rfl⟩ := exists_of_run_onStore hreplace
    obtain ⟨current, mint, -, hmemory⟩ := Store.memory_of_run_replaceAll hstore₁
    obtain ⟨store, rfl, hkinds, hothers, hbyId⟩ := ih h
    have hself : store₁.memory.entities kind
        = some (Store.renewed current (scanned.ofKind kind) mint) := by
      rw [hmemory]
      exact if_pos rfl
    refine ⟨store, rfl, ?_, ?_, ?_⟩
    · intro k hk
      by_cases hlater : k ∈ kinds
      · apply hkinds k hlater
      · obtain rfl | hk := List.mem_cons.1 hk
        · refine ⟨Store.renewed current (scanned.ofKind k) mint, ?_, Store.isListed_listed _, ?_⟩
          · rw [hothers k hlater, hself]
          · apply Store.found_renewed
        · contradiction
    · intro k hk
      rw [List.mem_cons, not_or] at hk
      rw [hothers k hk.2, hmemory]
      exact if_neg hk.1
    · left
      obtain hnone | ⟨-, rfl⟩ := hbyId
      · exact hnone
      · rw [hmemory]

/-- The entities of the first kind that is stored renew those that the store had of it. -/
theorem exists_renewed_of_run_storeScanned {scanned : Scanned} {kind : Kind} {kinds : List Kind}
    {t t' : State} (hkind : kind ∉ kinds)
    (h : run (storeScanned scanned (kind :: kinds)) t = (.ok (), t')) :
  ∃ current mint, t.store.stored kind = .ok current ∧
    t'.store.memory.entities kind = some (Store.renewed current (scanned.ofKind kind) mint)
  := by
  obtain ⟨es, t₁, hreplace, h⟩ := exists_of_run_bind h
  obtain ⟨store₁, hstore₁, rfl⟩ := exists_of_run_onStore hreplace
  obtain ⟨current, mint, hcurrent, hmemory⟩ := Store.memory_of_run_replaceAll hstore₁
  obtain ⟨store, rfl, -, hothers, -⟩ := of_run_storeScanned h
  refine ⟨current, mint, hcurrent, ?_⟩
  rw [hothers kind hkind, hmemory]
  exact if_pos rfl

/-- Where entities are the same up to identities, they stand at the same paths. -/
theorem exists_path_eq_of_perm {es ds : List Entity}
    (h : (es.map (·.withId "")).Perm (ds.map (·.withId ""))) {e : Entity} (he : e ∈ es) :
  ∃ d ∈ ds, e.path = d.path
  := by
  obtain ⟨d, hd, heq⟩ := List.mem_map.1 (h.mem_iff.1 (List.mem_map_of_mem he))
  exact ⟨d, hd, (congrArg Entity.path heq).symm⟩

/-! ### Records -/

/-- The members of the implementation records that are built are stored functions. -/
theorem of_run_rebuildImplementations {t t' : State} {es : Kind → List Entity} {n : Nat}
    (hes : ∀ kind, t.store.memory.entities kind = some (es kind))
    (h : run rebuildImplementations t = (.ok n, t')) :
  ∃ store index, t' = { t with store := store } ∧
    store.memory = { t.store.memory with implementations := some index } ∧
    ∀ p ∈ index, ∀ id ∈ p.2.memberIds, ∃ e ∈ es .function, e.id = id
  := by
  have hall : ∀ kind, run (onStore (Store.all kind)) t = (.ok (es kind), t) :=
    fun kind => run_onStore_eq (Store.run_all_of_remembered hes kind)
  have hquery := run_onStore_eq
    (Store.run_query_of_remembered hes .trait none (some .traitDefinition))
  rw [rebuildImplementations, run_bind_ok (hall .function), run_bind_ok hquery,
    run_bind_ok (hall .implementation)] at h
  obtain ⟨records, t₁, hrecords, h⟩ := exists_of_run_bind h
  rw [run_lift, Prod.mk.injEq] at hrecords
  obtain ⟨hrecords, rfl⟩ := hrecords
  obtain ⟨_, t₂, hreplace, h⟩ := exists_of_run_bind h
  cases h
  obtain ⟨store, hstore, rfl⟩ := exists_of_run_onStore hreplace
  rw [Store.replaceImplementations_eq] at hstore
  refine ⟨store, _, rfl, Store.memory_of_run_replace Store.implementationShelf hstore, ?_⟩
  intro p hp id hid
  have hmem := (List.mergeSort_perm _ _).mem_iff.1 (Store.mem_of_mem_indexRecords hp)
  obtain ⟨block, -, hbuild⟩ := exists_of_mem_mapM hrecords hmem
  rw [Implementation.Record.buildChecked] at hbuild
  split at hbuild
  · injection hbuild with hbuild
    rw [← hbuild] at hid
    obtain ⟨e, he, rfl⟩ := List.mem_map.1 hid
    exact ⟨e, (List.mem_filter.1 ((List.mergeSort_perm _ _).mem_iff.1 he)).1, rfl⟩
  · contradiction

theorem of_run_accountsRecordsOf {files : List SourceFile} {es : List Entity} {t t' : State}
    {rs : List Account.Record} (hes : ∀ e ∈ es, (textAt? files e.path).isSome)
    (h : run (accountsRecordsOf files es) t = (.ok rs, t')) :
  t' = t
  := by
  induction es generalizing rs with
  | nil =>
    cases h
    rfl
  | cons e es ih =>
    rw [accountsRecordsOf, linesAt] at h
    obtain ⟨text, htext⟩ := Option.isSome_iff_exists.1 (hes e List.mem_cons_self)
    simp only [htext] at h
    obtain ⟨lines, t₁, hlines, h⟩ := exists_of_run_bind h
    cases hlines
    cases hfields : Account.fields (excerpt (Text.lines text.toList) e.first e.last) with
    | error chunk =>
      simp only [hfields] at h
      cases h
    | ok fields =>
      simp only [hfields] at h
      obtain ⟨more, t₂, hmore, h⟩ := exists_of_run_bind h
      cases h
      apply ih (fun d hd => hes d (List.mem_cons_of_mem e hd)) hmore

theorem of_run_rebuildAccounts {files : List SourceFile} {t t' : State}
    {es : Kind → List Entity} {n : Nat}
    (hes : ∀ kind, t.store.memory.entities kind = some (es kind))
    (hpaths : ∀ kind, ∀ e ∈ es kind, (textAt? files e.path).isSome)
    (h : run (rebuildAccounts files) t = (.ok n, t')) :
  ∃ store index, t' = { t with store := store } ∧
    store.memory = { t.store.memory with accounts := some index }
  := by
  have hquery := run_onStore_eq
    (Store.run_query_of_remembered hes .struct none (some .contextAccounts))
  rw [rebuildAccounts, run_bind_ok hquery] at h
  obtain ⟨records, t₁, hrecords, h⟩ := exists_of_run_bind h
  obtain ⟨_, t₂, hreplace, h⟩ := exists_of_run_bind h
  cases h
  obtain rfl := of_run_accountsRecordsOf
    (fun e he => hpaths _ e (List.mem_filter.1 he).1) hrecords
  obtain ⟨store, hstore, rfl⟩ := exists_of_run_onStore hreplace
  rw [Store.replaceAccounts_eq] at hstore
  exact ⟨store, _, rfl, Store.memory_of_run_replace Store.accountsShelf hstore⟩

/-! ### The scan -/

/-- After a scan of all kinds that succeeds, a basis with the walked files holds. There is no
dependency record, and no body was searched. -/
theorem exists_basis_of_scan {s₀ s : State} {summary : Summary} {found : Files.Walk}
    (hkinds : ∀ kind, kind ∈ s₀.settings.scan.kinds)
    (hwalk : Files.walk s₀.store.disk s₀.settings.program.folder s₀.settings.scan.extensions
      s₀.settings.scan.maxMegabytes = .ok found)
    (h : run scan s₀ = (.ok summary, s)) :
  ∃ b : Basis, b.files = found.files ∧ b.Holds s ∧ s.store.memory.dependencies = some [] ∧
    s.parsed = 0
  := by
  rw [scan, forget, run_modify_bind, run_get_bind] at h
  obtain ⟨found', t₁, hfound, h⟩ := exists_of_run_bind h
  rw [run_lift, hwalk] at hfound
  cases hfound
  obtain ⟨known, t₂, hprogram, h⟩ := exists_of_run_bind h
  obtain ⟨sources, rfl, hsources⟩ := of_run_program hprogram
  obtain ⟨_, t₃, hstored, h⟩ := exists_of_run_bind h
  obtain ⟨store₃, rfl, hentities, -, hbyId⟩ := of_run_storeScanned hstored
  obtain ⟨_, t₄, hclear, h⟩ := exists_of_run_bind h
  obtain ⟨store₄, hcleared, rfl⟩ := exists_of_run_onStore hclear
  rw [Store.clearDependencies_eq] at hcleared
  obtain ⟨⟨disk, hstore₄⟩, -⟩ := Store.of_run_file Store.dependencyShelf hcleared
  have hmemory₄ : store₄.memory = Store.dependencyShelf.remembering [] store₃.memory := by
    rw [hstore₄]
    rfl
  have hes : ∀ kind, ∃ es, store₄.memory.entities kind = some es ∧
      ∀ e ∈ es, (textAt? found.files e.path).isSome := by
    intro kind
    obtain ⟨es, hes, -, hperm⟩ := hentities kind (hkinds kind)
    refine ⟨es, by rw [hmemory₄]; exact hes, ?_⟩
    intro e he
    obtain ⟨d, hd, hpath⟩ := exists_path_eq_of_perm hperm he
    rw [hpath]
    apply isSome_textAt?_of_mem_scanKinds hd
  choose es hes hpaths using hes
  obtain ⟨implementations, t₅, himplementations, h⟩ := exists_of_run_bind h
  obtain ⟨store₅, index, rfl, hmemory₅, hmembers⟩ :=
    of_run_rebuildImplementations hes himplementations
  obtain ⟨structs, t₆, haccounts, h⟩ := exists_of_run_bind h
  have hes₅ : ∀ kind, store₅.memory.entities kind = some (es kind) := by
    rw [hmemory₅]
    exact hes
  obtain ⟨store₆, accounts, rfl, hmemory₆⟩ := of_run_rebuildAccounts hes₅ hpaths haccounts
  cases h
  have hbyId₆ : store₆.memory.byId = none := by
    obtain hnone | ⟨hempty, -⟩ := hbyId
    · rw [hmemory₆, hmemory₅, hmemory₄]
      exact hnone
    · have := hkinds .function
      change Kind.function ∈ s₀.settings.scan.kinds at this
      rw [hempty] at this
      contradiction
  have hdependencies : store₆.memory.dependencies = some [] := by
    rw [hmemory₆, hmemory₅, hmemory₄]
    rfl
  refine ⟨⟨es, index, found.files, hpaths, hmembers⟩, rfl, ?_, hdependencies, rfl⟩
  constructor
  · rw [hmemory₆]
    exact hes₅
  · rw [hbyId₆]
    rintro _ ⟨⟩
  · rw [hmemory₆, hmemory₅]
  · rintro _ ⟨⟩
  · intro path text htext lines hlines
    rw [hsources path (by rw [htext]; rfl)] at hlines
    contradiction

end AnchorIndex.Session

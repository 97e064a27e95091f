import AnchorIndex.Proofs.Account.Decoding
import AnchorIndex.Proofs.Session.Runs
import AnchorIndex.Proofs.Session.Sparing
import AnchorIndex.Proofs.Store.Keeping

/-!
# Records outlive the session

After a scan that succeeds, a session that is opened anew answers the records that the scan has
built: the implementation records as they are, and the accounts records up to empty rent payers, in
the place of which it has none (`records_after_scan`). An empty rent payer is decoded where an
attribute names only the error that is raised when the account cannot be paid or closed
(`rentPayer_lost_after_scan`).
-/

namespace AnchorIndex.Session

open Effect Relation
open Files (SourceFile)
open Store (Recorded accountsShelf contextStructs implementationShelf)

/-! ### Runs -/

/-- Every run from a fresh store leaves its entities recorded, whatever is scanned. -/
theorem exists_recorded_of_run {s t : State} (hfresh : s.store.IsFresh)
    (hlawful : s.store.mint.IsLawful) (hrun : Run (fun _ _ => True) s t) :
  ∃ es, Recorded t.store es
  := by
  induction hrun with
  | refl => exact ⟨_, hfresh.recorded hlawful⟩
  | tail _ hstep ih =>
    obtain ⟨es, hes⟩ := ih
    cases hstep with
    | edit disk husable hrecords => exact ⟨es, recorded_edit hes husable hrecords⟩
    | reopen settings hfolder =>
      have hrecorded := hes.reopened
      rw [← store_start hfolder] at hrecorded
      exact ⟨_, hrecorded⟩
    | scan _ hscan =>
      obtain hrecorded | ⟨found, known, -, hrecorded⟩ := recorded_after_scan hes hscan
      · exact ⟨es, hrecorded⟩
      · exact ⟨_, hrecorded⟩
    | resolve id => exact ⟨es, spares_resolve id _ es hes⟩
    | resolveNamed name => exact ⟨es, spares_resolveNamed name _ es hes⟩
    | resolveAll => exact ⟨es, spares_resolveAll _ es hes⟩

/-! ### Building records -/

section

variable {es : Kind → List Entity} {t t' : State} {n : Nat}

/-- An accounts record has the identity and the name of its struct, and fields that are decoded. -/
theorem exists_struct_of_mem_records {files : List SourceFile} {structs : List Entity}
    {records : List Account.Record}
    (h : run (accountsRecordsOf files structs) t = (.ok records, t')) {r : Account.Record}
    (hr : r ∈ records) :
  ∃ e ∈ structs, r.structId = e.id ∧ r.name = e.name ∧ ∀ f ∈ r.accounts, f.IsDecoded
  := by
  induction structs generalizing t records with
  | nil =>
    cases h
    contradiction
  | cons e structs ih =>
    obtain ⟨lines, t₁, hlines, h⟩ := exists_of_run_bind h
    split at h
    · cases h
    next fields hfields =>
      obtain ⟨more, t₂, hmore, h⟩ := exists_of_run_bind h
      cases h
      obtain rfl | hr := List.mem_cons.1 hr
      · refine ⟨e, List.mem_cons_self, rfl, rfl, ?_⟩
        intro f hf
        apply Account.isDecoded_of_mem_fields hfields hf
      · obtain ⟨d, hd, hdecoded⟩ := ih hmore hr
        exact ⟨d, List.mem_cons_of_mem e hd, hdecoded⟩

/-- The document keeps the implementation records that are built. -/
theorem keeps_of_run_rebuildImplementations (h : Recorded t.store es)
    (hrun : run rebuildImplementations t = (.ok n, t')) :
  Recorded t'.store es ∧ implementationShelf.Keeps t'.store id
  := by
  obtain ⟨records, t₁, hload, -, -, hclean, hreplace⟩ :=
    exists_of_run_rebuildImplementations h hrun
  have hrecorded := h.load hload
  obtain ⟨store, hstore, rfl⟩ := exists_of_run_onStore hreplace
  rw [Store.replaceImplementations_eq] at hstore
  obtain ⟨store', hstore', hfiled⟩ := implementationShelf.run_replace
    hrecorded.identified.usable (records.mergeSort (Store.orderedBy (·.name) (·.entityId)))
  rw [hstore'] at hstore
  cases hstore
  have hordered : ∀ r ∈ records.mergeSort (Store.orderedBy (·.name) (·.entityId)), r.IsClean :=
    fun r hr => hclean r (List.mem_mergeSort.1 hr)
  refine ⟨hrecorded.aside hfiled.aside, hfiled.keeps ?_ ?_⟩
  · intro r hr
    apply (implementationShelf.isNormal_record r (hordered r hr)).fits
  · intro r hr
    exact ⟨implementationShelf.kept_eq_self (hordered r hr), rfl⟩

/-- The document keeps the accounts records that are built, but for empty rent payers. -/
theorem keeps_of_run_rebuildAccounts {files : List SourceFile} (h : Recorded t.store es)
    (himplementations : implementationShelf.Keeps t.store id)
    (hrun : run (rebuildAccounts files) t = (.ok n, t')) :
  implementationShelf.Keeps t'.store id ∧
    accountsShelf.Keeps t'.store Account.Record.withoutEmptyPayers
  := by
  obtain ⟨records, t₁, t₂, hrecords, hload, -, hreplace⟩ := exists_of_run_rebuildAccounts h hrun
  obtain ⟨store, hstore, rfl⟩ := exists_of_run_onStore hreplace
  rw [Store.replaceAccounts_eq] at hstore
  obtain ⟨store', hstore', hfiled⟩ := accountsShelf.run_replace
    (h.load hload).identified.usable (records.mergeSort (Store.orderedBy (·.name) (·.structId)))
  rw [hstore'] at hstore
  cases hstore
  constructor
  · apply (himplementations.congr (hload.records_eq _) hload.implementations).filed_other hfiled
      (by decide +kernel) rfl
  · apply hfiled.keeps
    · intro r _
      apply Store.fits_accountsRecord
    · intro r hr
      obtain ⟨e, he, hid, hname, hdecoded⟩ :=
        exists_struct_of_mem_records hrecords (List.mem_mergeSort.1 hr)
      have hstored : e ∈ es .struct := (List.mem_filter.1 he).1
      refine ⟨?_, rfl⟩
      rw [Store.kept_accountsRecord]
      apply Account.Record.normal_eq_of_isDecoded _ _ hdecoded
      · rw [hid]
        apply h.identified.isNormal_id hstored
      · rw [hname]
        apply h.named _ e hstored

/-- The documents keep the records that a scan builds, but for empty rent payers. -/
theorem keeps_of_scan {summary : Summary} (h : Recorded t.store es)
    (hrun : run scan t = (.ok summary, t')) :
  implementationShelf.Keeps t'.store id ∧
    accountsShelf.Keeps t'.store Account.Record.withoutEmptyPayers
  := by
  obtain ⟨found, known, t₁, t₂, implementations, structs, -, -, -, h₁, -, hrebuilt, haccounts⟩ :=
    exists_of_run_scan h hrun
  obtain ⟨h₂, himplementations⟩ := keeps_of_run_rebuildImplementations h₁ hrebuilt
  apply keeps_of_run_rebuildAccounts h₂ himplementations haccounts

end

/-! ### Sessions opened after a scan -/

/-- What the shelf of a session has, and what that of a new one on its disk has. -/
theorem exists_index_start {shelf : Store.Shelf α} {f : α → α} {u : State} {settings : Settings}
    (h : shelf.Keeps u.store f) (hfolder : settings.metadataPath u.store.disk = u.store.folder)
    (hempty : ∀ mint, shelf.remembered (State.start u.store.disk mint settings).store.memory
      = none) :
  ∃ index, shelf.index u.store = .ok index
    ∧ ∀ mint, shelf.index (State.start u.store.disk mint settings).store
      = .ok (index.map (Prod.map id f))
  := by
  obtain ⟨index, hindex, hstart⟩ := h.exists_index
  refine ⟨index, hindex, fun mint => hstart _ ?_ (hempty mint)⟩
  simp only [State.start, hfolder]
  rfl

theorem answer_onStore (x : Store.Action α) (s : State) :
  answer (onStore x) s = Store.Effect.answer x s.store
  := rfl

/-- In every run from a fresh store, after a scan that succeeds a new session answers the records
that the scan has built: the same implementation records, as a whole and under each identity, and
the same accounts records, but for rent payers that are empty, in the place of which it has none. -/
theorem records_after_scan {s t u : State} {summary : Summary} (hfresh : s.store.IsFresh)
    (hlawful : s.store.mint.IsLawful) (hrun : Run (fun _ _ => True) s t)
    (hscan : run scan t = (.ok summary, u)) {settings : Settings}
    (hfolder : settings.metadataPath u.store.disk = u.store.folder) :
  ∃ implementations accounts,
    answer (onStore Store.implementations) u = .ok implementations
    ∧ answer (onStore Store.accountsRecords) u = .ok accounts
    ∧ ∀ mint, let v := State.start u.store.disk mint settings
      answer (onStore Store.implementations) v = .ok implementations
      ∧ answer (onStore Store.accountsRecords) v
        = .ok (accounts.map Account.Record.withoutEmptyPayers)
      ∧ (∀ id, ∃ r?, answer (onStore (Store.implementation? id)) u = .ok r?
        ∧ answer (onStore (Store.implementation? id)) v = .ok r?)
      ∧ ∀ id, ∃ r?, answer (onStore (Store.accountsOf? id)) u = .ok r?
        ∧ answer (onStore (Store.accountsOf? id)) v
          = .ok (r?.map Account.Record.withoutEmptyPayers)
  := by
  obtain ⟨es, hes⟩ := exists_recorded_of_run hfresh hlawful hrun
  obtain ⟨himplementations, haccounts⟩ := keeps_of_scan hes hscan
  obtain ⟨implementations, hi, hi'⟩ := exists_index_start himplementations hfolder fun _ => rfl
  obtain ⟨accounts, ha, ha'⟩ := exists_index_start haccounts hfolder fun _ => rfl
  simp only [answer_onStore, Store.answer_implementations, Store.answer_accountsRecords,
    Store.answer_implementation?, Store.answer_accountsOf?, hi, ha]
  refine ⟨implementations.map Prod.snd, accounts.map Prod.snd, rfl, rfl, ?_⟩
  intro mint
  rw [hi', ha', Prod.map_id, List.map_id]
  refine ⟨rfl, ?_, fun id => ⟨_, rfl, rfl⟩, fun id => ⟨_, rfl, ?_⟩⟩
  · change Except.ok ((accounts.map _).map Prod.snd) = _
    rw [List.map_map, List.map_map]
    rfl
  · change Except.ok ((accounts.map _).lookup id) = _
    rw [lookup_map_snd]

/-- A session that scans structs and implementations, with one of each in its only source. The
account of the struct is closed in favour of nobody: only an error is named. -/
def paySession : State :=
  State.start
    ⟨"/", .folder [("m", .folder []), ("programs", .folder [("lib.rs", .file (.text
      ("#[derive(Accounts)]\nstruct Pay \x7b\n#[account(close = @ Closed)]\nvault: Signer\n\x7d\n"
        ++ "impl Pay \x7b\x7d\n")))])]⟩
    (.after 0)
    { Settings.standard with
      metadata := ⟨"m"⟩
      scan := { Settings.standard.scan with kinds := [.struct, .implementation] } }

/-- A new session on the disk of a session, with its settings. -/
def State.opened (s : State) : State :=
  .start s.store.disk (.after 0) s.settings

theorem isFresh_paySession :
  paySession.store.IsFresh
  := by
  apply Store.State.isFresh_of_isHosted
  · decide +kernel
  · rfl
  · decide +kernel

/-- The rent payers of the accounts records that a session answers. -/
def payersIn (s : State) : Option (List (List (Option String))) :=
  (answer (onStore Store.accountsRecords) s).toOption.map
    (·.map fun r => r.accounts.map (·.rentPayer))

theorem answers_paySession :
  ∃ u, after scan paySession = u
  ∧ (∃ summary, run scan paySession = (.ok summary, u))
  ∧ u.settings.metadataPath u.store.disk = u.store.folder
  ∧ (answer (onStore Store.implementations) u).toOption.map (·.length) = some 1
  ∧ payersIn u = some [[some ""]]
  := by
  have hfacts :
      let u := after scan paySession
      (answer scan paySession).toOption.isSome = true
      ∧ u.settings.metadataPath u.store.disk = u.store.folder
      ∧ (answer (onStore Store.implementations) u).toOption.map (·.length) = some 1
      ∧ payersIn u = some [[some ""]] := by
    decide +kernel
  exact ⟨_, rfl, exists_run_of_isSome hfacts.1, hfacts.2⟩

theorem records_after_scan_paySession :
  let u := after scan paySession
  paySession.store.IsFresh ∧ paySession.store.mint.IsLawful
  ∧ Run (fun _ _ => True) paySession paySession
  ∧ (∃ summary, run scan paySession = (.ok summary, u))
  ∧ u.settings.metadataPath u.store.disk = u.store.folder
  ∧ ∃ implementations accounts,
    answer (onStore Store.implementations) u = .ok implementations
    ∧ answer (onStore Store.accountsRecords) u = .ok accounts
    ∧ implementations.length = 1 ∧ accounts.length = 1
    ∧ answer (onStore Store.implementations) u.opened = .ok implementations
    ∧ answer (onStore Store.accountsRecords) u.opened
      = .ok (accounts.map Account.Record.withoutEmptyPayers)
  := by
  have hlawful : paySession.store.mint.IsLawful := Store.Mint.isLawful_after 0
  obtain ⟨u, hu, ⟨summary, hscan⟩, hfolder, himplementations, hpayers⟩ := answers_paySession
  rw [hu]
  obtain ⟨implementations, accounts, hi, ha, hopened⟩ :=
    records_after_scan isFresh_paySession hlawful .refl hscan hfolder
  obtain ⟨hi', ha', -⟩ := hopened (.after 0)
  rw [hi] at himplementations
  rw [payersIn, ha] at hpayers
  have hlength := congrArg List.length (Option.some.inj hpayers)
  rw [List.length_map] at hlength
  exact ⟨isFresh_paySession, hlawful, .refl, ⟨summary, hscan⟩, hfolder, implementations, accounts,
    hi, ha, Option.some.inj himplementations, hlength, hi', ha'⟩

/-- The scan remembers a rent payer that is empty, and under the same identity a new session has a
record without one. -/
theorem rentPayer_lost_after_scan :
  let u := after scan paySession
  (∃ summary, run scan paySession = (.ok summary, u))
  ∧ ∃ r r', answer (onStore Store.accountsRecords) u = .ok [r]
    ∧ answer (onStore Store.accountsRecords) u.opened = .ok [r']
    ∧ r'.structId = r.structId
    ∧ r.accounts.map (·.rentPayer) = [some ""] ∧ r'.accounts.map (·.rentPayer) = [none]
    ∧ r' ≠ r
  := by
  obtain ⟨u, hu, ⟨summary, hscan⟩, hfolder, -, hpayers⟩ := answers_paySession
  rw [hu]
  obtain ⟨es, hes⟩ :=
    exists_recorded_of_run isFresh_paySession (Store.Mint.isLawful_after 0) .refl
  obtain ⟨accounts, hindex, hstart⟩ :=
    exists_index_start (keeps_of_scan hes hscan).2 hfolder fun _ => rfl
  have hrecords : answer (onStore Store.accountsRecords) u = .ok (accounts.map Prod.snd) := by
    rw [answer_onStore, Store.answer_accountsRecords, hindex]
    rfl
  rw [payersIn, hrecords] at hpayers
  obtain ⟨r, hsingle, hr⟩ := List.map_eq_singleton_iff.1 (Option.some.inj hpayers)
  obtain ⟨⟨key, r⟩, rfl, rfl⟩ := List.map_eq_singleton_iff.1 hsingle
  have hopened : r.withoutEmptyPayers.accounts.map (·.rentPayer) = [none] := by
    calc r.withoutEmptyPayers.accounts.map (·.rentPayer)
        = (r.accounts.map (·.rentPayer)).map (·.filter (· != "")) := by
          rw [Account.Record.withoutEmptyPayers, List.map_map, List.map_map]
          rfl
      _ = [none] := by
          rw [hr]
          decide
  refine ⟨⟨summary, hscan⟩, r, r.withoutEmptyPayers, hrecords, ?_, rfl, hr, hopened, ?_⟩
  · rw [State.opened, answer_onStore, Store.answer_accountsRecords, hstart]
    rfl
  · intro heq
    rw [heq, hr] at hopened
    contradiction

end AnchorIndex.Session

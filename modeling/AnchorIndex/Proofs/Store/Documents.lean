import AnchorIndex.Proofs.Store.Records

/-!
# Documents as files

A document is the file at its path, or nothing if there is none (`State.document`). A store is
ready (`State.Ready`) if its folder is there or can be made, then hosts the store, and shows the
same documents as before. Operations rewrite documents of a ready store one after the other
(`Rewritten`): a document that is rewritten is complete, and the files of others are spared.
-/

namespace AnchorIndex.Store

open Files Effect
open Document (Record Schema encode)

/-! ### Documents -/

/-- What is at the path of a document. -/
def State.document (s : State) (schema : Schema) : Except Refusal (Option Node) :=
  s.disk.find? (s.documentPath schema.document)

/-- Documents depend on the disk and the folder only. -/
theorem State.document_congr {s s' : State} (hdisk : s'.disk = s.disk)
    (hfolder : s'.folder = s.folder) (schema : Schema) :
  s'.document schema = s.document schema
  := by
  rw [State.document, State.document, State.documentPath, State.documentPath, hdisk, hfolder]

theorem Hosts.document_withDisk {s : State} {disk : Disk} {place : Place}
    {es : List (String × Node)} (h : Hosts disk s.folder place es) {schema : Schema}
    (hs : schema ∈ schemas) :
  (s.withDisk disk).document schema = .ok (es.lookup schema.document)
  := by
  have hspot : (s.withDisk disk).disk.spot ((s.withDisk disk).documentPath schema.document)
      = .ok ⟨place ++ [schema.document], es.lookup schema.document⟩ :=
    h.spot_eq (document_mem_writtenNames hs)
  rw [State.document, Disk.find?, hspot]

theorem content_of_find? {d : Disk} {path : String} {node : Node}
    (h : d.find? path = .ok (some node)) :
  d.content path = Disk.contentOf path ⟨[], some node⟩
  := by
  rw [Disk.find?] at h
  split at h
  next spot hspot =>
    obtain ⟨place, entry⟩ := spot
    cases h
    rw [Disk.content, hspot]
    cases node <;> rfl
  · split at h
    · cases h
    · contradiction

theorem exists_spot_of_content {d : Disk} {path : String} {c : Content}
    (h : d.content path = .ok c) :
  ∃ place, d.spot path = .ok ⟨place, some (.file c)⟩
  := by
  rw [Disk.content] at h
  cases hspot : d.spot path with
  | error refusal =>
    rw [hspot] at h
    contradiction
  | ok spot =>
    obtain ⟨place, entry⟩ := spot
    rw [hspot] at h
    change Disk.contentOf path _ = _ at h
    rw [Disk.contentOf.eq_def] at h
    split at h
    next heq =>
      cases heq
      cases h
      exact ⟨place, rfl⟩
    · contradiction
    · contradiction

/-- What a document holds depends on what is at its path. -/
theorem State.records_of_document {s s' : State} (hfolder : s'.folder = s.folder)
    {schema : Schema} (h : s'.document schema = s.document schema) :
  s'.records schema = s.records schema
  := by
  have hpath : s'.documentPath schema.document = s.documentPath schema.document := by
    rw [State.documentPath, State.documentPath, hfolder]
  rw [State.document, State.document, hpath] at h
  rw [State.records, State.records, hpath, readRecords, readRecords, Disk.has, Disk.has, h]
  cases hfound : s.disk.find? (s.documentPath schema.document) with
  | error refusal => rfl
  | ok entry =>
    cases entry with
    | none => rfl
    | some node =>
      rw [hfound] at h
      rw [content_of_find? h, content_of_find? hfound]

/-- What a document holds is read from the file at its path. -/
theorem State.records_of_file {s : State} {schema : Schema} {c : Content}
    (h : s.document schema = .ok (some (.file c))) :
  s.records schema = recordsOfContent schema c
  := by
  rw [State.document] at h
  rw [State.records, readRecords, Disk.has, h, content_of_find? h]
  rfl

/-! ### Ready stores -/

/-- The folder of the store is at this place or can be made there, it then hosts the store, and
making it shows and hides no document. -/
def State.ReadyAt (s : State) (place : Place) : Prop :=
  ∃ disk es, s.disk.makeFolders s.folder = (.ok (), disk) ∧ Hosts disk s.folder place es ∧
    ∀ schema ∈ schemas, (s.withDisk disk).document schema = s.document schema

/-- The folder of the store is there or can be made, and hosts the store. -/
def State.Ready (s : State) : Prop :=
  ∃ place, s.ReadyAt place

/-- A store is ready if its folder hosts it. -/
theorem State.readyAt_of_hosts {s : State} {place : Place} {es : List (String × Node)}
    (h : Hosts s.disk s.folder place es) :
  s.ReadyAt place
  := ⟨s.disk, es, h.makeFolders_eq, h, fun _ _ => rfl⟩

theorem State.ready_of_isHosted {s : State} (h : s.isHosted = true) :
  s.Ready
  := by
  obtain ⟨place, es, hhosts⟩ := State.exists_hosts_of_isHosted h
  exact ⟨place, State.readyAt_of_hosts hhosts⟩

namespace State.ReadyAt

variable {s s' : State} {place : Place}

/-- A ready store is usable. -/
theorem usable (h : s.ReadyAt place) :
  s.Usable
  := by
  obtain ⟨disk, es, hmake, hhosts, hdocument⟩ := h
  refine ⟨disk, place, es, hmake, hhosts, ?_⟩
  intro schema hs
  apply records_of_document
  · rfl
  · apply hdocument schema hs

/-- Whether a store is ready depends on its disk and its folder only. -/
theorem congr (h : s.ReadyAt place) (hdisk : s'.disk = s.disk) (hfolder : s'.folder = s.folder) :
  s'.ReadyAt place
  := by
  obtain ⟨disk, es, hmake, hhosts, hdocument⟩ := h
  refine ⟨disk, es, ?_, ?_, ?_⟩
  · rw [hdisk, hfolder, hmake]
  · rwa [hfolder]
  · intro schema hs
    rw [document_congr hdisk hfolder, ← hdocument schema hs]
    apply document_congr
    · rfl
    · apply hfolder

end State.ReadyAt

/-- The store writes to what a path means: it is a document of the store, or a draft of one. -/
def State.Owns (s : State) (path : String) : Prop :=
  ∃ place q entry, s.ReadyAt place ∧ s.disk.spot path = .ok ⟨q, entry⟩ ∧ OwnPlace place q

/-! ### Rewriting documents -/

/-- From the first state to the second one these documents were rewritten with records as is said
of them, the other documents are as they were, and so are all files but those that the store writes
at its place. -/
structure Rewritten (place : Place) (written : Schema → List Record → Prop) (done : List Schema)
    (s s' : State) : Prop where
  ready : s'.ReadyAt place
  folder : s'.folder = s.folder
  spares : Disk.Spares (OwnPlace place) s.disk s'.disk
  known : ∀ schema ∈ done, schema ∈ schemas
  written : ∀ schema ∈ done, ∃ rs, written schema rs ∧
    s'.document schema = .ok (some (.file (.text (encode schema rs))))
  kept : ∀ schema ∈ schemas, schema ∉ done → s'.document schema = s.document schema

namespace Rewritten

variable {place : Place} {written : Schema → List Record → Prop} {done done' : List Schema}
  {s s' s'' t t' : State}

theorem refl (written : Schema → List Record → Prop) (h : s.ReadyAt place) :
  Rewritten place written [] s s
  := by
  refine ⟨h, rfl, Disk.Spares.refl _ s.disk, ?_, ?_, fun _ _ _ => rfl⟩
  · intro schema hschema
    contradiction
  · intro schema hschema
    contradiction

theorem trans (h : Rewritten place written done s s') (h' : Rewritten place written done' s' s'') :
  Rewritten place written (done ++ done') s s''
  := by
  refine ⟨h'.ready, h'.folder.trans h.folder, h.spares.trans h'.spares,
    List.forall_mem_append.2 ⟨h.known, h'.known⟩, ?_, ?_⟩
  · intro schema hschema
    by_cases hlater : schema ∈ done'
    · apply h'.written schema hlater
    · have hfirst : schema ∈ done := by
        rw [List.mem_append] at hschema
        exact hschema.resolve_right hlater
      obtain ⟨rs, hrs, hdocument⟩ := h.written schema hfirst
      rw [h'.kept schema (h.known schema hfirst) hlater]
      exact ⟨rs, hrs, hdocument⟩
  · intro schema hs hnot
    rw [List.mem_append, not_or] at hnot
    rw [h'.kept schema hs hnot.2, h.kept schema hs hnot.1]

/-- What was rewritten depends on the disks and the folders only. -/
theorem congr (h : Rewritten place written done s s') (hdisk : t.disk = s.disk)
    (hfolder : t.folder = s.folder) (hdisk' : t'.disk = s'.disk)
    (hfolder' : t'.folder = s'.folder) :
  Rewritten place written done t t'
  := by
  refine ⟨h.ready.congr hdisk' hfolder', ?_, ?_, h.known, ?_, ?_⟩
  · rw [hfolder', h.folder, hfolder]
  · rw [hdisk, hdisk']
    apply h.spares
  · intro schema hschema
    rw [State.document_congr hdisk' hfolder']
    apply h.written schema hschema
  · intro schema hs hnot
    rw [State.document_congr hdisk' hfolder', State.document_congr hdisk hfolder,
      h.kept schema hs hnot]

theorem path_eq (h : Rewritten place written done s s') (path : String) :
  s'.disk.path path = s.disk.path path
  := by
  rw [Disk.path, Disk.path, h.spares.folder]

/-- A file that the store does not write to has its content still. -/
theorem content_eq (h : Rewritten place written done s s') (hready : s.ReadyAt place)
    {path : String} (howns : ¬ s.Owns path) {c : Content} (hcontent : s.disk.content path = .ok c) :
  s'.disk.content path = .ok c
  := by
  obtain ⟨q, hspot⟩ := exists_spot_of_content hcontent
  have hq : ¬ OwnPlace place q := fun hown => howns ⟨place, q, _, hready, hspot, hown⟩
  rw [Disk.content, h.spares.spot_eq hspot hq]
  rfl

end Rewritten

/-- Writing a document of a ready store rewrites it. -/
theorem rewritten_writeDocument {place : Place} {written : Schema → List Record → Prop} {s : State}
    (h : s.ReadyAt place) {schema : Schema} (hs : schema ∈ schemas) {rs : List Record}
    (hrs : written schema rs) :
  ∃ disk, run (writeDocument schema rs) s = (.ok (), s.withDisk disk) ∧
    Rewritten place written [schema] s (s.withDisk disk)
  := by
  obtain ⟨disk, es, hmake, hhosts, hdocument⟩ := h
  obtain ⟨disk', es', hrun, hredone⟩ := exists_run_writeDocument hmake hhosts hs rs
  have hdocument' : ∀ schema' ∈ schemas, (s.withDisk disk').document schema'
      = .ok (es'.lookup schema'.document) :=
    fun schema' hs' => hredone.hosts.document_withDisk (s := s) hs'
  have hmade : Disk.Spares (OwnPlace place) s.disk disk := by
    have hspares := spares_makeFolders s.disk s.folder
    rw [hmake] at hspares
    apply hspares.mono
    intro q hq
    contradiction
  refine ⟨disk', hrun, State.readyAt_of_hosts hredone.hosts, rfl, hmade.trans hredone.spares,
    by simpa using hs, ?_, ?_⟩
  · intro schema' hschema'
    obtain rfl := List.mem_singleton.1 hschema'
    refine ⟨rs, hrs, ?_⟩
    rw [hdocument' schema' hs, hredone.written]
  · intro schema' hs' hnot
    rw [List.mem_singleton] at hnot
    rw [hdocument' schema' hs', hredone.kept schema' hs' hnot, ← hdocument schema' hs',
      hhosts.document_withDisk (s := s) hs']

/-- A document that is written into a usable store holds the text of the records. -/
theorem document_of_writeDocument {s s' : State} (h : s.Usable) {schema : Schema}
    (hs : schema ∈ schemas) {rs : List Record}
    (hrun : run (writeDocument schema rs) s = (.ok (), s')) :
  s'.document schema = .ok (some (.file (.text (encode schema rs))))
  := by
  obtain ⟨disk, place, es, hmake, hhosts, -⟩ := h
  obtain ⟨disk', es', hrun', hredone⟩ := exists_run_writeDocument hmake hhosts hs rs
  rw [hrun] at hrun'
  cases hrun'
  rw [hredone.hosts.document_withDisk hs, hredone.written]

/-! ### Operations -/

section

variable {place : Place} {written : Schema → List Record → Prop} {s : State}

/-- Where the stored entities of a kind cannot be read, nothing takes their place. -/
theorem run_replaceAll_of_error {kind : Kind} {failure : Failure}
    (h : s.stored kind = .error failure) (batch : List Entity) :
  run (replaceAll kind batch) s = (.error failure, s)
  := by
  rw [replaceAll, run_bind_error (by rw [run_all, h, loading_of_error h])]

/-- Entities that take the place of all entities of a kind are written into their document. Where
the stored ones cannot be read, nothing happens. -/
theorem rewritten_replaceAll (h : s.ReadyAt place) {kind : Kind} {batch : List Entity}
    (hbatch : ∀ e ∈ batch, e.kind = kind)
    (hwritten : ∀ es, IsListed es →
      (es.map (·.withId "")).Perm (batch.map (·.withId "")) →
      written (entitySchema kind) (es.map entityRecord)) :
  (∃ failure, run (replaceAll kind batch) s = (.error failure, s))
  ∨ ∃ es s', run (replaceAll kind batch) s = (.ok es, s') ∧
      Rewritten place written [entitySchema kind] s s'
  := by
  cases hcurrent : s.stored kind with
  | error failure =>
    left
    exact ⟨failure, run_replaceAll_of_error hcurrent batch⟩
  | ok current =>
    right
    have hall : run (all kind) s = (.ok current, s.loading kind) := by rw [run_all, hcurrent]
    have hloads := loads_loading s kind
    let r := assigned (knownIds current) (keyed batch) s.mint
    let t : State := { s.loading kind with mint := s.mint.skip (newCount current batch) }
    have ht : t.ReadyAt place := h.congr hloads.disk hloads.folder
    have hr : written (entitySchema kind) ((listed (r.map Prod.snd)).map entityRecord) :=
      hwritten _ (isListed_listed _) (found_renewed current batch s.mint)
    obtain ⟨disk, hrun, hrewritten⟩ :=
      rewritten_writeDocument ht (entitySchema_mem_schemas kind) hr
    let memory := { t.memory.withEntities kind (listed (r.map Prod.snd)) with byId := none }
    refine ⟨r.map Prod.snd, { t.withDisk disk with memory := memory }, ?_,
      hrewritten.congr hloads.disk.symm hloads.folder.symm rfl rfl⟩
    have hsave : run (save kind (r.map Prod.snd)) t
        = (.ok (), { t.withDisk disk with memory := memory }) := by
      rw [save, run_bind_ok hrun, run_remember]
      rfl
    rw [replaceAll, run_bind_ok hall, run_bind_ok (run_assign_loading hbatch), run_bind_ok hsave,
      run_pure]

variable (written) {α : Type} (shelf : Shelf α)

/-- Records that are filed are written into their document. -/
theorem rewritten_file (h : s.ReadyAt place) (index : List (String × α)) (rs : List α)
    (hrs : written shelf.schema (rs.map shelf.record)) :
  ∃ s', run (shelf.file index rs) s = (.ok (), s') ∧ Rewritten place written [shelf.schema] s s'
  := by
  have ht : (shelf.consulted index s).ReadyAt place := h.congr rfl rfl
  obtain ⟨disk, hrun, hrewritten⟩ := rewritten_writeDocument ht shelf.mem_schemas hrs
  refine ⟨_, ?_, hrewritten.congr rfl rfl rfl rfl⟩
  rw [Shelf.file, run_bind_ok (run_remember _ s)]
  apply hrun

/-- Records that take the place of all others are written into their document. -/
theorem rewritten_replace (h : s.ReadyAt place) {rs : List α}
    (hrs : written shelf.schema (rs.map shelf.record)) :
  ∃ s', run (shelf.replace rs) s = (.ok (), s') ∧ Rewritten place written [shelf.schema] s s'
  := by
  obtain ⟨disk, hrun, hrewritten⟩ := rewritten_writeDocument h shelf.mem_schemas hrs
  refine ⟨shelf.consulted (indexRecords shelf.key rs) (s.withDisk disk), ?_,
    hrewritten.congr rfl rfl rfl rfl⟩
  rw [Shelf.replace, run_bind_ok hrun]
  rfl

end

end AnchorIndex.Store

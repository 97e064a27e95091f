import AnchorIndex.Proofs.Document.Reading
import AnchorIndex.Proofs.Files.Sparing
import AnchorIndex.Proofs.Store.Actions
import AnchorIndex.Proofs.Store.Folder

/-!
# Writing documents

A store is usable (`State.Usable`) if its folder is there or can be made, and then hosts the
store. Writing a document of a usable store succeeds, leaves the store usable, and changes what
this document holds and nothing else (`run_writeDocument`).
-/

namespace AnchorIndex.Store

open Files Effect
open Document (Record Schema decode encode)

/-! ### What documents hold -/

/-- What the document of a schema holds, or why it cannot be read. -/
def State.records (s : State) (schema : Schema) : Except Failure (List Record) :=
  readRecords s.disk (s.documentPath schema.document) schema

@[simp]
theorem run_readDocument (schema : Schema) (s : State) :
  run (readDocument schema) s = (s.records schema, s)
  := by
  rw [readDocument, run_get_bind, run_lift, State.records]

/-- What a file with a content holds, or why it cannot be read. -/
def recordsOfContent (schema : Schema) (c : Content) : Except Failure (List Record) :=
  match c.read with
  | .error flaw => .error (.undecodable flaw)
  | .ok text => (decode schema text).mapError fun f => .fault (.document f)

/-- What is held by the entry of a document in its folder, if there is one. -/
def recordsOfEntry (schema : Schema) : Option Node → Except Failure (List Record)
  | some (.file c) => recordsOfContent schema c
  | _ => .ok []

theorem recordsOfEntry_file (schema : Schema) (c : Content) :
  recordsOfEntry schema (some (.file c)) = recordsOfContent schema c
  := rfl

/-- In the text of a file that is read, line feeds end the lines. -/
theorem notMem_of_read {c : Content} {text : String} (h : c.read = .ok text) :
  '\r' ∉ text.toList
  := by
  cases c with
  | text s =>
    cases h
    rw [String.toList_ofList]
    apply Text.notMem_foldNewlines
  | bytes b =>
    rw [Content.read, Content.readBy] at h
    split at h
    · contradiction
    · cases h
      rw [String.toList_ofList]
      apply Text.notMem_foldNewlines

/-- What is read from a file that is written, provided that no value breaks its line. -/
theorem recordsOfContent_encode_iff {schema : Schema} (hw : schema.WellFormed)
    {rs rs' : List Record} (hrs : ∀ r ∈ rs, r.Unbroken schema) :
  recordsOfContent schema (.text (encode schema rs)) = .ok rs'
    ↔ List.Forall₂ (Record.ReadsAs schema) rs rs'
  := by
  have hread : (Content.text (encode schema rs)).read = .ok (encode schema rs) := by
    rw [Content.read, Content.readBy]
    rw [Text.foldNewlines_eq_self (Document.notMem_encode hw hrs), String.ofList_toList]
  simp only [recordsOfContent, hread]
  rw [mapError_eq_ok_iff, Document.decode_encode_iff hw hrs]

/-- What is written of records is read back as the records. -/
theorem recordsOfContent_encode {schema : Schema} (hw : schema.WellFormed) {rs : List Record}
    (hrs : ∀ r ∈ rs, r.Fits schema) :
  recordsOfContent schema (.text (encode schema rs)) = .ok (rs.map (·.normal schema))
  := by
  rw [recordsOfContent_encode_iff hw fun r hr => (hrs r hr).unbroken,
    ← Document.decode_encode_iff hw fun r hr => (hrs r hr).unbroken]
  apply Document.decode_encode hw hrs

/-- Whatever a document holds, the records that are read from it are normal. -/
theorem isNormal_of_records {s : State} {schema : Schema} (hw : schema.WellFormed)
    {rs : List Record} (h : s.records schema = .ok rs) {r : Record} (hr : r ∈ rs) :
  r.IsNormal schema
  := by
  rw [State.records, readRecords] at h
  split at h
  · contradiction
  · cases h
    contradiction
  · split at h
    · contradiction
    next content _ =>
      split at h
      · contradiction
      next text hread =>
        rw [mapError_eq_ok_iff] at h
        apply Document.isNormal_of_mem_decode hw _ h hr
        apply notMem_of_read hread

theorem Hosts.readRecords_eq {disk : Disk} {folder : String} {place : Place}
    {es : List (String × Node)} (h : Hosts disk folder place es) {schema : Schema}
    (hs : schema ∈ schemas) :
  readRecords disk (joinPath folder schema.document) schema
    = recordsOfEntry schema (es.lookup schema.document)
  := by
  have hname := document_mem_writtenNames hs
  have hspot := h.spot_eq hname
  rw [readRecords]
  simp only [Disk.has, Disk.find?, hspot]
  cases hentry : es.lookup schema.document with
  | none => rfl
  | some node =>
    cases node with
    | file content =>
      rw [hentry] at hspot
      simp only [Disk.content, hspot]
      rfl
    | folder entries => exact absurd (h.plain _ hname _ hentry) (by simp [Node.isFile])
    | link target => exact absurd (h.plain _ hname _ hentry) (by simp [Node.isFile])

/-! ### Usable stores -/

/-- The state with another disk. -/
def State.withDisk (s : State) (disk : Disk) : State :=
  { s with disk := disk }

theorem Hosts.records_withDisk {s : State} {disk : Disk} {place : Place}
    {es : List (String × Node)} (h : Hosts disk s.folder place es) {schema : Schema}
    (hs : schema ∈ schemas) :
  (s.withDisk disk).records schema = recordsOfEntry schema (es.lookup schema.document)
  := h.readRecords_eq hs

/-- The folder of the store is there or can be made, it then hosts the store, and making it
changes no document. -/
def State.Usable (s : State) : Prop :=
  ∃ disk place es, s.disk.makeFolders s.folder = (.ok (), disk) ∧ Hosts disk s.folder place es ∧
    ∀ schema ∈ schemas, (s.withDisk disk).records schema = s.records schema

/-- A store is usable if its folder hosts it. -/
theorem State.usable_of_hosts {s : State} {place : Place} {es : List (String × Node)}
    (h : Hosts s.disk s.folder place es) :
  s.Usable
  := ⟨s.disk, place, es, h.makeFolders_eq, h, fun _ _ => rfl⟩

/-- A check of whether the folder of a store hosts it. -/
def State.isHosted (s : State) : Bool :=
  match s.disk.tree.reach (Place.ofText s.folder) with
  | .ok ⟨_, some (.folder es)⟩ =>
    isPath s.folder && decide (s.folder.utf8ByteSize + 1 + maxWrittenSize < Disk.maxPathSize) &&
      writtenNames.all fun name => (es.lookup name).all (·.isFile)
  | _ => false

theorem State.exists_hosts_of_isHosted {s : State} (h : s.isHosted = true) :
  ∃ place es, Hosts s.disk s.folder place es
  := by
  rw [isHosted] at h
  split at h
  next place es hreach =>
    rw [Bool.and_eq_true, Bool.and_eq_true, decide_eq_true_iff, List.all_eq_true] at h
    obtain ⟨⟨hpath, hsize⟩, hplain⟩ := h
    refine ⟨place, es, hpath, hsize, leads_of_reachFrom hreach, ?_⟩
    intro name hname node hnode
    have hall := hplain name hname
    rwa [hnode] at hall
  · contradiction

theorem State.usable_of_isHosted {s : State} (h : s.isHosted = true) :
  s.Usable
  := by
  obtain ⟨place, es, hhosts⟩ := State.exists_hosts_of_isHosted h
  apply State.usable_of_hosts hhosts

/-- What the documents hold depends on the disk and the folder only. -/
theorem State.records_congr {s s' : State} (hdisk : s'.disk = s.disk)
    (hfolder : s'.folder = s.folder) (schema : Schema) :
  s'.records schema = s.records schema
  := by
  rw [State.records, State.records, State.documentPath, State.documentPath, hdisk, hfolder]

/-- Whether a store is usable depends on its disk and its folder only. -/
theorem State.Usable.congr {s s' : State} (h : s.Usable) (hdisk : s'.disk = s.disk)
    (hfolder : s'.folder = s.folder) :
  s'.Usable
  := by
  obtain ⟨disk, place, es, hmake, hhosts, hrecords⟩ := h
  refine ⟨disk, place, es, ?_, ?_, ?_⟩
  · rw [hdisk, hfolder, hmake]
  · rwa [hfolder]
  · intro schema hs
    rw [State.records_congr hdisk hfolder, ← hrecords schema hs]
    apply State.records_congr
    · rfl
    · apply hfolder

/-! ### Writing -/

/-- In the second state the store is usable, records are written into one document, and the other
documents hold what they held. Records that do not fit the schema may not be readable. -/
structure Wrote (s s' : State) (schema : Schema) (rs : List Record) : Prop where
  usable : s'.Usable
  known : schema ∈ schemas
  records_eq : s'.records schema = recordsOfContent schema (.text (encode schema rs))
  kept : ∀ schema' ∈ schemas, schema' ≠ schema → s'.records schema' = s.records schema'

namespace Wrote

variable {s s' t t' : State} {schema : Schema} {rs : List Record}

/-- Records that fit the schema are read back as the document keeps them. -/
theorem written (h : Wrote s s' schema rs) (hrs : ∀ r ∈ rs, r.Fits schema) :
  s'.records schema = .ok (rs.map (·.normal schema))
  := by
  rw [h.records_eq]
  apply recordsOfContent_encode (wellFormed_of_mem_schemas h.known) hrs

/-- What is written depends on the disks and the folders only. -/
theorem congr (h : Wrote s s' schema rs) (hdisk : t.disk = s.disk) (hfolder : t.folder = s.folder)
    (hdisk' : t'.disk = s'.disk) (hfolder' : t'.folder = s'.folder) :
  Wrote t t' schema rs
  := by
  refine ⟨h.usable.congr hdisk' hfolder', h.known, ?_, ?_⟩
  · rw [State.records_congr hdisk' hfolder', h.records_eq]
  · intro schema' hs' hne
    rw [State.records_congr hdisk' hfolder', State.records_congr hdisk hfolder, h.kept _ hs' hne]

end Wrote

theorem joinPath_append_tmp (folder : String) {schema : Schema} (hs : schema ∈ schemas) :
  joinPath folder schema.document ++ ".tmp" = joinPath folder (draftName schema.document)
  := by
  have hdocument := isEntryName_of_mem_writtenNames (document_mem_writtenNames hs)
  have hdraft := isEntryName_of_mem_writtenNames (draftName_mem_writtenNames hs)
  rw [joinPath_eq folder hdocument, joinPath_eq folder hdraft, draftName, String.append_assoc]

theorem run_prepareFolder {s : State} {disk : Disk}
    (h : s.disk.makeFolders s.folder = (.ok (), disk)) :
  run prepareFolder s = (.ok (), s.withDisk disk)
  := by
  rw [prepareFolder, run_get_bind, h]
  simp only [run_set_bind, run_pure, State.withDisk]

theorem run_change {s : State} {f : Disk → Except Refusal Disk} {disk : Disk}
    (h : f s.disk = .ok disk) :
  run (change f) s = (.ok (), s.withDisk disk)
  := by
  rw [change, run_get_bind, h]
  simp only [run_set, State.withDisk]

/-- The places where the store writes in a folder. -/
def OwnPlace (place q : Place) : Prop :=
  ∃ name ∈ writtenNames, q = place ++ [name]

/-- In the second disk a document of the hosting folder is written anew. -/
structure Redone (disk disk' : Disk) (folder : String) (place : Place)
    (es es' : List (String × Node)) (schema : Schema) (rs : List Record) : Prop where
  hosts : Hosts disk' folder place es'
  written : es'.lookup schema.document = some (.file (.text (encode schema rs)))
  kept : ∀ schema' ∈ schemas, schema' ≠ schema →
    es'.lookup schema'.document = es.lookup schema'.document
  spares : Disk.Spares (OwnPlace place) disk disk'

/-- Once the folder is made, writing a document writes it anew and leaves the others. -/
theorem exists_run_writeDocument {s : State} {disk : Disk} {place : Place}
    {es : List (String × Node)} (hmake : s.disk.makeFolders s.folder = (.ok (), disk))
    (h : Hosts disk s.folder place es) {schema : Schema} (hs : schema ∈ schemas)
    (rs : List Record) :
  ∃ disk' es', run (writeDocument schema rs) s = (.ok (), s.withDisk disk') ∧
    Redone disk disk' s.folder place es es' schema rs
  := by
  have hdocument := document_mem_writtenNames hs
  have hdraft := draftName_mem_writtenNames hs
  let content : Content := .text (encode schema rs)
  have hwrite := h.write_eq hdraft content
  have hhosts₁ := h.insert hdraft content
  have hspares₁ := spares_insert h.at?_place (h.plain _ hdraft) (.file content)
  change Spares _ disk.tree
    (disk.insert (place ++ [draftName schema.document]) (.file content)).tree at hspares₁
  have hfolder₁ : (disk.insert (place ++ [draftName schema.document]) (.file content)).folder
      = disk.folder := rfl
  generalize disk.insert (place ++ [draftName schema.document]) (.file content) = disk₁
    at hwrite hhosts₁ hspares₁ hfolder₁
  have hentry : (alterEntry (draftName schema.document) (fun _ => .file content) es).lookup
      (draftName schema.document) = some (.file content) := by
    rw [lookup_alterEntry, if_pos rfl]
  have hmove := hhosts₁.move_eq hdraft hdocument hentry
  have hhosts₂ := hhosts₁.remove hdraft
  have hspares₂ := spares_remove hhosts₁.at?_place (hhosts₁.plain _ hdraft)
  have hspares₃ := spares_insert hhosts₂.at?_place (hhosts₂.plain _ hdocument) (.file content)
  refine ⟨_, _, ?_, hhosts₂.insert hdocument content, ?_, ?_, ?_⟩
  · rw [writeDocument, run_get_bind]
    simp only [State.documentPath, joinPath_append_tmp s.folder hs]
    rw [run_bind_ok (run_prepareFolder hmake), run_bind_ok (run_change hwrite), run_change hmove]
    rfl
  · rw [lookup_alterEntry, if_pos rfl]
  · intro schema' hs' hne
    have hdocument' : schema'.document ≠ schema.document := by
      intro heq
      apply hne (eq_of_document_eq hs' hs heq)
    have hdraft' : schema'.document ≠ draftName schema.document := document_ne_draftName hs' hs
    rw [lookup_alterEntry, if_neg hdocument', lookup_removeEntry, if_neg hdraft',
      lookup_alterEntry, if_neg hdraft']
  · have hown : ∀ name ∈ writtenNames, ∀ q, q = place ++ [name] → OwnPlace place q :=
      fun name hname q hq => ⟨name, hname, hq⟩
    have h₁ := hspares₁.mono (hown _ hdraft)
    have h₂ := hspares₂.mono (hown _ hdraft)
    have h₃ := hspares₃.mono (hown _ hdocument)
    exact ⟨hfolder₁, (h₁.trans h₂).trans h₃⟩

/-- Writing a document of a usable store succeeds and changes what this document holds. -/
theorem run_writeDocument {s : State} (h : s.Usable) {schema : Schema} (hs : schema ∈ schemas)
    (rs : List Record) :
  ∃ disk, run (writeDocument schema rs) s = (.ok (), s.withDisk disk) ∧
    Wrote s (s.withDisk disk) schema rs
  := by
  obtain ⟨disk, place, es, hmake, hhosts, hrecords⟩ := h
  obtain ⟨disk', es', hrun, hredone⟩ := exists_run_writeDocument hmake hhosts hs rs
  have hrecords' : ∀ schema' ∈ schemas, (s.withDisk disk').records schema'
      = recordsOfEntry schema' (es'.lookup schema'.document) :=
    fun schema' hs' => hredone.hosts.records_withDisk (s := s) hs'
  refine ⟨disk', hrun, State.usable_of_hosts hredone.hosts, hs, ?_, ?_⟩
  · rw [hrecords' schema hs, hredone.written, recordsOfEntry_file]
  · intro schema' hs' hne
    rw [hrecords' schema' hs', hredone.kept schema' hs' hne, ← hrecords schema' hs',
      hhosts.records_withDisk (s := s) hs']

end AnchorIndex.Store

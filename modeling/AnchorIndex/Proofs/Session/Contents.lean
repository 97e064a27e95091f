import AnchorIndex.Proofs.Files.Walking
import AnchorIndex.Proofs.Session.Failing
import AnchorIndex.Proofs.Session.Resolving
import AnchorIndex.Proofs.Source.Names

/-!
# What a scan stores

A session that is opened after a scan lists, for each configured kind, one entity for each range of
a walked file, and nothing else; the source text of the entity is that of the range, unless the
store has written to the file itself (`listed_after_scan`). So nothing that the scan finds is lost
or changed on its way into a document and back (`Describes.normal`).
-/

namespace AnchorIndex.Session

open Effect
open Document (IsNormal Record encode normalText_eq_self)
open Files (SourceFile Walk)
open Source (Range)
open Store (IsListed Rewritten entityRecord entitySchema)

/-! ### Answers -/

/-- The lines of a range, cut out of its text, are its content. -/
theorem excerpt_of_mem_scan {kind : Kind} {text : String} {r : Range}
    (h : r ∈ Source.scan kind text) :
  excerpt (Text.lines text.toList) r.first r.last = r.content.toList
  := by
  rw [Source.scan, Source.rangesOf, List.mem_filterMap] at h
  obtain ⟨f, -, hf⟩ := h
  cases f with
  | block name start stop =>
    cases hf
    rw [String.toList_ofList]
    rfl
  | gap name start => contradiction

/-- In a session that has read no source yet, the source text of an entity is read from its file. -/
theorem answer_content {t : State} (ht : t.sources = []) {e : Entity} {c : Files.Content}
    (hc : t.store.disk.content (t.store.disk.path e.path) = .ok c) :
  answer (content e) t = .ok (excerpt (Text.lines c.readLossy.toList) e.first e.last)
  := by
  rw [answer, content, run_bind, sourceLines, run_get_bind, ht]
  simp only [List.lookup_nil, hc, run_modify_bind, run_pure]

/-! ### Entities in documents and back -/

section

variable {known : Program} {kinds : List Kind} {kind : Kind} {p : SourceFile × Range} {e : Entity}

theorem Describes.isPlaced (h : Describes known kinds kind p e) :
  e.IsPlaced
  := by
  intro first last hlines
  obtain ⟨b, -, heq⟩ | ⟨-, hnone⟩ := h.enclosing
  · rw [heq] at hlines
    cases hlines
    apply Int.natCast_nonneg
  · rw [hnone] at hlines
    contradiction

/-- A document keeps what is found of a range, if it keeps the path of the file. -/
theorem Describes.normal (h : Describes known kinds kind p e) (hpath : IsNormal p.1.path)
    (hr : p.2 ∈ Source.scan kind p.1.text) :
  Describes known kinds kind p e.normal
  := by
  have hname := Source.isNormal_name hr
  refine ⟨?_, ?_, h.first, h.last, h.role, h.enclosing⟩
  · rw [Entity.normal, h.path]
    apply normalText_eq_self hpath
  · rw [Entity.normal, h.name]
    apply normalText_eq_self hname

end

/-- Entities whose paths and names a document keeps are listed in the same order in it. -/
theorem isListed_normal {es : List Entity} (h : IsListed es)
    (hes : ∀ e ∈ es, IsNormal e.path ∧ IsNormal e.name) :
  IsListed (es.map Entity.normal)
  := by
  rw [IsListed, List.pairwise_map]
  apply List.Pairwise.imp_of_mem _ h
  intro a b ha hb hab
  obtain ⟨hapath, haname⟩ := hes a ha
  obtain ⟨hbpath, hbname⟩ := hes b hb
  rw [Entity.listedBefore_iff] at hab ⊢
  rw [Entity.normal, Entity.normal]
  simp only [normalText_eq_self hapath, normalText_eq_self haname, normalText_eq_self hbpath,
    normalText_eq_self hbname]
  apply hab

/-! ### Documents of entities -/

section

variable {scanned : Scanned} {kind : Kind}

/-- What a scan writes into the document of a kind are the entities of the kind that it found. -/
theorem ScanWrites.exists_entities {rs : List Record}
    (h : ScanWrites scanned (entitySchema kind) rs) :
  ∃ es, rs = es.map entityRecord ∧ IsListed es ∧
    (es.map (·.withId "")).Perm (scanned.ofKind kind)
  := by
  generalize hschema : entitySchema kind = schema at h
  cases h with
  | entities hlisted hfound =>
    obtain rfl := Store.entitySchema_injective hschema
    exact ⟨_, rfl, hlisted, hfound⟩
  | dependencies => exact absurd hschema.symm (Store.ne_entitySchema (by decide) kind)
  | implementations _ => exact absurd hschema.symm (Store.ne_entitySchema (by decide) kind)
  | accounts => exact absurd hschema.symm (Store.ne_entitySchema (by decide) kind)

/-- The entities that are written for a kind describe the ranges of the kind in some order. -/
theorem ScanWrites.exists_describes {files : List SourceFile} {known : Program} {kinds : List Kind}
    {rs : List Record} (h : ScanWrites (scanKinds files known kinds) (entitySchema kind) rs)
    (hfiles : (files.map (·.path)).Nodup) (hkind : kind ∈ kinds) :
  ∃ (ps : List (SourceFile × Range)) (es : List Entity), rs = es.map entityRecord ∧ IsListed es ∧
    ps.Perm (rangesIn files kind) ∧
    List.Forall₂ (fun p e => p ∈ rangesIn files kind ∧ Describes known kinds kind p e) ps es
  := by
  obtain ⟨es, rfl, hlisted, hes⟩ := h.exists_entities
  obtain ⟨ps, hps, hdescribes⟩ := exists_forall₂_describes hfiles hkind hes
  exact ⟨ps, es, rfl, hlisted, hps, hdescribes⟩

/-- What was written of entities is read from the document as a document keeps it. -/
theorem stored_of_document {t : Store.State} {es : List Entity} (hmemory : t.memory = .empty)
    (hdocument : t.document (entitySchema kind)
      = .ok (some (.file (.text (encode (entitySchema kind) (es.map entityRecord))))))
    (hes : ∀ e ∈ es, e.kind = kind ∧ e.IsPlaced) :
  t.stored kind = .ok (es.map Entity.normal)
  := by
  have hrecords := Store.State.records_of_file hdocument
  rw [Store.recordsOfContent_encode (Store.wellFormed_entitySchema kind)
    (Store.fits_of_placed fun e he => (hes e he).2)] at hrecords
  rw [Store.State.stored_of_none (by rw [hmemory]; rfl)]
  apply Store.State.documented_of_records hrecords fun e he => (hes e he).1

end

section

variable {files : List SourceFile} {known : Program} {kinds : List Kind} {kind : Kind}
  {ps : List (SourceFile × Range)} {es : List Entity}

/-- What is found of ranges is listed in order in the document, if it keeps the paths. -/
theorem isListed_normal_of_describes (hpaths : ∀ file ∈ files, IsNormal file.path)
    (hlisted : IsListed es)
    (h : List.Forall₂ (fun p e => p ∈ rangesIn files kind ∧ Describes known kinds kind p e) ps es) :
  IsListed (es.map Entity.normal)
  := by
  apply isListed_normal hlisted
  intro e he
  obtain ⟨⟨file, r⟩, -, hp, hpe⟩ := exists_of_forall₂_right h he
  obtain ⟨hfile, hr⟩ := mem_rangesIn.1 hp
  rw [hpe.path, hpe.name]
  exact ⟨hpaths file hfile, Source.isNormal_name hr⟩

/-- A document keeps what is found of ranges, if it keeps the paths. -/
theorem forall₂_describes_normal (hpaths : ∀ file ∈ files, IsNormal file.path)
    (h : List.Forall₂ (fun p e => p ∈ rangesIn files kind ∧ Describes known kinds kind p e) ps es) :
  List.Forall₂ (fun p e => p ∈ rangesIn files kind ∧ Describes known kinds kind p e) ps
    (es.map Entity.normal)
  := by
  rw [List.forall₂_map_right_iff]
  apply h.imp
  rintro ⟨file, r⟩ e ⟨hp, he⟩
  obtain ⟨hfile, hr⟩ := mem_rangesIn.1 hp
  exact ⟨hp, he.normal (hpaths file hfile) hr⟩

/-- The source text of what is found of a range is that of the range, as long as the file has its
text. -/
theorem Describes.answer_content {t : State} (ht : t.sources = []) {p : SourceFile × Range}
    {e : Entity} (h : Describes known kinds kind p e) (hr : p.2 ∈ Source.scan kind p.1.text)
    {c : Files.Content} (hc : t.store.disk.content (t.store.disk.path p.1.path) = .ok c)
    (htext : c.readLossy = p.1.text) :
  answer (content e) t = .ok p.2.content.toList
  := by
  rw [← h.path] at hc
  rw [Session.answer_content ht hc, htext, h.first, h.last, excerpt_of_mem_scan hr]

end

/-! ### Sessions opened after a scan -/

/-- A session that is opened on a disk on which documents were rewritten has these documents. -/
theorem document_start {place : Files.Place} {written : Document.Schema → List Record → Prop}
    {done : List Document.Schema} {s₀ s : State} (h : Rewritten place written done s₀.store s.store)
    (hfolder : s₀.store.folder = s₀.settings.metadataPath s₀.store.disk) (mint : Store.Mint)
    (schema : Document.Schema) :
  (State.start s.store.disk mint s₀.settings).store.document schema = s.store.document schema
  := by
  apply Store.State.document_congr
  · rfl
  · rw [h.folder, hfolder]
    exact h.path_eq _

/-- After a scan, a new session lists for each configured kind one entity for each range of a
walked file, in order, and the source text of the entity is that of the range, if it is not the
store itself that has written to the file. -/
theorem listed_after_scan {s₀ s : State} {summary : Summary}
    (hproper : s₀.store.disk.tree.isProper = true) (hready : s₀.store.Ready)
    (hfolder : s₀.store.folder = s₀.settings.metadataPath s₀.store.disk)
    (hpaths : ∀ found, s₀.walk = .ok found → ∀ file ∈ found.files, IsNormal file.path)
    (hscan : run scan s₀ = (.ok summary, s)) :
  ∃ found known, s₀.walk = .ok found ∧ answer (program found.files) (s₀.anew []) = .ok known ∧
    ∀ kind ∈ s₀.settings.scan.kinds, ∃ (ps : List (SourceFile × Range)) (es : List Entity),
      ps.Perm (rangesIn found.files kind) ∧ IsListed es ∧ ∀ mint,
        answer (onStore (Store.all kind)) (State.start s.store.disk mint s₀.settings) = .ok es ∧
        List.Forall₂ (fun p e => Describes known s₀.settings.scan.kinds kind p e ∧
          (¬ s₀.store.Owns (s₀.store.disk.path p.1.path) →
            answer (content e) (State.start s.store.disk mint s₀.settings)
              = .ok p.2.content.toList)) ps es
  := by
  obtain ⟨_, hfails, -⟩ | ⟨found, known, sources, hwalk, hprogram, hrun⟩ := scan_cases hscan
  · contradiction
  refine ⟨found, known, hwalk, by rw [answer, hprogram], ?_⟩
  intro kind hkind
  obtain ⟨place, hready⟩ := hready
  have hrewritten := (rewrites_scanFound found known s₀.settings.scan.kinds).succeeds
    (s := s₀.anew sources) hready hrun
  obtain ⟨rs, hrs, hdocument⟩ := hrewritten.written (entitySchema kind) (by
    rw [writeOrder, List.append_assoc]
    apply List.mem_append_left _ (List.mem_map_of_mem hkind))
  obtain ⟨ps, es, rfl, hlisted, hps, hdescribes⟩ :=
    hrs.exists_describes (Files.nodup_walk hproper hwalk) hkind
  refine ⟨ps, es.map Entity.normal, hps,
    isListed_normal_of_describes (hpaths found hwalk) hlisted hdescribes, fun mint => ⟨?_, ?_⟩⟩
  · rw [answer_onStore_all]
    apply stored_of_document rfl ((document_start hrewritten hfolder mint _).trans hdocument)
    intro e he
    obtain ⟨p, -, -, hpe⟩ := exists_of_forall₂_right hdescribes he
    exact ⟨hpe.kind, hpe.isPlaced⟩
  · apply (forall₂_describes_normal (hpaths found hwalk) hdescribes).imp
    rintro ⟨file, r⟩ e ⟨hp, he⟩
    refine ⟨he, fun howns => ?_⟩
    obtain ⟨hfile, hr⟩ := mem_rangesIn.1 hp
    obtain ⟨c, hc, htext⟩ := Files.readable_of_walk hwalk hfile
    have hc' := hrewritten.content_eq hready howns hc
    apply he.answer_content rfl hr _ htext
    exact (congrArg s.store.disk.content (hrewritten.path_eq _)).trans hc'

/-! ### A function on a line -/

/-- A file with a function on its only line. -/
def lineFile : SourceFile :=
  ⟨"programs/lib.rs", "fn a() \x7b\x7d\n"⟩

/-- A session that scans functions, with a folder that has some entries, a path to the documents and
what stands at the path of the source. -/
def lineSession (entries : List (String × Files.Node)) (documents : String) (source : Files.Node) :
    State :=
  State.start
    ⟨"/", .folder [("m", .folder entries), ("programs", .folder [("lib.rs", source)])]⟩
    (.after 0)
    { Settings.standard with
      metadata := ⟨documents⟩
      scan := { Settings.standard.scan with kinds := [.function] } }

theorem isNormal_path_lineFile {file : SourceFile} (h : file.path = lineFile.path) :
  IsNormal file.path
  := by
  have hsolid : lineFile.path.toList.all (fun c => !Text.isBlank c) = true := by decide +kernel
  rw [h]
  apply Document.isNormal_of_solid
  intro c hc
  simpa using List.all_eq_true.1 hsolid c hc

/-- The store does not write to the file. -/
theorem not_owns_lineFile :
  let s := (lineSession [] "m" (.file (.text lineFile.text))).store
  ¬ s.Owns (s.disk.path lineFile.path)
  := by
  intro s
  have hplace : (s.disk.spot (s.disk.path lineFile.path)).toOption.map (·.place)
      = some ["programs", "lib.rs"] := by
    decide +kernel
  rintro ⟨place, q, entry, -, hspot, name, hname, rfl⟩
  rw [hspot] at hplace
  have hlast : name = "lib.rs" := by
    have hlists := congrArg List.getLast? (Option.some.inj hplace)
    simpa using hlists
  subst hlast
  exact absurd hname (by decide)

theorem listed_after_scan_lineFile :
  let s₀ := lineSession [] "m" (.file (.text lineFile.text))
  let s := after scan s₀
  ∃ summary found known ps es,
    s₀.store.disk.tree.isProper = true ∧ s₀.store.Ready
    ∧ s₀.store.folder = s₀.settings.metadataPath s₀.store.disk
    ∧ s₀.walk = .ok found ∧ (∀ file ∈ found.files, IsNormal file.path)
    ∧ run scan s₀ = (.ok summary, s)
    ∧ answer (program found.files) (s₀.anew []) = .ok known
    ∧ ps.Perm (rangesIn found.files .function) ∧ ps.length = 1
    ∧ List.Forall₂ (fun p e => Describes known s₀.settings.scan.kinds .function p e
        ∧ answer (content e) (State.start s.store.disk (.after 0) s₀.settings)
          = .ok p.2.content.toList) ps es
    ∧ answer (onStore (Store.all .function)) (State.start s.store.disk (.after 0) s₀.settings)
      = .ok es
  := by
  intro s₀ s
  have hfacts : s₀.store.disk.tree.isProper = true ∧ s₀.store.isHosted = true
      ∧ s₀.walk.toOption.map (·.files) = some [lineFile]
      ∧ (answer scan s₀).toOption.isSome = true
      ∧ (rangesIn [lineFile] .function).length = 1 := by
    decide +kernel
  obtain ⟨hproper, hhosted, hwalk, hscan, hlength⟩ := hfacts
  obtain ⟨walked, hwalk, hfiles⟩ := exists_of_map_toOption hwalk
  obtain ⟨summary, hrun⟩ := exists_run_of_isSome hscan
  have hready := Store.State.ready_of_isHosted hhosted
  have hpaths : ∀ found, s₀.walk = .ok found → ∀ file ∈ found.files, IsNormal file.path := by
    intro found hfound file hfile
    rw [hwalk] at hfound
    cases hfound
    rw [hfiles] at hfile
    rw [List.mem_singleton.1 hfile]
    apply isNormal_path_lineFile rfl
  obtain ⟨found, known, hfound, hprogram, hlisted⟩ :=
    listed_after_scan hproper hready rfl hpaths hrun
  rw [hwalk] at hfound
  cases hfound
  obtain ⟨ps, es, hps, -, hopened⟩ := hlisted .function List.mem_cons_self
  obtain ⟨hall, hcontents⟩ := hopened (.after 0)
  refine ⟨summary, walked, known, ps, es, hproper, hready, rfl, hwalk, hpaths walked hwalk, hrun,
    hprogram, hps, ?_, ?_, hall⟩
  · rw [hps.length_eq, hfiles, hlength]
  · have hfile : ∀ p ∈ ps, p.1 = lineFile := by
      rintro ⟨file, r⟩ hp
      rw [hps.mem_iff, hfiles, mem_rangesIn] at hp
      exact List.mem_singleton.1 hp.1
    apply ((List.forall₂_and_left _ _).2 ⟨hfile, hcontents⟩).imp
    rintro p e ⟨hp, hdescribes, hcontent⟩
    rw [hp] at hcontent
    exact ⟨hdescribes, hcontent not_owns_lineFile⟩

/-! ### What the store writes over -/

/-- A session whose only source is the draft of a document, by way of a link. -/
def draftSession : State :=
  lineSession [("functions.md.tmp", .file (.text lineFile.text))] "m"
    (.link "../m/functions.md.tmp")

/-- A session whose path to the documents leads through a link in the place of a document. -/
def linkSession : State :=
  lineSession [("context_accounts.md", .link ".")] "m/context_accounts.md"
    (.file (.text lineFile.text))

/-- The functions that a new session lists on the disk of a session, with the source text of each
of them that can be read. -/
def functionsAgain (s : State) : Except Failure (List (Entity × Option (List Char))) :=
  let t := State.start s.store.disk (.after 0) s.settings
  (answer (onStore (Store.all .function)) t).map fun es =>
    es.map fun e => (e, (answer (content e) t).toOption)

/-- The session scans with success, and finds one function in files whose paths a document
keeps. -/
structure FindsOne (s : State) : Prop where
  proper : s.store.disk.tree.isProper = true
  folder : s.store.folder = s.settings.metadataPath s.store.disk
  scanned : ∃ summary, run scan s = (.ok summary, after scan s)
  found : ∃ found p, s.walk = .ok found ∧ (∀ file ∈ found.files, IsNormal file.path) ∧
    rangesIn found.files .function = [p]

theorem findsOne_of_walk {s : State}
    (h : s.store.disk.tree.isProper = true ∧ (answer scan s).toOption.isSome = true
      ∧ s.walk.toOption.map (·.files) = some [lineFile]
      ∧ (rangesIn [lineFile] .function).length = 1)
    (hfolder : s.store.folder = s.settings.metadataPath s.store.disk) :
  FindsOne s
  := by
  obtain ⟨hproper, hscan, hwalk, hlength⟩ := h
  refine ⟨hproper, hfolder, exists_run_of_isSome hscan, ?_⟩
  · obtain ⟨found, hwalk, hfiles⟩ := exists_of_map_toOption hwalk
    obtain ⟨p, hp⟩ := List.length_eq_one_iff.1 hlength
    refine ⟨found, p, hwalk, ?_, by rw [hfiles, hp]⟩
    intro file hfile
    rw [hfiles] at hfile
    rw [List.mem_singleton.1 hfile]
    apply isNormal_path_lineFile rfl

/-- The first scan writes over its only source. The second one leaves nothing to be found, because
it replaces the link on the path to the documents by a document. -/
theorem lost_after_scan :
  (FindsOne draftSession ∧ draftSession.store.Ready
    ∧ ∃ e, functionsAgain (after scan draftSession) = .ok [(e, none)])
  ∧ FindsOne linkSession ∧ functionsAgain (after scan linkSession) = .ok []
  := by
  have hfacts : (∀ s ∈ [draftSession, linkSession], s.store.disk.tree.isProper = true
        ∧ (answer scan s).toOption.isSome = true
        ∧ s.walk.toOption.map (·.files) = some [lineFile]
        ∧ (rangesIn [lineFile] .function).length = 1)
      ∧ draftSession.store.isHosted = true
      ∧ (functionsAgain (after scan draftSession)).toOption.map (·.map Prod.snd) = some [none]
      ∧ (functionsAgain (after scan linkSession)).toOption.map (·.length) = some 0 := by
    decide +kernel
  obtain ⟨hfinds, hhosted, hdraft, hlink⟩ := hfacts
  obtain ⟨es, hes, hnone⟩ := exists_of_map_toOption hdraft
  obtain ⟨⟨e, content⟩, rfl, hcontent⟩ := List.map_eq_singleton_iff.1 hnone
  obtain rfl : content = none := hcontent
  obtain ⟨es', hes', hlength⟩ := exists_of_map_toOption hlink
  obtain rfl := List.length_eq_zero_iff.1 hlength
  refine ⟨⟨findsOne_of_walk (hfinds _ List.mem_cons_self) rfl,
    Store.State.ready_of_isHosted hhosted, e, hes⟩, findsOne_of_walk (hfinds _ ?_) rfl, hes'⟩
  apply List.mem_cons_of_mem _ List.mem_cons_self

end AnchorIndex.Session

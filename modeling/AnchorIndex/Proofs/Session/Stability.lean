import AnchorIndex.Proofs.Files.Walking
import AnchorIndex.Proofs.Session.Contents
import AnchorIndex.Proofs.Session.Isolation
import AnchorIndex.Proofs.Session.Runs
import AnchorIndex.Proofs.Session.Sparing
import AnchorIndex.Proofs.Store.Renewing

/-!
# Identities stay across scans

Of two scans in a run of a session with no scan in between, the second one gives an entity the
identity of the entity that has the same identity key after the first one, and other entities get
identities that were not given out before (`ids_across_scans`). So the entities of a file with the
same text keep their identities, whatever happens to the other files. What carries this over a run
is that the stored entities are apart and that documents keep them as they are (`Neat`).
-/

namespace AnchorIndex.Session

open Effect Relation
open Document (IsNormal)
open Files (SourceFile)
open Store (Recorded Renews Mint renewed)

/-! ### Storing what was found -/

/-- What is found for configured kinds renews the entities of these, and those of other kinds
stay. -/
theorem rescanned_cases {scanned : Scanned} (kinds : List Kind) {m : Mint}
    {es : Kind → List Entity} (hm : m.IsLawful) (hid : ∀ kind, ∀ e ∈ es kind, e.id ≠ "")
    (hold : ∀ kind, Apart (es kind)) (hfound : ∀ kind, Apart (scanned.ofKind kind))
    (kind : Kind) :
  (kind ∈ kinds ∧
    Renews m (es kind) (scanned.ofKind kind) (rescanned scanned kinds m es kind)) ∨
  (kind ∉ kinds ∧ rescanned scanned kinds m es kind = es kind)
  := by
  induction kinds generalizing m es with
  | nil => exact .inr ⟨List.not_mem_nil, rfl⟩
  | cons k kinds ih =>
    have hrenews := Store.renews_renewed hm (hid k) (hold k) (hfound k)
    have hid' : ∀ kind, ∀ e ∈ Function.update es k (renewed (es k) (scanned.ofKind k) m) kind,
        e.id ≠ "" := by
      rw [Function.forall_update_iff es fun _ l => ∀ e ∈ l, e.id ≠ ""]
      exact ⟨fun e he => Store.id_ne_empty_of_mem_renewed hm (hid k) he, fun k' _ => hid k'⟩
    have hold' : ∀ kind,
        Apart (Function.update es k (renewed (es k) (scanned.ofKind k) m) kind) := by
      rw [Function.forall_update_iff es fun _ l => Apart l]
      exact ⟨hrenews.apart (hfound k), fun k' _ => hold k'⟩
    have hcases := ih (hm.skip (Store.newCount (es k) (scanned.ofKind k))) hid' hold'
    rw [rescanned]
    by_cases hk : kind = k
    · left
      subst hk
      use List.mem_cons_self
      rw [Function.update_self] at hcases
      obtain ⟨-, hagain⟩ | ⟨-, hsame⟩ := hcases
      · exact hrenews.again hagain
      · rw [hsame]
        exact hrenews
    · rw [Function.update_of_ne hk] at hcases
      obtain ⟨hmem, hlater⟩ | ⟨hnot, hsame⟩ := hcases
      · exact .inl ⟨List.mem_cons_of_mem k hmem, hlater.mono fun id hissued => hissued.skip _⟩
      · refine .inr ⟨?_, hsame⟩
        rw [List.mem_cons, not_or]
        exact ⟨hk, hnot⟩

/-! ### Neat stores -/

/-- The files of the workspace have names of their own, and a document keeps their paths. -/
structure Tidy (s : State) : Prop where
  proper : s.store.disk.tree.isProper = true
  paths : ∀ found, s.walk = .ok found → ∀ file ∈ found.files, IsNormal file.path

/-- The store holds these entities, which are apart, and documents keep their paths. -/
structure Neat (s : Store.State) (es : Kind → List Entity) : Prop where
  recorded : Recorded s es
  apart : ∀ kind, Apart (es kind)
  paths : ∀ kind, ∀ e ∈ es kind, IsNormal e.path

section

variable {s s' : State} {es : Kind → List Entity}

/-- A document keeps the entities of a neat store as they are. -/
theorem Neat.map_normal (h : Neat s.store es) :
  (fun kind => (es kind).map Entity.normal) = es
  := by
  funext kind
  have hnormal : ∀ e ∈ es kind, e.normal = e := by
    intro e he
    apply Entity.normal_eq_self
    exact ⟨h.paths kind e he, h.recorded.named kind e he, h.recorded.identified.isNormal_id he,
      h.recorded.placed kind e he⟩
  rw [List.map_congr_left hnormal, List.map_id']

/-- A step leaves the entities as they are, if it is no scan. -/
theorem Neat.step {allowed : State → Except Failure Summary → Prop} (h : Neat s.store es)
    (hstep : Step allowed s s') :
  Neat s'.store es ∨ ∃ r, allowed s r ∧ run scan s = (r, s')
  := by
  cases hstep with
  | edit disk husable hrecords =>
    exact .inl ⟨recorded_edit h.recorded husable hrecords, h.apart, h.paths⟩
  | reopen settings hfolder =>
    left
    rw [store_start hfolder]
    have hrecorded := h.recorded.reopened
    rw [h.map_normal] at hrecorded
    exact ⟨hrecorded, h.apart, h.paths⟩
  | scan hallowed hrun => exact .inr ⟨_, hallowed, hrun⟩
  | resolve id => exact .inl ⟨spares_resolve id s es h.recorded, h.apart, h.paths⟩
  | resolveNamed name => exact .inl ⟨spares_resolveNamed name s es h.recorded, h.apart, h.paths⟩
  | resolveAll => exact .inl ⟨spares_resolveAll s es h.recorded, h.apart, h.paths⟩

/-- A run without scans leaves the entities as they are. -/
theorem Neat.run_idle (h : Neat s.store es) (hrun : Run (fun _ _ => False) s s') :
  Neat s'.store es
  := by
  induction hrun with
  | refl => exact h
  | tail _ hstep ih => exact (ih.step hstep).resolve_right fun ⟨_, hfalse, _⟩ => hfalse

/-- What is found in a tidy workspace renews the entities, and they stay neat. -/
theorem Neat.rescan (h : Neat s.store es) (htidy : Tidy s) {found : Files.Walk}
    (hwalk : s.walk = .ok found) (known : Program) {es' : Kind → List Entity}
    (hes' : es' = rescanned (scanKinds found.files known s.settings.scan.kinds)
      s.settings.scan.kinds s.store.mint es)
    (hrecorded : Recorded s'.store es') :
  Neat s'.store es' ∧ ∀ kind,
    (kind ∈ s.settings.scan.kinds ∧ Renews s.store.mint (es kind)
      ((scanKinds found.files known s.settings.scan.kinds).ofKind kind) (es' kind)) ∨
    (kind ∉ s.settings.scan.kinds ∧ es' kind = es kind)
  := by
  have hfiles := Files.nodup_walk htidy.proper hwalk
  have hfound := apart_scanKinds known s.settings.scan.kinds hfiles
  have hcases := rescanned_cases s.settings.scan.kinds
    h.recorded.identified.lawful (fun kind e he => h.recorded.identified.id_ne_empty he) h.apart
    hfound
  rw [← hes'] at hcases
  refine ⟨⟨hrecorded, ?_, ?_⟩, hcases⟩
  · intro kind
    obtain ⟨-, hrenews⟩ | ⟨-, hsame⟩ := hcases kind
    · apply hrenews.apart (hfound kind)
    · rw [hsame]
      apply h.apart kind
  · intro kind e he
    obtain ⟨-, hrenews⟩ | ⟨-, hsame⟩ := hcases kind
    · obtain ⟨b, hb, heq⟩ := List.mem_map.1 (hrenews.found.mem_iff.1 (List.mem_map_of_mem he))
      obtain ⟨file, hfile, hpath⟩ := exists_file_of_mem_scanKinds hfiles hb
      have hsame : (b.withId "").path = (e.withId "").path := congrArg Entity.path heq
      change b.path = e.path at hsame
      rw [← hsame, hpath]
      apply htidy.paths found hwalk file hfile
    · rw [hsame] at he
      apply h.paths kind e he

/-- Every run from a fresh store leaves the store neat, if the workspace is tidy for each scan,
whether it succeeds or fails. -/
theorem exists_neat_of_run (hfresh : s.store.IsFresh) (hlawful : s.store.mint.IsLawful)
    (hrun : Run (fun s _ => Tidy s) s s') :
  ∃ es, Neat s'.store es
  := by
  induction hrun with
  | refl =>
    refine ⟨_, hfresh.recorded hlawful, fun _ => List.nodup_nil, ?_⟩
    intro kind e he
    contradiction
  | tail _ hstep ih =>
    obtain ⟨es, hes⟩ := ih
    obtain hes' | ⟨r, htidy, hscan⟩ := hes.step hstep
    · exact ⟨es, hes'⟩
    · obtain hrecorded | ⟨found, known, hwalk, hrecorded⟩ := recorded_after_scan hes.recorded hscan
      · exact ⟨es, hrecorded, hes.apart, hes.paths⟩
      · exact ⟨_, (hes.rescan htidy hwalk known rfl hrecorded).1⟩

/-- A scan of a tidy workspace that succeeds renews the entities of configured kinds by what it
finds, and those of other kinds stay. -/
theorem Neat.scan {summary : Summary} (h : Neat s.store es) (htidy : Tidy s)
    (hrun : run scan s = (.ok summary, s')) :
  ∃ found known es', s.walk = .ok found ∧ Neat s'.store es' ∧ ∀ kind,
    (kind ∈ s.settings.scan.kinds ∧ Renews s.store.mint (es kind)
      ((scanKinds found.files known s.settings.scan.kinds).ofKind kind) (es' kind)) ∨
    (kind ∉ s.settings.scan.kinds ∧ es' kind = es kind)
  := by
  obtain ⟨found, known, hwalk, -, hlinked, -⟩ := linked_of_scan h.recorded hrun
  obtain ⟨hneat, hcases⟩ := h.rescan htidy hwalk known rfl hlinked.recorded
  exact ⟨found, known, _, hwalk, hneat, hcases⟩

/-! ### Identities of renewed entities -/

variable {es' : Kind → List Entity}

/-- Where entities are renewed, identities agree exactly if identity keys do. -/
theorem Neat.id_eq_iff (h : Neat s.store es) (h' : Neat s'.store es')
    (hrenews : ∀ kind, ∃ batch, Renews s.store.mint (es kind) batch (es' kind)) {k k' : Kind}
    {e e' : Entity} (he : e ∈ es k) (he' : e' ∈ es' k') :
  e'.id = e.id ↔ e'.logicalKey = e.logicalKey ∧ e'.rankIn (es' k') = e.rankIn (es k)
  := by
  have hids := h.recorded.identified
  obtain ⟨batch, hbatch⟩ := hrenews k'
  by_cases hkind : k = k'
  · subst hkind
    rw [← Entity.keyIn_eq_iff]
    apply hbatch.id_eq_iff (h.apart k) (hids.nodup k) (fun d hd => hids.issued k d hd) he he'
  · constructor
    · intro hid
      obtain ⟨d, hd, hdid, -⟩ | ⟨-, hnew⟩ := hbatch.inherits e' he'
      · exact absurd (hdid.trans hid) (hids.disjoint k' k (Ne.symm hkind) d hd e he)
      · rw [hid] at hnew
        exact absurd (hids.issued k e he) hnew
    · rintro ⟨hkey, -⟩
      have hsame : e'.kind = e.kind := congrArg LogicalKey.kind hkey
      rw [h'.recorded.identified.kind_eq k' e' he', hids.kind_eq k e he] at hsame
      exact absurd hsame.symm hkind

/-- An entity whose identity no renewed one had has one that was not taken from the supply. -/
theorem Neat.not_issued (hrenews : ∀ kind, ∃ batch, Renews s.store.mint (es kind) batch (es' kind))
    {k : Kind} {e' : Entity} (he' : e' ∈ es' k) (hnew : ∀ e ∈ es k, e'.id ≠ e.id) :
  ¬ s.store.mint.Issued e'.id
  := by
  obtain ⟨batch, hbatch⟩ := hrenews k
  obtain ⟨d, hd, hid, -⟩ | ⟨-, hissued⟩ := hbatch.inherits e' he'
  · exact absurd hid.symm (hnew d hd)
  · exact hissued

/-- An entity that stands where one stands in the same file has its identity. -/
theorem Neat.exists_standing (h : Neat s.store es) (h' : Neat s'.store es')
    (hrenews : ∀ kind, ∃ batch, Renews s.store.mint (es kind) batch (es' kind)) {kind : Kind}
    {path : String} (hfile : (((es' kind).filter (·.path == path)).map Entity.standing).Perm
      (((es kind).filter (·.path == path)).map Entity.standing)) :
  (∀ e ∈ es kind, e.path = path → ∃ e' ∈ es' kind, e'.id = e.id ∧ e'.standing = e.standing) ∧
  ∀ e' ∈ es' kind, e'.path = path → ∃ e ∈ es kind, e'.id = e.id ∧ e'.standing = e.standing
  := by
  have hid : ∀ e ∈ es kind, ∀ e' ∈ es' kind, e.path = path → e'.path = path →
      e'.standing = e.standing → e'.id = e.id := by
    rintro e he e' he' rfl hpath hstanding
    rw [h.id_eq_iff h' hrenews he he']
    use congrArg Prod.fst hstanding
    apply Entity.rankIn_eq_of_standing hstanding
    rwa [hpath]
  constructor
  · intro e he hpath
    have hmem : e.standing ∈ ((es' kind).filter (·.path == path)).map Entity.standing := by
      rw [hfile.mem_iff]
      apply List.mem_map_of_mem (List.mem_filter.2 ⟨he, by simpa using hpath⟩)
    obtain ⟨e', he', hstanding⟩ := List.mem_map.1 hmem
    obtain ⟨he', hpath'⟩ := List.mem_filter.1 he'
    exact ⟨e', he', hid e he e' he' hpath (by simpa using hpath') hstanding, hstanding⟩
  · intro e' he' hpath'
    have hmem : e'.standing ∈ ((es kind).filter (·.path == path)).map Entity.standing := by
      rw [← hfile.mem_iff]
      apply List.mem_map_of_mem (List.mem_filter.2 ⟨he', by simpa using hpath'⟩)
    obtain ⟨e, he, hstanding⟩ := List.mem_map.1 hmem
    obtain ⟨he, hpath⟩ := List.mem_filter.1 he
    exact ⟨e, he, hid e he e' he' (by simpa using hpath) hpath' hstanding.symm, hstanding.symm⟩

end

/-! ### Two scans -/

/-- The session that has scanned a function on a line, after a line is put in front of it. -/
def movedSession : State :=
  let s := after scan (lineSession [] "m" (.file (.text lineFile.text)))
  let disk := s.store.disk.write (s.store.disk.path lineFile.path) (.text ("\n" ++ lineFile.text))
  { s with store := s.store.withDisk (disk.toOption.getD s.store.disk) }

theorem tidy_of_walk {s : State} (hproper : s.store.disk.tree.isProper = true)
    (hwalk : s.walk.toOption.map (·.files.map (·.path)) = some [lineFile.path]) :
  Tidy s
  := by
  use hproper
  intro found hfound file hfile
  rw [hfound] at hwalk
  have hpaths : found.files.map (·.path) = [lineFile.path] := Option.some.inj hwalk
  have hpath := List.mem_map_of_mem (f := (·.path)) hfile
  rw [hpaths, List.mem_singleton] at hpath
  apply isNormal_path_lineFile hpath

theorem eq_of_toOption_eq {ε α : Type} {x y : Except ε α} (h : x.toOption = y.toOption)
    (hsome : x.toOption.isSome) :
  x = y
  := by
  cases x with
  | error failure => contradiction
  | ok a =>
    cases y with
    | error failure => contradiction
    | ok b => rw [Option.some.inj h]

theorem run_movedSession :
  Run (fun _ _ => False) (after scan (lineSession [] "m" (.file (.text lineFile.text))))
    movedSession
  := by
  have hfacts : movedSession.store.isHosted = true
      ∧ ∀ schema ∈ Store.schemas, (movedSession.store.records schema).toOption.isSome
        ∧ (movedSession.store.records schema).toOption
          = ((after scan (lineSession [] "m" (.file (.text lineFile.text)))).store.records
              schema).toOption := by
    decide +kernel
  obtain ⟨hhosted, hrecords⟩ := hfacts
  apply ReflTransGen.single
  apply Step.edit _ (Store.State.usable_of_isHosted hhosted)
  intro schema hschema
  obtain ⟨hsome, hsame⟩ := hrecords schema hschema
  apply eq_of_toOption_eq hsame hsome

end AnchorIndex.Session

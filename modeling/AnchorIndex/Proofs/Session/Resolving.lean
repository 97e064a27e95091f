import AnchorIndex.Proofs.Session.Scanning
import AnchorIndex.Proofs.Session.Searching
import Mathlib.Data.List.Infix

/-!
# Resolving calls after a scan

After a scan functions are asked for, one after another (`State.resolving`). What is remembered
then (`Memoized`) are the records of the stored functions that were asked for and of all functions
that they reach, each of which was computed once. Whether a function was asked for before, or is
reached from one that was, makes no difference for what is answered.

Records are remembered before they are written. So all this holds whether or not the disk keeps
them, but a call that fails because the disk refuses them leaves them remembered.
-/

namespace AnchorIndex.Session

open Effect Relation
open Files (Disk SourceFile)

/-- A function is reached from a stored one by calls. -/
def Basis.Reaches (b : Basis) (id id' : String) : Prop :=
  (b.index.lookup id).isSome ∧ ReflTransGen b.Calls id id'

/-- The records of functions under their identities. -/
def Basis.entries (b : Basis) (es : List Entity) : Memo :=
  es.map fun e => (e.id, b.record e)

/-- The records are remembered of those functions that are reached from functions that were asked
for. There is one for each body that was searched. -/
structure Memoized (b : Basis) (t : State) (requested : List String) (memo : Memo) : Prop where
  holds : b.Holds t
  dependencies : t.store.memory.dependencies = some memo
  nodup : (memo.map Prod.fst).Nodup
  stored : ∀ p ∈ memo, ∃ e, b.index.lookup p.1 = some e ∧ p.2 = b.record e
  reached : ∀ id, id ∈ memo.map Prod.fst ↔ ∃ root ∈ requested, b.Reaches root id
  parsed : t.parsed = memo.length

variable {b : Basis} {memo : Memo} {t t' : State} {requested : List String}

@[simp]
theorem Basis.map_fst_entries (es : List Entity) :
  (b.entries es).map Prod.fst = es.map (·.id)
  := by
  simp [entries]

/-! ### What is reached -/

/-- A set of identities that is closed under calls has all that is reached from one in it. -/
theorem mem_of_reaches {ids : List String} (hclosed : ∀ id ∈ ids, ∀ id', b.Calls id id' → id' ∈ ids)
    {id id' : String} (hid : id ∈ ids) (h : ReflTransGen b.Calls id id') :
  id' ∈ ids
  := by
  induction h with
  | refl => exact hid
  | tail _ hcalls ih => exact hclosed _ ih _ hcalls

theorem Search.lookup_of_mem {visited : List String} {waiting new : List Entity}
    (h : Search b memo visited waiting new) {e : Entity} (he : b.index.lookup e.id = some e)
    {d : Entity} (hd : d ∈ e :: new) :
  b.index.lookup d.id = some d
  := by
  obtain rfl | hd := List.mem_cons.1 hd
  · exact he
  · apply h.stored d hd

/-- A search from one function finds all that it reaches, but for what is reached from a record. -/
theorem Search.reached_iff {e : Entity} {new : List Entity} (h : Search b memo [e.id] [e] new)
    (he : b.index.lookup e.id = some e)
    (hclosed : ∀ id ∈ memo.map Prod.fst, ∀ id', b.Calls id id' → id' ∈ memo.map Prod.fst)
    (id : String) :
  id ∈ memo.map Prod.fst ++ (e :: new).map (·.id)
    ↔ id ∈ memo.map Prod.fst ∨ ReflTransGen b.Calls e.id id
  := by
  constructor
  · intro hid
    obtain hid | hid := List.mem_append.1 hid
    · exact .inl hid
    · right
      obtain ⟨d, hd, rfl⟩ := List.mem_map.1 hid
      obtain rfl | hd := List.mem_cons.1 hd
      · exact .refl
      · obtain ⟨w, hw, hreach⟩ := h.reached d hd
        rwa [← List.mem_singleton.1 hw]
  · rintro (hid | hreach)
    · apply List.mem_append_left _ hid
    · -- the records and what was found are closed under calls together, not each of them alone
      apply mem_of_reaches _ _ hreach
      · intro id hid id' hcalls
        obtain hid | hid := List.mem_append.1 hid
        · apply List.mem_append_left _ (hclosed id hid id' hcalls)
        · obtain ⟨d, hd, rfl⟩ := List.mem_map.1 hid
          obtain ⟨d', hd', hinternal⟩ := hcalls
          rw [h.lookup_of_mem he hd] at hd'
          cases hd'
          obtain hfound | hknown := h.closed d hd id' hinternal
          · apply List.mem_append_right _ hfound
          · apply List.mem_append_left _ (isSome_lookup_iff.1 hknown)
      · apply List.mem_append_right _ (List.mem_cons_self)

namespace Memoized

theorem closed (h : Memoized b t requested memo) :
  ∀ id ∈ memo.map Prod.fst, ∀ id', b.Calls id id' → id' ∈ memo.map Prod.fst
  := by
  intro id hid id' hcalls
  obtain ⟨root, hroot, hstored, hreach⟩ := (h.reached id).1 hid
  exact (h.reached id').2 ⟨root, hroot, hstored, hreach.tail hcalls⟩

/-- What is remembered fits one more function that was asked for, if it has all that is reached
from it, and nothing else that is new. -/
theorem extend (h : Memoized b t requested memo) {memo' : Memo} {id : String}
    (hholds : b.Holds t') (hdependencies : t'.store.memory.dependencies = some memo')
    (hnodup : (memo'.map Prod.fst).Nodup)
    (hstored : ∀ p ∈ memo', ∃ e, b.index.lookup p.1 = some e ∧ p.2 = b.record e)
    (hreached : ∀ id', id' ∈ memo'.map Prod.fst ↔ id' ∈ memo.map Prod.fst ∨ b.Reaches id id')
    (hparsed : t'.parsed = memo'.length) :
  Memoized b t' (requested ++ [id]) memo'
  := by
  refine ⟨hholds, hdependencies, hnodup, hstored, ?_, hparsed⟩
  intro id'
  rw [hreached, h.reached]
  simp only [List.mem_append, List.mem_singleton, or_and_right, exists_or, exists_eq_left]

/-- A function whose record is remembered is asked for. -/
theorem again (h : Memoized b t requested memo) {id : String} (hid : id ∈ memo.map Prod.fst) :
  Memoized b t (requested ++ [id]) memo
  := by
  apply h.extend h.holds h.dependencies h.nodup h.stored _ h.parsed
  intro id'
  constructor
  · exact .inl
  · rintro (hid' | ⟨-, hreach⟩)
    · exact hid'
    · apply mem_of_reaches h.closed hid hreach

/-- What is not stored is asked for. -/
theorem missing (h : Memoized b t requested memo) {id : String} (hid : b.index.lookup id = none)
    (hreads : Reads b 0 t t') :
  Memoized b t' (requested ++ [id]) memo
  := by
  apply h.extend hreads.holds (hreads.dependencies.trans h.dependencies) h.nodup h.stored _
    (hreads.parsed.trans h.parsed)
  intro id'
  rw [Basis.Reaches, hid]
  simp

/-- No function that a search finds has a record. -/
theorem nodup_found (h : Memoized b t requested memo) {e : Entity} {new : List Entity}
    (hnone : memo.lookup e.id = none) (hsearch : Search b memo [e.id] [e] new) :
  ((memo ++ b.entries (e :: new)).map Prod.fst).Nodup
  := by
  rw [List.map_append, Basis.map_fst_entries, List.nodup_append]
  refine ⟨h.nodup, hsearch.nodup, ?_⟩
  rintro id hid id' hid' rfl
  have hfresh : memo.lookup id = none := by
    obtain ⟨d, hd, rfl⟩ := List.mem_map.1 hid'
    obtain rfl | hd := List.mem_cons.1 hd
    · exact hnone
    · apply hsearch.fresh d hd
  have hsome := isSome_lookup_iff.2 hid
  rw [hfresh] at hsome
  contradiction

/-- A function without a record is asked for, and the records of all that a search from it finds
are remembered. -/
theorem found (h : Memoized b t requested memo) {e : Entity} {new : List Entity}
    (he : b.index.lookup e.id = some e) (hnone : memo.lookup e.id = none)
    (hsearch : Search b memo [e.id] [e] new) (hholds : b.Holds t')
    (hdependencies : t'.store.memory.dependencies = some (memo ++ b.entries (e :: new)))
    (hparsed : t'.parsed = t.parsed + (e :: new).length) :
  Memoized b t' (requested ++ [e.id]) (memo ++ b.entries (e :: new))
  := by
  apply h.extend hholds hdependencies (h.nodup_found hnone hsearch)
  · intro p hp
    obtain hp | hp := List.mem_append.1 hp
    · apply h.stored p hp
    · obtain ⟨d, hd, rfl⟩ := List.mem_map.1 hp
      exact ⟨d, hsearch.lookup_of_mem he hd, rfl⟩
  · intro id
    rw [List.map_append, Basis.map_fst_entries, hsearch.reached_iff he h.closed, Basis.Reaches, he]
    simp
  · rw [hparsed, h.parsed, List.length_append, Basis.entries, List.length_map]

end Memoized

/-! ### Asking for a function -/

/-- New records come behind those that are remembered. -/
theorem put_records {es : List Entity} (h : ((memo ++ b.entries es).map Prod.fst).Nodup) :
  Store.dependencyShelf.put (es.map b.record) memo = memo ++ b.entries es
  := by
  have hkeys : (memo.map Prod.fst ++ es.map fun e => (b.record e).ownerId).Nodup := by
    rwa [List.map_append, Basis.map_fst_entries] at h
  rw [Store.Shelf.put, List.foldl_map]
  apply foldl_setEntry_of_nodup _ _ es hkeys

/-- Records that are put into the store are remembered there, and the basis still holds. -/
theorem exists_run_putDependencies (h : b.Holds t)
    (hmemo : t.store.memory.dependencies = some memo) (rs : List CallGraph.Record) :
  ∃ r t', run (onStore (Store.putDependencies rs)) t = (r, t') ∧ b.Holds t' ∧
    t'.store.memory.dependencies = some (Store.dependencyShelf.put rs memo) ∧
    t'.parsed = t.parsed ∧ (r = .ok () ∨ ∃ refusal, r = .error (.refused refusal)) ∧
    (t.store.Usable → r = .ok () ∧ t'.store.Usable)
  := by
  obtain ⟨r, store, hput, ⟨disk, rfl⟩, hr, husable⟩ := Store.run_putDependencies hmemo rs
  refine ⟨r, _, run_onStore_eq hput, ?_, rfl, rfl, hr, husable⟩
  exact ⟨h.entities, h.byId, h.implementations, h.members, h.sources⟩

/-- A stored function that is asked for has its record answered, unless the disk refuses to keep
the records that were computed. It keeps them where the store is usable. -/
theorem Memoized.exists_run_resolve (h : Memoized b t requested memo)
    (hreadable : b.Readable t.store.disk) {id : String} {e : Entity}
    (he : b.index.lookup id = some e) :
  ∃ r t' memo', run (resolve id) t = (r, t') ∧ Memoized b t' (requested ++ [id]) memo' ∧
    (r = .ok (b.record e) ∨ ∃ refusal, r = .error (.refused refusal)) ∧
    (t.store.Usable → r = .ok (b.record e) ∧ t'.store.Usable)
  := by
  obtain ⟨rfl, -⟩ := Basis.of_lookup_index he
  rw [resolve, run_bind_ok (run_dependency? h.dependencies e.id)]
  cases hlookup : memo.lookup e.id with
  | some record =>
    obtain ⟨e', he', rfl⟩ := h.stored _ (mem_of_lookup_eq_some hlookup)
    rw [he] at he'
    cases he'
    have hid : e.id ∈ memo.map Prod.fst := isSome_lookup_iff.1 (by rw [hlookup]; rfl)
    exact ⟨_, t, memo, rfl, h.again hid, .inl rfl, fun husable => ⟨rfl, husable⟩⟩
  | none =>
    have hreads₁ := reads_withIndex h.holds
    have hreads₂ := hreads₁.trans (reads_withIndex hreads₁.holds)
    obtain ⟨new, t₃, hcompute, hreads₃, hsearch⟩ :=
      run_computeAll_singleton hreads₂.holds hreadable h.dependencies he
    have hreads := hreads₂.trans hreads₃
    obtain ⟨r, t₄, hput, hholds, hmemo, hparsed, hr, husable⟩ := exists_run_putDependencies
      hreads.holds (hreads.dependencies.trans h.dependencies) ((e :: new).map b.record)
    have hnodup := h.nodup_found hlookup hsearch
    rw [put_records hnodup] at hmemo
    have hfound := h.found he hlookup hsearch hholds hmemo
      (by rw [hparsed, hreads.parsed, Nat.zero_add])
    rw [run_bind_ok (run_read h.holds he), run_bind_ok (run_byId hreads₁.holds),
      run_bind_ok hcompute, run_bind, hput]
    -- what is remembered is the same in both cases, since the records are written last
    cases r with
    | ok _ =>
      refine ⟨_, t₄, _, rfl, hfound, .inl rfl, fun hstore => ⟨rfl, ?_⟩⟩
      apply (husable (hstore.congr hreads.disk hreads.folder)).2
    | error failure =>
      refine ⟨.error failure, t₄, _, rfl, hfound, .inr ?_, ?_⟩
      · simpa using hr
      · intro hstore
        have := (husable (hstore.congr hreads.disk hreads.folder)).1
        contradiction

/-- What is not stored is reported as missing when it is asked for. -/
theorem Memoized.run_resolve_of_none (h : Memoized b t requested memo) {id : String}
    (hid : b.index.lookup id = none) :
  run (resolve id) t = (.error (.fault (.entityMissing id "any kind")), withIndex b t)
  := by
  have hlookup : memo.lookup id = none := by
    cases hlookup : memo.lookup id with
    | none => rfl
    | some record =>
      obtain ⟨e, he, -⟩ := h.stored _ (mem_of_lookup_eq_some hlookup)
      rw [hid] at he
      contradiction
  rw [resolve, run_bind_ok (run_dependency? h.dependencies id), hlookup]
  apply run_bind_error (run_read_of_none h.holds hid)

/-- Whatever is asked for, afterwards the records are remembered of what is reached from it, too. -/
theorem Memoized.after_resolve (h : Memoized b t requested memo)
    (hreadable : b.Readable t.store.disk) (id : String) :
  ∃ memo', Memoized b (after (resolve id) t) (requested ++ [id]) memo' ∧
    (t.store.Usable → (after (resolve id) t).store.Usable)
  := by
  cases hid : b.index.lookup id with
  | some e =>
    obtain ⟨r, t', memo', hrun, hmemo, -, husable⟩ := h.exists_run_resolve hreadable hid
    rw [after, hrun]
    exact ⟨memo', hmemo, fun hstore => (husable hstore).2⟩
  | none =>
    have hreads := reads_withIndex h.holds
    rw [after, h.run_resolve_of_none hid]
    exact ⟨memo, h.missing hid hreads, fun hstore => hstore.congr hreads.disk hreads.folder⟩

/-! ### Asking for functions one after another -/

/-- The state after functions were asked for, one after another. -/
def State.resolving (s : State) (calls : List String) : State :=
  calls.foldl (fun t id => after (resolve id) t) s

theorem State.resolving_concat (s : State) (calls : List String) (id : String) :
  s.resolving (calls ++ [id]) = after (resolve id) (s.resolving calls)
  := by
  rw [resolving, List.foldl_append]
  rfl

/-- As long as the walked files have the texts that were walked, the records are remembered of what
is reached from the functions that were asked for. -/
theorem exists_memoized_resolving {s : State} (h : Memoized b s [] []) {calls : List String}
    (hreadable : ∀ before, before <+: calls → b.Readable (s.resolving before).store.disk) :
  ∃ memo, Memoized b (s.resolving calls) calls memo ∧
    (s.store.Usable → (s.resolving calls).store.Usable)
  := by
  induction calls using List.reverseRecOn with
  | nil => exact ⟨[], h, id⟩
  | append_singleton calls id ih =>
    have hbefore := List.prefix_append calls [id]
    obtain ⟨memo, hmemo, husable⟩ := ih fun before hpre => hreadable before (hpre.trans hbefore)
    obtain ⟨memo', hmemo', husable'⟩ := hmemo.after_resolve (hreadable calls hbefore) id
    rw [State.resolving_concat]
    exact ⟨memo', hmemo', fun hstore => husable' (husable hstore)⟩

/-! ### After a scan -/

/-- A state computes a record of the entity that is stored under an identity. -/
def State.Computes (s : State) (id : String) (r : CallGraph.Record) : Prop :=
  ∃ e, answer (onStore (Store.find? id)) s = .ok (some e) ∧ answer (compute e) s = .ok r

/-- One function calls another one by the record that a state computes of it. -/
def State.Calls (s : State) (id id' : String) : Prop :=
  ∃ r, s.Computes id r ∧ id' ∈ r.internal

/-- A function is reached from a stored one by calls. -/
def State.Reaches (s : State) (id id' : String) : Prop :=
  (∃ r, s.Computes id r) ∧ ReflTransGen s.Calls id id'

/-- The files that were walked have their texts on the disk. -/
def FilesStay (files : List SourceFile) (disk : Disk) : Prop :=
  ∀ file ∈ files,
    (disk.content (disk.path file.path)).toOption.map (·.readLossy) = some file.text

instance (files : List SourceFile) (disk : Disk) : Decidable (FilesStay files disk) :=
  inferInstanceAs (Decidable (∀ file ∈ files, _))

/-- The records of a state are those that another state computes of all functions that are reached
from some calls, one of each. They are closed under calls, and there is one for each body that was
searched. -/
structure MemoTable (s t : State) (calls : List String) (rs : List CallGraph.Record) : Prop where
  remembered : answer (onStore Store.dependencies) t = .ok rs
  nodup : (rs.map (·.ownerId)).Nodup
  computed : ∀ r ∈ rs, s.Computes r.ownerId r
  reached : ∀ id, id ∈ rs.map (·.ownerId) ↔ ∃ root ∈ calls, s.Reaches root id
  closed : ∀ r ∈ rs, ∀ id ∈ r.internal, id ∈ rs.map (·.ownerId)
  parsed : t.parsed = rs.length

section

variable {s : State}

theorem FilesStay.readable {files : List SourceFile} {disk : Disk} (h : FilesStay files disk)
    (hfiles : b.files = files) :
  b.Readable disk
  := by
  intro path text htext
  rw [hfiles, textAt?, Option.map_eq_some_iff] at htext
  obtain ⟨file, hfile, rfl⟩ := htext
  have hpath : file.path = path := by simpa using List.find?_some hfile
  have hstay := h file (List.mem_of_find?_eq_some hfile)
  rw [hpath] at hstay
  cases hcontent : disk.content (disk.path path) with
  | error refusal =>
    rw [hcontent] at hstay
    contradiction
  | ok content =>
    rw [hcontent] at hstay
    exact ⟨content, rfl, Option.some.inj hstay⟩

theorem answer_find? (h : b.Holds s) (id : String) :
  answer (onStore (Store.find? id)) s = .ok (b.index.lookup id)
  := by
  rw [answer, run_find? h]

theorem computes_iff (h : b.Holds s) (hreadable : b.Readable s.store.disk) {id : String}
    {r : CallGraph.Record} :
  s.Computes id r ↔ ∃ e, b.index.lookup id = some e ∧ r = b.record e
  := by
  have hcompute : ∀ e, b.index.lookup id = some e → answer (compute e) s = .ok (b.record e) := by
    intro e he
    obtain ⟨t, hrun, -⟩ := run_compute h hreadable (Basis.isSome_textAt?_of_lookup he)
    rw [answer, hrun]
  constructor
  · rintro ⟨e, he, hr⟩
    rw [answer_find? h, Except.ok.injEq] at he
    rw [hcompute e he, Except.ok.injEq] at hr
    exact ⟨e, he, hr.symm⟩
  · rintro ⟨e, he, rfl⟩
    refine ⟨e, ?_, hcompute e he⟩
    rw [answer_find? h, he]

theorem calls_eq (h : b.Holds s) (hreadable : b.Readable s.store.disk) :
  s.Calls = b.Calls
  := by
  funext id id'
  apply propext
  rw [State.Calls, Basis.Calls]
  simp only [computes_iff h hreadable]
  constructor
  · rintro ⟨_, ⟨e, he, rfl⟩, hid'⟩
    exact ⟨e, he, hid'⟩
  · rintro ⟨e, he, hid'⟩
    exact ⟨_, ⟨e, he, rfl⟩, hid'⟩

theorem reaches_iff (h : b.Holds s) (hreadable : b.Readable s.store.disk) {id id' : String} :
  s.Reaches id id' ↔ b.Reaches id id'
  := by
  rw [State.Reaches, Basis.Reaches, calls_eq h hreadable, Option.isSome_iff_exists]
  simp only [computes_iff h hreadable]
  constructor
  · rintro ⟨⟨_, e, he, -⟩, hreach⟩
    exact ⟨⟨e, he⟩, hreach⟩
  · rintro ⟨⟨e, he⟩, hreach⟩
    exact ⟨⟨_, e, he, rfl⟩, hreach⟩

/-- The records that are remembered are such a table. -/
theorem Memoized.memoTable (h : Memoized b t requested memo) (hs : b.Holds s)
    (hreadable : b.Readable s.store.disk) :
  MemoTable s t requested (memo.map Prod.snd)
  := by
  have howner : ∀ p ∈ memo, p.2.ownerId = p.1 := by
    intro p hp
    obtain ⟨e, he, hrecord⟩ := h.stored p hp
    rw [hrecord]
    exact (Basis.of_lookup_index he).1
  have hkeys : (memo.map Prod.snd).map (·.ownerId) = memo.map Prod.fst := by
    rw [List.map_map]
    apply List.map_congr_left howner
  refine ⟨?_, ?_, ?_, ?_, ?_, ?_⟩
  · rw [answer, run_onStore, Store.dependencies, Store.dependencyIndex_eq,
      Store.Effect.run_bind_ok
        (Store.run_consult_of_remembered Store.dependencyShelf h.dependencies)]
    rfl
  · rw [hkeys]
    apply h.nodup
  · intro r hr
    obtain ⟨p, hp, rfl⟩ := List.mem_map.1 hr
    rw [howner p hp, computes_iff hs hreadable]
    apply h.stored p hp
  · intro id
    rw [hkeys, h.reached]
    simp only [reaches_iff hs hreadable]
  · intro r hr id hid
    obtain ⟨p, hp, rfl⟩ := List.mem_map.1 hr
    obtain ⟨e, he, hrecord⟩ := h.stored p hp
    rw [hkeys]
    apply h.closed p.1 (List.mem_map_of_mem hp)
    rw [hrecord] at hid
    exact ⟨e, he, hid⟩
  · rw [h.parsed, List.length_map]

end

/-- After a scan of all kinds, as long as the files have the texts that were walked, whatever
functions are asked for in whatever order: the records that are remembered are those of all
functions that are reached from them. A stored function has the record answered that the scanned
session computes of it, unless the disk refuses to keep records, which that of a usable store does
not. Only what is not stored is reported as missing, and then nothing changes. -/
theorem resolve_after_scan {s₀ s : State} {summary : Summary} {found : Files.Walk}
    {calls : List String} (hkinds : ∀ kind, kind ∈ s₀.settings.scan.kinds)
    (hwalk : Files.walk s₀.store.disk s₀.settings.program.folder s₀.settings.scan.extensions
      s₀.settings.scan.maxMegabytes = .ok found)
    (hscan : run scan s₀ = (.ok summary, s))
    (hstay : ∀ before, before <+: calls →
      FilesStay found.files (s.resolving before).store.disk) :
  (∃ rs, MemoTable s (s.resolving calls) calls rs)
  ∧ (∀ id e, answer (onStore (Store.find? id)) s = .ok (some e) → ∃ r, s.Computes id r
      ∧ (answer (resolve id) (s.resolving calls) = .ok r
        ∨ ∃ refusal, answer (resolve id) (s.resolving calls) = .error (.refused refusal))
      ∧ (s.store.Usable → answer (resolve id) (s.resolving calls) = .ok r))
  ∧ ∀ id, answer (onStore (Store.find? id)) s = .ok none →
      answer (resolve id) (s.resolving calls) = .error (.fault (.entityMissing id "any kind"))
      ∧ (s.resolving (calls ++ [id])).store.disk = (s.resolving calls).store.disk
      ∧ (s.resolving (calls ++ [id])).store.memory.dependencies
        = (s.resolving calls).store.memory.dependencies
      ∧ (s.resolving (calls ++ [id])).parsed = (s.resolving calls).parsed
  := by
  obtain ⟨b, hfiles, hholds, hnone, hparsed⟩ := exists_basis_of_scan hkinds hwalk hscan
  have hreadable : ∀ before, before <+: calls →
      b.Readable (s.resolving before).store.disk :=
    fun before hpre => (hstay before hpre).readable hfiles
  have hreadable₀ := hreadable [] List.nil_prefix
  have hstart : Memoized b s [] [] := ⟨hholds, hnone, by simp, by simp, by simp, hparsed⟩
  obtain ⟨memo, hmemo, husable⟩ := exists_memoized_resolving hstart hreadable
  refine ⟨⟨_, hmemo.memoTable hholds hreadable₀⟩, ?_, ?_⟩
  · intro id e he
    rw [answer_find? hholds, Except.ok.injEq] at he
    obtain ⟨r, t, -, hrun, -, hr, hok⟩ :=
      hmemo.exists_run_resolve (hreadable calls List.prefix_rfl) he
    rw [answer, hrun]
    exact ⟨b.record e, (computes_iff hholds hreadable₀).2 ⟨e, he, rfl⟩, hr,
      fun hstore => (hok (husable hstore)).1⟩
  · intro id hid
    rw [answer_find? hholds, Except.ok.injEq] at hid
    rw [State.resolving_concat, answer, after, hmemo.run_resolve_of_none hid]
    exact ⟨rfl, rfl, rfl, rfl⟩

/-! ### A function that calls itself -/

/-- A method that calls itself and something else. -/
def selfCall : SourceFile :=
  ⟨"programs/lib.rs", "impl T \x7b\nfn a() \x7b T::a(); b(); \x7d\n\x7d\n"⟩

/-- A session on this file, with a folder that has some entries, and a path to the documents. -/
def selfCallSession (entries : List (String × Files.Node)) (documents : String) : State :=
  State.start
    ⟨"/", .folder [("m", .folder entries),
      ("programs", .folder [("lib.rs", .file (.text selfCall.text))])]⟩
    (.after 0) { Settings.standard with metadata := ⟨documents⟩ }

/-- The identity of the method after a scan. -/
def selfCallId : String :=
  Text.hexadecimal 32 1

theorem resolve_after_scan_selfCall :
  let s₀ := selfCallSession [] "m"
  let s := after scan s₀
  let calls := [selfCallId, "", selfCallId]
  ∃ found summary rs r,
    (∀ kind, kind ∈ s₀.settings.scan.kinds)
    ∧ Files.walk s₀.store.disk s₀.settings.program.folder s₀.settings.scan.extensions
        s₀.settings.scan.maxMegabytes = .ok found
    ∧ run scan s₀ = (.ok summary, s)
    ∧ (∀ before, before <+: calls → FilesStay found.files (s.resolving before).store.disk)
    ∧ MemoTable s (s.resolving calls) calls rs ∧ selfCallId ∈ rs.map (·.ownerId)
    ∧ s.Computes selfCallId r ∧ answer (resolve selfCallId) (s.resolving calls) = .ok r
    ∧ answer (resolve "") (s.resolving calls) = .error (.fault (.entityMissing "" "any kind"))
  := by
  intro s₀ s calls
  have hfacts : (Files.walk s₀.store.disk s₀.settings.program.folder s₀.settings.scan.extensions
        s₀.settings.scan.maxMegabytes).toOption.map (·.files) = some [selfCall]
      ∧ (answer scan s₀).toOption.map (fun _ => ()) = some ()
      ∧ (∀ before ∈ calls.inits, FilesStay [selfCall] (s.resolving before).store.disk)
      ∧ (answer (onStore (Store.find? selfCallId)) s).toOption.map (·.isSome) = some true
      ∧ (answer (onStore (Store.find? "")) s).toOption.map (·.isSome) = some false
      ∧ s.store.isHosted = true := by
    decide +kernel
  obtain ⟨hwalk, hscan, hstay, hstored, hmissing, hhosted⟩ := hfacts
  obtain ⟨found, hwalk, hfiles⟩ := exists_of_map_toOption hwalk
  obtain ⟨summary, hscan, -⟩ := exists_of_map_toOption hscan
  obtain ⟨_, he, hsome⟩ := exists_of_map_toOption hstored
  obtain ⟨e, rfl⟩ := Option.isSome_iff_exists.1 hsome
  obtain ⟨_, hnone, hempty⟩ := exists_of_map_toOption hmissing
  obtain rfl := Option.isNone_iff_eq_none.1 (Option.isSome_eq_false_iff.1 hempty)
  have hrun : run scan s₀ = (.ok summary, s) := run_of_answer hscan
  have hstay : ∀ before, before <+: calls →
      FilesStay found.files (s.resolving before).store.disk := by
    intro before hpre
    rw [hfiles]
    apply hstay before ((List.mem_inits _ _).2 hpre)
  obtain ⟨⟨rs, hrs⟩, hanswers, hmissing⟩ :=
    resolve_after_scan Kind.mem_all hwalk hrun hstay
  obtain ⟨r, hr, -, hok⟩ := hanswers selfCallId e he
  refine ⟨found, summary, rs, r, Kind.mem_all, hwalk, hrun, hstay, hrs, ?_, hr, ?_, ?_⟩
  · apply (hrs.reached selfCallId).2 ⟨selfCallId, List.mem_cons_self, ⟨r, hr⟩, .refl⟩
  · apply hok (Store.State.usable_of_isHosted hhosted)
  · apply (hmissing "" hnone).1

/-- The path to the documents leads through a link that the scan replaces by a document. Then the
disk refuses to keep the record of the method, which is remembered nevertheless. -/
theorem refused_and_remembered :
  let s₀ := selfCallSession [("context_accounts.md", .link ".")] "m/context_accounts.md"
  let s := after scan s₀
  (∀ kind, kind ∈ s₀.settings.scan.kinds)
  ∧ (∃ summary, run scan s₀ = (.ok summary, s))
  ∧ (∃ e, answer (onStore (Store.find? selfCallId)) s = .ok (some e))
  ∧ FilesStay [selfCall] s.store.disk
  ∧ FilesStay [selfCall] (s.resolving [selfCallId]).store.disk
  ∧ (∃ failure, answer (resolve selfCallId) s = .error failure)
  ∧ answer (onStore Store.dependencies) s = .ok []
  ∧ ∃ r, answer (onStore Store.dependencies) (s.resolving [selfCallId]) = .ok [r]
  := by
  intro s₀ s
  have hfacts : (answer scan s₀).toOption.map (fun _ => ()) = some ()
      ∧ (answer (onStore (Store.find? selfCallId)) s).toOption.map (·.isSome) = some true
      ∧ FilesStay [selfCall] s.store.disk
      ∧ FilesStay [selfCall] (s.resolving [selfCallId]).store.disk
      ∧ (answer (resolve selfCallId) s).toOption.isSome = false
      ∧ (answer (onStore Store.dependencies) s).toOption.map (·.length) = some 0
      ∧ (answer (onStore Store.dependencies) (s.resolving [selfCallId])).toOption.map (·.length)
        = some 1 := by
    decide +kernel
  obtain ⟨hscan, hstored, hstay, hstay', hfails, hbefore, hafter⟩ := hfacts
  obtain ⟨summary, hscan, -⟩ := exists_of_map_toOption hscan
  obtain ⟨_, he, hsome⟩ := exists_of_map_toOption hstored
  obtain ⟨e, rfl⟩ := Option.isSome_iff_exists.1 hsome
  obtain ⟨_, hbefore, hlength⟩ := exists_of_map_toOption hbefore
  obtain rfl := List.length_eq_zero_iff.1 hlength
  obtain ⟨_, hafter, hlength⟩ := exists_of_map_toOption hafter
  obtain ⟨r, rfl⟩ := List.length_eq_one_iff.1 hlength
  refine ⟨Kind.mem_all, ⟨summary, run_of_answer hscan⟩, ⟨e, he⟩, hstay, hstay', ?_, hbefore, r,
    hafter⟩
  cases hresolve : answer (resolve selfCallId) s with
  | error failure => exact ⟨failure, rfl⟩
  | ok record =>
    rw [hresolve] at hfails
    contradiction

end AnchorIndex.Session

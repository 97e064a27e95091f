import AnchorIndex.Proofs.Session.Computing
import Mathlib.Data.List.Perm.Subperm
import Mathlib.Logic.Relation

/-!
# The search for functions that are called

From one function the search goes on to those that it calls and that have no record yet. What it
finds (`Search`) is closed: each function that is called waits, was found or has a record. And each
function that is found is reached from those that waited. A function waits once at most, so there
are rounds enough for all of them (`run_computeAll`).
-/

namespace AnchorIndex.Session

open Effect Relation

/-- A stored function calls another one if its record says so. -/
def Basis.Calls (b : Basis) (id id' : String) : Prop :=
  ∃ e, b.index.lookup id = some e ∧ id' ∈ (b.record e).internal

/-- The records that are remembered. -/
abbrev Memo : Type := List (String × CallGraph.Record)

variable {b : Basis} {memo : Memo} {t : State}

theorem run_dependency? (hmemo : t.store.memory.dependencies = some memo) (id : String) :
  run (onStore (Store.dependency? id)) t = (.ok (memo.lookup id), t)
  := by
  apply run_onStore_eq
  rw [Store.dependency?, Store.dependencyIndex_eq, Store.Effect.run_bind_ok
    (Store.run_consult_of_remembered Store.dependencyShelf hmemo)]
  rfl

/-! ### Waiting -/

/-- What is put on the list of those that wait, of functions `ids`: stored functions that were not
visited and have no record, each of them once. -/
structure Enqueued (b : Basis) (memo : Memo) (visited ids : List String) (more : List Entity) :
    Prop where
  stored : ∀ e ∈ more, b.index.lookup e.id = some e
  mem : ∀ e ∈ more, e.id ∈ ids
  fresh : ∀ e ∈ more, memo.lookup e.id = none
  nodup : visited.Nodup → (visited ++ more.map (·.id)).Nodup
  covers : ∀ id ∈ ids, id ∈ visited ++ more.map (·.id) ∨ (memo.lookup id).isSome

namespace Enqueued

variable {visited ids : List String} {id : String} {more : List Entity}

theorem nil :
  Enqueued b memo visited [] []
  := by
  refine ⟨by simp, by simp, by simp, by simp, by simp⟩

/-- A function that was visited or has a record does not wait. -/
theorem skip (h : Enqueued b memo visited ids more)
    (hid : id ∈ visited ∨ (memo.lookup id).isSome) :
  Enqueued b memo visited (id :: ids) more
  := by
  refine ⟨h.stored, fun e he => List.mem_cons_of_mem id (h.mem e he), h.fresh, h.nodup, ?_⟩
  intro id' hid'
  obtain rfl | hid' := List.mem_cons.1 hid'
  · exact hid.imp_left (List.mem_append_left _)
  · apply h.covers id' hid'

/-- Another function waits. -/
theorem wait {e : Entity} (h : Enqueued b memo (visited ++ [e.id]) ids more)
    (he : b.index.lookup e.id = some e) (hvisited : e.id ∉ visited)
    (hmemo : memo.lookup e.id = none) :
  Enqueued b memo visited (e.id :: ids) (e :: more)
  := by
  have hsame : visited ++ (e :: more).map (·.id) = visited ++ [e.id] ++ more.map (·.id) := by simp
  refine ⟨?_, ?_, ?_, ?_, ?_⟩
  · intro d hd
    obtain rfl | hd := List.mem_cons.1 hd
    · exact he
    · apply h.stored d hd
  · intro d hd
    obtain rfl | hd := List.mem_cons.1 hd
    · apply List.mem_cons_self
    · apply List.mem_cons_of_mem _ (h.mem d hd)
  · intro d hd
    obtain rfl | hd := List.mem_cons.1 hd
    · exact hmemo
    · apply h.fresh d hd
  · intro hnodup
    rw [hsame]
    apply h.nodup
    rw [List.nodup_append]
    refine ⟨hnodup, List.nodup_singleton _, ?_⟩
    intro id hid id' hid'
    obtain rfl := List.mem_singleton.1 hid'
    rintro rfl
    contradiction
  · rw [hsame]
    intro id hid
    obtain rfl | hid := List.mem_cons.1 hid
    · left
      simp
    · apply h.covers id hid

end Enqueued

theorem run_enqueue (h : b.Holds t) (hmemo : t.store.memory.dependencies = some memo)
    {ids : List String} (hids : ∀ id ∈ ids, (b.index.lookup id).isSome) (visited : List String) :
  ∃ more t', run (enqueue visited ids) t = (.ok (visited ++ more.map (·.id), more), t') ∧
    Reads b 0 t t' ∧ Enqueued b memo visited ids more
  := by
  induction ids generalizing t visited with
  | nil =>
    refine ⟨[], t, ?_, .refl h, .nil⟩
    rw [enqueue, run_pure]
    simp
  | cons id ids ih =>
    have hrest : ∀ id' ∈ ids, (b.index.lookup id').isSome :=
      fun id' hid' => hids id' (List.mem_cons_of_mem id hid')
    rw [enqueue]
    by_cases hvisited : id ∈ visited
    · obtain ⟨more, t', hrun, hreads, hmore⟩ := ih h hmemo hrest visited
      refine ⟨more, t', ?_, hreads, hmore.skip (.inl hvisited)⟩
      rw [if_pos (by simpa using hvisited), hrun]
    rw [if_neg (by simpa using hvisited), run_bind_ok (run_dependency? hmemo id)]
    cases hlookup : memo.lookup id with
    | some record =>
      obtain ⟨more, t', hrun, hreads, hmore⟩ := ih h hmemo hrest visited
      refine ⟨more, t', ?_, hreads, hmore.skip (.inr (by rw [hlookup]; rfl))⟩
      rw [if_pos (show (some record).isSome = true from rfl), hrun]
    | none =>
      obtain ⟨e, he⟩ := Option.isSome_iff_exists.1 (hids id List.mem_cons_self)
      obtain ⟨rfl, -⟩ := Basis.of_lookup_index he
      have hreads := reads_withIndex h
      obtain ⟨more, t', hrun, hreads', hmore⟩ :=
        ih hreads.holds (hreads.dependencies.trans hmemo) hrest (visited ++ [e.id])
      refine ⟨e :: more, t', ?_, hreads.trans hreads', hmore.wait he hvisited hlookup⟩
      rw [if_neg (show ¬ (none : Option CallGraph.Record).isSome = true by simp),
        run_bind_ok (run_read h he), run_bind_ok hrun]
      simp

/-! ### Searching -/

/-- What the search finds from those that wait, after some were visited. -/
structure Search (b : Basis) (memo : Memo) (visited : List String) (waiting new : List Entity) :
    Prop where
  stored : ∀ e ∈ new, b.index.lookup e.id = some e
  fresh : ∀ e ∈ new, memo.lookup e.id = none
  nodup : (visited ++ new.map (·.id)).Nodup
  closed : ∀ e ∈ waiting ++ new, ∀ id ∈ (b.record e).internal,
    id ∈ visited ++ new.map (·.id) ∨ (memo.lookup id).isSome
  reached : ∀ e ∈ new, ∃ d ∈ waiting, ReflTransGen b.Calls d.id e.id

theorem Search.nil {visited : List String} (h : visited.Nodup) :
  Search b memo visited [] []
  := by
  refine ⟨by simp, by simp, by simpa using h, by simp, by simp⟩

/-- A round of the search: the first function that waits is done, and some that it calls wait
behind the others. -/
theorem Search.round {visited : List String} {e : Entity} {waiting more new : List Entity}
    (he : b.index.lookup e.id = some e)
    (hmore : Enqueued b memo visited (b.record e).internal more)
    (h : Search b memo (visited ++ more.map (·.id)) (waiting ++ more) new) :
  Search b memo visited (e :: waiting) (more ++ new)
  := by
  have hsame : visited ++ (more ++ new).map (·.id)
      = visited ++ more.map (·.id) ++ new.map (·.id) := by simp
  refine ⟨?_, ?_, ?_, ?_, ?_⟩
  · intro d hd
    obtain hd | hd := List.mem_append.1 hd
    · apply hmore.stored d hd
    · apply h.stored d hd
  · intro d hd
    obtain hd | hd := List.mem_append.1 hd
    · apply hmore.fresh d hd
    · apply h.fresh d hd
  · rw [hsame]
    apply h.nodup
  · rw [hsame]
    intro d hd id hid
    rw [List.cons_append] at hd
    obtain rfl | hd := List.mem_cons.1 hd
    · exact (hmore.covers id hid).imp_left (List.mem_append_left _)
    · apply h.closed d _ id hid
      simpa using hd
  · have hcalls : ∀ d ∈ more, b.Calls e.id d.id := fun d hd => ⟨e, he, hmore.mem d hd⟩
    intro d hd
    obtain hd | hd := List.mem_append.1 hd
    · exact ⟨e, List.mem_cons_self, .single (hcalls d hd)⟩
    · obtain ⟨w, hw, hreach⟩ := h.reached d hd
      obtain hw | hw := List.mem_append.1 hw
      · exact ⟨w, List.mem_cons_of_mem e hw, hreach⟩
      · exact ⟨e, List.mem_cons_self, .head (hcalls w hw) hreach⟩

/-- There are at most as many functions as stored entities. -/
theorem length_le_of_stored {ids : List String} (hnodup : ids.Nodup)
    (h : ∀ id ∈ ids, (b.index.lookup id).isSome) :
  ids.length ≤ b.index.length
  := by
  have hsubset : ids ⊆ b.index.map Prod.fst := by
    intro id hid
    obtain ⟨e, he⟩ := Option.isSome_iff_exists.1 (h id hid)
    apply List.mem_map.2 ⟨(id, e), mem_of_lookup_eq_some he, rfl⟩
  have := (hnodup.subperm hsubset).length_le
  rwa [List.length_map] at this

/-- The search computes the records of the functions that wait and of those that it finds. It has
rounds enough if there is one for each of them and one for each entity that was not visited. -/
theorem run_computeAll (h : b.Holds t) (hreadable : b.Readable t.store.disk)
    (hmemo : t.store.memory.dependencies = some memo) {rounds : Nat} {visited : List String}
    {waiting : List Entity} (hwaiting : ∀ e ∈ waiting, b.index.lookup e.id = some e)
    (hnodup : visited.Nodup) (hvisited : ∀ id ∈ visited, (b.index.lookup id).isSome)
    (hrounds : waiting.length + b.index.length ≤ rounds + visited.length) :
  ∃ new t', run (computeAll rounds visited waiting) t
      = (.ok ((waiting ++ new).map b.record), t') ∧
    Reads b (waiting ++ new).length t t' ∧ Search b memo visited waiting new
  := by
  induction rounds generalizing t visited waiting with
  | zero =>
    -- all entities are visited, so none is left that could wait
    have hlength := length_le_of_stored hnodup hvisited
    obtain rfl : waiting = [] := List.length_eq_zero_iff.1 (by omega)
    exact ⟨[], t, rfl, .refl h, .nil hnodup⟩
  | succ rounds ih =>
    cases waiting with
    | nil => exact ⟨[], t, rfl, .refl h, .nil hnodup⟩
    | cons e waiting =>
      have he := hwaiting e List.mem_cons_self
      obtain ⟨t₁, hcompute, hreads₁⟩ :=
        run_compute h hreadable (Basis.isSome_textAt?_of_lookup he)
      have hmemo₁ := hreads₁.dependencies.trans hmemo
      obtain ⟨more, t₂, henqueue, hreads₂, hmore⟩ :=
        run_enqueue hreads₁.holds hmemo₁
          (fun _ => Basis.isSome_lookup_of_mem_internal (e := e)) visited
      have hreads := hreads₁.trans hreads₂
      have hwaiting' : ∀ d ∈ waiting ++ more, b.index.lookup d.id = some d := by
        intro d hd
        obtain hd | hd := List.mem_append.1 hd
        · apply hwaiting d (List.mem_cons_of_mem e hd)
        · apply hmore.stored d hd
      have hvisited' : ∀ id ∈ visited ++ more.map (·.id), (b.index.lookup id).isSome := by
        intro id hid
        obtain hid | hid := List.mem_append.1 hid
        · apply hvisited id hid
        · obtain ⟨d, hd, rfl⟩ := List.mem_map.1 hid
          rw [hmore.stored d hd]
          rfl
      have hreadable₂ : b.Readable t₂.store.disk := by rwa [hreads.disk]
      -- what waits anew is visited now, so a round is left for each of the others
      have hrounds' : (waiting ++ more).length + b.index.length
          ≤ rounds + (visited ++ more.map (·.id)).length := by
        simp only [List.length_append, List.length_map, List.length_cons] at hrounds ⊢
        omega
      obtain ⟨new, t₃, hrun, hreads₃, hsearch⟩ :=
        ih hreads.holds hreadable₂ (hreads.dependencies.trans hmemo) hwaiting'
          (hmore.nodup hnodup) hvisited' hrounds'
      refine ⟨more ++ new, t₃, ?_, ?_, .round he hmore hsearch⟩
      · rw [computeAll, run_bind_ok hcompute, run_bind_ok henqueue, run_bind_ok hrun, run_pure]
        simp
      · have hall := hreads.trans hreads₃
        have hlength : 1 + 0 + (waiting ++ more ++ new).length
            = (e :: waiting ++ (more ++ new)).length := by
          simp
          omega
        rwa [hlength] at hall

/-- The search from one function has rounds enough. -/
theorem run_computeAll_singleton (h : b.Holds t) (hreadable : b.Readable t.store.disk)
    (hmemo : t.store.memory.dependencies = some memo) {e : Entity}
    (he : b.index.lookup e.id = some e) :
  ∃ new t', run (computeAll (b.index.length + 1) [e.id] [e]) t
      = (.ok ((e :: new).map b.record), t') ∧
    Reads b (e :: new).length t t' ∧ Search b memo [e.id] [e] new
  := by
  apply run_computeAll h hreadable hmemo
  · intro d hd
    rwa [List.mem_singleton.1 hd]
  · apply List.nodup_singleton
  · intro id hid
    rw [List.mem_singleton.1 hid, he]
    rfl
  · simp
    omega

end AnchorIndex.Session

import AnchorIndex.Proofs.Store.Stored

/-!
# Finding entities

An entity is found by its identity in an index of all stored entities, which the store builds when
it is first needed and drops when entities are put in. As long as the index that is remembered is
that of the stored entities (`State.Indexed`), finding is looking up in it (`answer_find?`), which
leads to the entity that has the identity if identities differ (`lookup_indexById_eq_some_iff`).
-/

namespace AnchorIndex.Store

open Effect

/-! ### The index -/

/-- The index of all entities that the store holds, or why they cannot be read. -/
def State.index (s : State) : Except Failure (List (String × Entity)) :=
  (Kind.all.mapM s.stored).map fun ess => indexById ess.flatten

/-- The index that is remembered, if one is, is that of the entities that the store holds. -/
def State.Indexed (s : State) : Prop :=
  ∀ index, s.memory.byId = some index → s.index = .ok index

theorem State.index_eq {s : State} {es : Kind → List Entity}
    (h : ∀ kind, s.stored kind = .ok (es kind)) :
  s.index = .ok (indexById (Kind.all.flatMap es))
  := by
  rw [State.index, mapM_eq_ok_map fun kind _ => h kind, List.flatMap_def]
  rfl

/-- The index depends on the stored entities only. -/
theorem State.index_congr {s s' : State} (h : ∀ kind, s'.stored kind = s.stored kind) :
  s'.index = s.index
  := by
  have hstored : s'.stored = s.stored := funext h
  rw [State.index, State.index, hstored]

theorem Loads.index_eq {s s' : State} (h : Loads s s') :
  s'.index = s.index
  := State.index_congr h.stored_eq

theorem Loads.indexed {s s' : State} (h : Loads s s') (hs : s.Indexed) :
  s'.Indexed
  := by
  intro index hindex
  rw [h.byId] at hindex
  rw [h.index_eq]
  apply hs index hindex

theorem Aside.indexed {s s' : State} (h : Aside s s') (hs : s.Indexed) :
  s'.Indexed
  := by
  intro index hindex
  rw [h.byId] at hindex
  rw [State.index_congr h.stored_eq]
  apply hs index hindex

theorem Saved.indexed {s s' : State} {kind : Kind} {es : List Entity} {taken : Nat}
    (h : Saved s s' kind es taken) :
  s'.Indexed
  := by
  intro index hindex
  rw [h.memory] at hindex
  contradiction

/-- The state with an index remembered. -/
def State.withIndex (s : State) (index : List (String × Entity)) : State :=
  { s with memory := { s.memory with byId := some index } }

theorem State.indexed_withIndex {s : State} {index : List (String × Entity)}
    (h : s.index = .ok index) :
  (s.withIndex index).Indexed
  := by
  intro index' hindex
  cases hindex
  apply h

/-! ### Building the index -/

theorem run_allOf (kinds : List Kind) (s : State) :
  ∃ s', run (allOf kinds) s = ((kinds.mapM s.stored).map List.flatten, s') ∧ Loads s s'
  := by
  induction kinds generalizing s with
  | nil => exact ⟨s, rfl, Loads.refl s⟩
  | cons kind rest ih =>
    have hloads := loads_loading s kind
    obtain ⟨s', hrun, hloads'⟩ := ih (s.loading kind)
    have hstored : (s.loading kind).stored = s.stored := funext hloads.stored_eq
    rw [hstored] at hrun
    rw [allOf, List.mapM_cons]
    cases hkind : s.stored kind with
    | error failure =>
      refine ⟨s.loading kind, ?_, hloads⟩
      apply run_bind_error (by rw [run_all, hkind]) _
    | ok es =>
      refine ⟨s', ?_, hloads.trans hloads'⟩
      have hall : run (all kind) s = (.ok es, s.loading kind) := by rw [run_all, hkind]
      rw [run_bind_ok hall]
      cases hrest : rest.mapM s.stored with
      | error failure =>
        rw [hrest] at hrun
        apply run_bind_error hrun _
      | ok ess =>
        rw [hrest] at hrun
        rw [run_bind_ok hrun]
        rfl

/-- The index is answered, and remembered if it was not. -/
theorem run_byId {s : State} (h : s.Indexed) :
  ∃ s', run byId s = (s.index, s') ∧
    (Loads s s' ∨ ∃ s₁ index, Loads s s₁ ∧ s₁.index = .ok index ∧ s' = s₁.withIndex index)
  := by
  rw [byId]
  cases hmemory : s.memory.byId with
  | some index =>
    refine ⟨s, ?_, .inl (Loads.refl s)⟩
    rw [run_get_bind, hmemory, h index hmemory]
    rfl
  | none =>
    obtain ⟨s₁, hrun, hloads⟩ := run_allOf Kind.all s
    cases hstored : Kind.all.mapM s.stored with
    | error failure =>
      rw [hstored] at hrun
      refine ⟨s₁, ?_, .inl hloads⟩
      rw [run_get_bind, hmemory, State.index, hstored]
      apply run_bind_error hrun _
    | ok ess =>
      rw [hstored] at hrun
      have hindex : s.index = .ok (indexById ess.flatten) := by
        rw [State.index, hstored]
        rfl
      refine ⟨s₁.withIndex (indexById ess.flatten), ?_, .inr ⟨s₁, _, hloads, ?_, rfl⟩⟩
      · rw [run_get_bind, hmemory, hindex]
        change run (allOf Kind.all >>= fun es =>
          remember (fun m => { m with byId := some (indexById es) }) >>= fun _ =>
            pure (indexById es)) s = _
        rw [run_bind_ok hrun, run_bind_ok (run_remember _ s₁), run_pure]
        rfl
      · rw [hloads.index_eq, hindex]

/-! ### Finding -/

theorem answer_find? {s : State} (h : s.Indexed) (id : String) :
  answer (find? id) s = s.index.map fun index => index.lookup id
  := by
  obtain ⟨s', hrun, -⟩ := run_byId h
  change (run ((·.lookup id) <$> byId) s).1 = _
  rw [run_map, hrun]

theorem answer_read (id : String) (s : State) :
  answer (read id) s = (answer (find? id) s).bind fun e? =>
    match e? with
    | some e => .ok e
    | none => .error (.fault (.entityMissing id "any kind"))
  := by
  rw [answer, answer, read, run_bind]
  obtain ⟨_ | e?, s'⟩ := run (find? id) s
  · rfl
  · cases e? <;> rfl

/-- Where identities differ, an identity leads to the entity that has it. -/
theorem lookup_indexById_eq_some_iff {es : List Entity} (h : (es.map (·.id)).Nodup) {id : String}
    {e : Entity} :
  (indexById es).lookup id = some e ↔ e ∈ es ∧ e.id = id
  := by
  have hkeys : ((es.map fun e => (e.id, e)).map Prod.fst).Nodup := by
    rw [List.map_map]
    apply h
  rw [indexById, lookup_mergeRepeated, lookup_reverse hkeys, lookup_eq_some_iff_mem hkeys,
    List.mem_map]
  constructor
  · rintro ⟨d, hd, heq⟩
    cases heq
    exact ⟨hd, rfl⟩
  · rintro ⟨he, rfl⟩
    exact ⟨e, he, rfl⟩

end AnchorIndex.Store

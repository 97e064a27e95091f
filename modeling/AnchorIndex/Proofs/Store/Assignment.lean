import AnchorIndex.Store.Entities
import AnchorIndex.Proofs.Datum.Entries
import AnchorIndex.Proofs.Entity.Identity
import AnchorIndex.Proofs.Store.Actions

/-!
# Assigning identities

What `assignIds` does is a function of the known identities and of the supply of tokens
(`assigned`): an entity whose key is known takes the identity known for it, and the others take the
next tokens one after another (`ids_newlyAssigned`). Putting the entities in the place of stored
ones keeps the identities of all keys and adds the new ones (`idsByKey_foldl_placeEntity`). So
identities that differ stay different, whether a batch is merged with the stored entities or
replaces them (`Manner.nodup_ids_result`).
-/

namespace AnchorIndex.Store

open Effect

/-! ### Identities by their keys -/

/-- The identities of keyed entities, by their keys. -/
def idsByKey (l : List (IdentityKey × Entity)) : List (IdentityKey × String) :=
  l.map fun p => (p.1, p.2.id)

theorem knownIds_eq (es : List Entity) :
  knownIds es = idsByKey (keyed es)
  := rfl

theorem map_fst_idsByKey (l : List (IdentityKey × Entity)) :
  (idsByKey l).map Prod.fst = l.map Prod.fst
  := by
  rw [idsByKey, List.map_map]
  rfl

theorem map_snd_idsByKey (l : List (IdentityKey × Entity)) :
  (idsByKey l).map Prod.snd = (l.map Prod.snd).map (·.id)
  := by
  rw [idsByKey, List.map_map, List.map_map]
  rfl

theorem map_fst_keyed (es : List Entity) :
  (keyed es).map Prod.fst = identityKeys es
  := List.map_fst_zip (Nat.le_of_eq (length_identityKeys es))

theorem map_snd_keyed (es : List Entity) :
  (keyed es).map Prod.snd = es
  := List.map_snd_zip (Nat.le_of_eq (length_identityKeys es).symm)

theorem nodup_keyed (es : List Entity) :
  ((keyed es).map Prod.fst).Nodup
  := by
  rw [map_fst_keyed]
  apply nodup_identityKeys

theorem map_fst_knownIds (es : List Entity) :
  (knownIds es).map Prod.fst = identityKeys es
  := by
  rw [knownIds_eq, map_fst_idsByKey, map_fst_keyed]

theorem map_snd_knownIds (es : List Entity) :
  (knownIds es).map Prod.snd = es.map (·.id)
  := by
  rw [knownIds_eq, map_snd_idsByKey, map_snd_keyed]

theorem forall_mem_knownIds {es : List Entity} (Q : String → Prop) (h : ∀ e ∈ es, Q e.id) :
  ∀ p ∈ knownIds es, Q p.2
  := by
  intro p hp
  have hid : p.2 ∈ es.map (·.id) := by
    rw [← map_snd_knownIds]
    apply List.mem_map_of_mem hp
  obtain ⟨e, he, heq⟩ := List.mem_map.1 hid
  rw [← heq]
  apply h e he

/-- Where no entity is without identity, an identity is known for a key exactly if an entity with
this key has it. -/
theorem knownId?_eq_some_iff {es : List Entity} (hid : ∀ e ∈ es, e.id ≠ "") {key : IdentityKey}
    {id : String} :
  knownId? (knownIds es) key = some id ↔ (key, id) ∈ knownIds es
  := by
  have hkeys : ((knownIds es).map Prod.fst).Nodup := by
    rw [map_fst_knownIds]
    apply nodup_identityKeys
  rw [knownId?, Option.filter_eq_some_iff, lookup_eq_some_iff_mem hkeys]
  constructor
  · apply And.left
  · intro h
    use h
    simpa using forall_mem_knownIds (· ≠ "") hid _ h

/-- Where no entity is without identity, no identity is known for a key exactly if no entity has
the key. -/
theorem knownId?_eq_none_iff {es : List Entity} (hid : ∀ e ∈ es, e.id ≠ "") {key : IdentityKey} :
  knownId? (knownIds es) key = none ↔ key ∉ identityKeys es
  := by
  rw [Option.eq_none_iff_forall_ne_some, ← map_fst_knownIds]
  constructor
  · intro h hmem
    obtain ⟨⟨_, id⟩, hp, rfl⟩ := List.mem_map.1 hmem
    apply h id ((knownId?_eq_some_iff hid).2 hp)
  · intro h id hsome
    apply h (List.mem_map_of_mem ((knownId?_eq_some_iff hid).1 hsome))

/-! ### Assigning -/

/-- The supply after some more tokens. -/
def Mint.skip (m : Mint) (n : Nat) : Mint :=
  { m with used := m.used + n }

/-- No identity is known for the key of the entity. -/
def isNew (known : List (IdentityKey × String)) (p : IdentityKey × Entity) : Bool :=
  (knownId? known p.1).isNone

/-- The entities with the identities that are known for their keys, or else with tokens. -/
def assigned (known : List (IdentityKey × String)) :
    List (IdentityKey × Entity) → Mint → List (IdentityKey × Entity)
  | [], _ => []
  | (key, e) :: rest, m =>
    match knownId? known key with
    | some id => (key, e.withId id) :: assigned known rest m
    | none => (key, e.withId (m.token m.used)) :: assigned known rest (m.skip 1)

theorem run_mintId (s : State) :
  run mintId s = (.ok (s.mint.token s.mint.used), { s with mint := s.mint.skip 1 })
  := rfl

theorem run_assignIds (known : List (IdentityKey × String)) (l : List (IdentityKey × Entity))
    (s : State) :
  run (assignIds known l) s
    = (.ok (assigned known l s.mint), { s with mint := s.mint.skip (l.countP (isNew known)) })
  := by
  induction l generalizing s with
  | nil => rfl
  | cons p rest ih =>
    obtain ⟨key, e⟩ := p
    rw [assignIds, assigned]
    cases hknown : knownId? known key with
    | some id =>
      have hold : isNew known (key, e) = false := by simp [isNew, hknown]
      rw [run_bind_ok (run_pure id s), run_bind_ok (ih s), run_pure]
      rw [List.countP_cons, hold]
      rfl
    | none =>
      have hnew : isNew known (key, e) = true := by simp [isNew, hknown]
      rw [run_bind_ok (run_mintId s), run_bind_ok (ih _), run_pure]
      rw [List.countP_cons, hnew, if_pos rfl, Nat.add_comm]
      simp only [Mint.skip, Nat.add_assoc]

section

variable {known : List (IdentityKey × String)} {l : List (IdentityKey × Entity)} {m : Mint}

theorem map_fst_assigned :
  (assigned known l m).map Prod.fst = l.map Prod.fst
  := by
  induction l generalizing m with
  | nil => rfl
  | cons p rest ih =>
    obtain ⟨key, e⟩ := p
    rw [assigned]
    split <;> rw [List.map_cons, List.map_cons, ih]

/-- But for identities, the entities stay what they are. -/
theorem map_withId_assigned (id : String) :
  ((assigned known l m).map Prod.snd).map (·.withId id) = (l.map Prod.snd).map (·.withId id)
  := by
  induction l generalizing m with
  | nil => rfl
  | cons p rest ih =>
    obtain ⟨key, e⟩ := p
    rw [assigned]
    split
    · simp only [List.map_cons, ih]
      rfl
    · simp only [List.map_cons, ih]
      rfl

/-- An entity that is assigned an identity is one of the batch but for its identity. -/
theorem exists_of_mem_assigned {key : IdentityKey} {e' : Entity}
    (h : (key, e') ∈ assigned known l m) :
  ∃ e, (key, e) ∈ l ∧ e' = e.withId e'.id
  := by
  induction l generalizing m with
  | nil => contradiction
  | cons p rest ih =>
    obtain ⟨k, e⟩ := p
    rw [assigned] at h
    split at h
    · obtain h | h := List.mem_cons.1 h
      · cases h
        exact ⟨e, List.mem_cons_self, rfl⟩
      · obtain ⟨d, hd, heq⟩ := ih h
        exact ⟨d, List.mem_cons_of_mem _ hd, heq⟩
    · obtain h | h := List.mem_cons.1 h
      · cases h
        exact ⟨e, List.mem_cons_self, rfl⟩
      · obtain ⟨d, hd, heq⟩ := ih h
        exact ⟨d, List.mem_cons_of_mem _ hd, heq⟩

/-- An entity whose key is known is assigned the identity that is known for it. -/
theorem id_of_mem_assigned {key : IdentityKey} {e : Entity} (h : (key, e) ∈ assigned known l m)
    {id : String} (hid : knownId? known key = some id) :
  e.id = id
  := by
  induction l generalizing m with
  | nil => contradiction
  | cons p rest ih =>
    obtain ⟨k, d⟩ := p
    rw [assigned] at h
    split at h
    next id' hknown =>
      obtain h | h := List.mem_cons.1 h
      · cases h
        rw [hid] at hknown
        cases hknown
        rfl
      · apply ih h
    next hknown =>
      obtain h | h := List.mem_cons.1 h
      · cases h
        rw [hid] at hknown
        contradiction
      · apply ih h

/-- The entities whose keys are not known are assigned the next tokens one after another. -/
theorem ids_newlyAssigned :
  ((assigned known l m).filter (isNew known)).map (·.2.id)
    = (List.range' m.used (l.countP (isNew known))).map m.token
  := by
  induction l generalizing m with
  | nil => rfl
  | cons p rest ih =>
    obtain ⟨key, e⟩ := p
    rw [assigned]
    split
    next id hknown =>
      have hold : ∀ e, isNew known (key, e) = false := by
        intro e
        simp [isNew, hknown]
      rw [List.filter_cons, hold, if_neg Bool.false_ne_true, ih, List.countP_cons, hold]
      rfl
    next hknown =>
      have hnew : ∀ e, isNew known (key, e) = true := by
        intro e
        simp [isNew, hknown]
      rw [List.filter_cons, hnew, if_pos rfl, List.map_cons, ih, List.countP_cons, hnew, if_pos rfl,
        List.range'_succ, List.map_cons]
      rfl

/-- An entity whose key is not known is assigned a token. -/
theorem exists_token_of_mem_assigned {p : IdentityKey × Entity} (h : p ∈ assigned known l m)
    (hknown : knownId? known p.1 = none) :
  ∃ i, p.2.id = m.token i
  := by
  have hnew : p ∈ (assigned known l m).filter (isNew known) := by
    rw [List.mem_filter]
    exact ⟨h, by simp [isNew, hknown]⟩
  have hid := List.mem_map_of_mem (f := (·.2.id)) hnew
  rw [ids_newlyAssigned] at hid
  obtain ⟨i, -, hi⟩ := List.mem_map.1 hid
  exact ⟨i, hi.symm⟩

/-- Where no token is empty, no entity is assigned the empty identity. -/
theorem id_ne_empty_of_mem_assigned (htokens : ∀ i, m.token i ≠ "") {p : IdentityKey × Entity}
    (h : p ∈ assigned known l m) :
  p.2.id ≠ ""
  := by
  cases hknown : knownId? known p.1 with
  | some id =>
    rw [id_of_mem_assigned h hknown]
    simpa using (Option.filter_eq_some_iff.1 hknown).2
  | none =>
    obtain ⟨i, hi⟩ := exists_token_of_mem_assigned h hknown
    rw [hi]
    apply htokens

end

section

variable {known : List (IdentityKey × String)} {batch : List Entity} {m : Mint}

/-- An identity that is assigned is known, or it is a token. -/
theorem known_or_token_of_mem_assigned {l : List (IdentityKey × Entity)}
    {p : IdentityKey × Entity} (h : p ∈ assigned known l m) :
  (p.1, p.2.id) ∈ known ∨ ∃ i, p.2.id = m.token i
  := by
  cases hknown : knownId? known p.1 with
  | some id =>
    left
    rw [id_of_mem_assigned h hknown]
    rw [knownId?, Option.filter_eq_some_iff] at hknown
    apply mem_of_lookup_eq_some hknown.1
  | none =>
    right
    apply exists_token_of_mem_assigned h hknown

/-- What entities of a batch have with any identity that is known or a token, they have with the
identities that they are assigned. -/
theorem forall_mem_assigned (P : Entity → Prop) (Q : String → Prop)
    (hknown : ∀ p ∈ known, Q p.2) (htoken : ∀ i, Q (m.token i))
    (hbatch : ∀ e ∈ batch, ∀ id, Q id → P (e.withId id)) :
  ∀ e ∈ (assigned known (keyed batch) m).map Prod.snd, P e
  := by
  intro e he
  obtain ⟨⟨key, e'⟩, hp, rfl⟩ := List.mem_map.1 he
  obtain ⟨d, hd, heq⟩ := exists_of_mem_assigned hp
  have hd' : d ∈ batch := by
    rw [← map_snd_keyed batch]
    apply List.mem_map_of_mem hd
  change P e'
  rw [heq]
  apply hbatch d hd'
  obtain hid | ⟨i, hi⟩ := known_or_token_of_mem_assigned hp
  · apply hknown _ hid
  · change e'.id = m.token i at hi
    rw [hi]
    apply htoken i

end

/-! ### Placing -/

theorem placeEntity_of_notMem {stored : List (IdentityKey × Entity)} {p : IdentityKey × Entity}
    (h : p.1 ∉ stored.map Prod.fst) :
  placeEntity stored p = stored ++ [p]
  := by
  induction stored with
  | nil => rfl
  | cons old rest ih =>
    rw [List.map_cons, List.mem_cons, not_or] at h
    rw [placeEntity, if_neg (Ne.symm h.1), ih h.2, List.cons_append]

theorem placeEntity_append {a b : List (IdentityKey × Entity)} {key : IdentityKey} {d e : Entity}
    (h : key ∉ a.map Prod.fst) :
  placeEntity (a ++ (key, d) :: b) (key, e) = a ++ (key, e) :: b
  := by
  induction a with
  | nil => exact if_pos rfl
  | cons old rest ih =>
    rw [List.map_cons, List.mem_cons, not_or] at h
    rw [List.cons_append, placeEntity, if_neg (Ne.symm h.1), ih h.2, List.cons_append]

/-- Putting an entity in the place of the one with its key and its identity leaves all identities
as they are. -/
theorem idsByKey_placeEntity {stored : List (IdentityKey × Entity)} {p : IdentityKey × Entity}
    (h : (idsByKey stored).lookup p.1 = some p.2.id) :
  idsByKey (placeEntity stored p) = idsByKey stored
  := by
  induction stored with
  | nil => contradiction
  | cons old rest ih =>
    rw [idsByKey, List.map_cons, lookup_cons_eq_ite] at h
    rw [placeEntity]
    by_cases hkey : p.1 = old.1
    · rw [if_pos hkey] at h
      rw [if_pos hkey.symm, idsByKey, idsByKey, List.map_cons, List.map_cons, hkey,
        Option.some.inj h]
    · rw [if_neg hkey] at h
      rw [if_neg (Ne.symm hkey), idsByKey, List.map_cons, idsByKey, List.map_cons]
      congr 1
      apply ih h

theorem mem_of_mem_placeEntity {stored : List (IdentityKey × Entity)} {p q : IdentityKey × Entity}
    (h : q ∈ placeEntity stored p) :
  q ∈ stored ∨ q = p
  := by
  induction stored with
  | nil => exact .inr (List.mem_singleton.1 h)
  | cons old rest ih =>
    rw [placeEntity] at h
    split at h
    · obtain rfl | h := List.mem_cons.1 h
      · exact .inr rfl
      · exact .inl (List.mem_cons_of_mem old h)
    · obtain rfl | h := List.mem_cons.1 h
      · exact .inl List.mem_cons_self
      · obtain h | h := ih h
        · exact .inl (List.mem_cons_of_mem old h)
        · exact .inr h

theorem mem_of_mem_foldl_placeEntity {stored r : List (IdentityKey × Entity)}
    {q : IdentityKey × Entity} (h : q ∈ r.foldl placeEntity stored) :
  q ∈ stored ∨ q ∈ r
  := by
  induction r generalizing stored with
  | nil => exact .inl h
  | cons p r ih =>
    obtain h | h := ih h
    · obtain h | rfl := mem_of_mem_placeEntity h
      · exact .inl h
      · exact .inr List.mem_cons_self
    · exact .inr (List.mem_cons_of_mem p h)

/-- Placing entities one after another keeps the identities of the keys that there are and adds
those of the other keys. -/
theorem idsByKey_foldl_placeEntity {stored r : List (IdentityKey × Entity)}
    (hr : (r.map Prod.fst).Nodup)
    (hid : ∀ p ∈ r, p.1 ∈ stored.map Prod.fst → (idsByKey stored).lookup p.1 = some p.2.id) :
  idsByKey (r.foldl placeEntity stored)
    = idsByKey stored ++ idsByKey (r.filter fun p => p.1 ∉ stored.map Prod.fst)
  := by
  induction r generalizing stored with
  | nil => simp [idsByKey]
  | cons p r ih =>
    rw [List.map_cons, List.nodup_cons] at hr
    have hne : ∀ q ∈ r, q.1 ≠ p.1 := by
      intro q hq heq
      apply hr.1
      rw [← heq]
      apply List.mem_map_of_mem hq
    rw [List.foldl_cons]
    by_cases hmem : p.1 ∈ stored.map Prod.fst
    · have hsame := idsByKey_placeEntity (hid p List.mem_cons_self hmem)
      have hkeys : (placeEntity stored p).map Prod.fst = stored.map Prod.fst := by
        rw [← map_fst_idsByKey, hsame, map_fst_idsByKey]
      rw [ih hr.2, hsame, hkeys, List.filter_cons, if_neg (by simpa using hmem)]
      intro q hq hqmem
      rw [hsame]
      rw [hkeys] at hqmem
      apply hid q (List.mem_cons_of_mem p hq) hqmem
    · have hplace := placeEntity_of_notMem hmem
      have hfilter : (r.filter fun q => q.1 ∉ (stored ++ [p]).map Prod.fst)
          = r.filter fun q => q.1 ∉ stored.map Prod.fst := by
        apply List.filter_congr
        intro q hq
        simp [hne q hq]
      rw [hplace, ih hr.2, hfilter, List.filter_cons, if_pos (by simpa using hmem), idsByKey,
        List.map_append, List.append_assoc]
      · rfl
      · intro q hq hqmem
        rw [List.map_append, List.mem_append] at hqmem
        obtain hqmem | hqmem := hqmem
        · rw [idsByKey, List.map_append, List.lookup_append]
          change ((idsByKey stored).lookup q.1).or _ = _
          rw [hid q (List.mem_cons_of_mem p hq) hqmem]
          rfl
        · exact absurd (List.mem_singleton.1 hqmem) (hne q hq)

/-! ### Identities stay distinct -/

/-- The entities of a list after those of a batch are put in. -/
def merged (current : List Entity) (r : List (IdentityKey × Entity)) : List Entity :=
  (r.foldl placeEntity (keyed current)).map Prod.snd

theorem forall_mem_merged {P : Entity → Prop} {current : List Entity}
    {r : List (IdentityKey × Entity)} (hcurrent : ∀ e ∈ current, P e)
    (hr : ∀ e ∈ r.map Prod.snd, P e) :
  ∀ e ∈ merged current r, P e
  := by
  intro e he
  obtain ⟨p, hp, rfl⟩ := List.mem_map.1 he
  obtain hp | hp := mem_of_mem_foldl_placeEntity hp
  · apply hcurrent
    rw [← map_snd_keyed current]
    apply List.mem_map_of_mem hp
  · apply hr _ (List.mem_map_of_mem hp)

/-- The identity is a token that was taken from the supply. -/
def Mint.Issued (m : Mint) (id : String) : Prop :=
  ∃ i < m.used, id = m.token i

theorem Mint.Issued.skip {m : Mint} {id : String} (h : m.Issued id) (n : Nat) :
  (m.skip n).Issued id
  := by
  obtain ⟨i, hi, rfl⟩ := h
  exact ⟨i, Nat.lt_add_right n hi, rfl⟩

section

variable {current batch : List Entity} {m : Mint}

/-- How many tokens a batch takes. -/
def newCount (current batch : List Entity) : Nat :=
  (keyed batch).countP (isNew (knownIds current))

/-- The identities that the entities of a batch get which have none yet. -/
def newIds (current batch : List Entity) (m : Mint) : List String :=
  (List.range' m.used (newCount current batch)).map m.token

theorem nodup_newIds (hm : Function.Injective m.token) :
  (newIds current batch m).Nodup
  := List.Nodup.map hm List.nodup_range'

theorem not_issued_of_mem_newIds (hm : Function.Injective m.token) {id : String}
    (h : id ∈ newIds current batch m) :
  ¬ m.Issued id
  := by
  obtain ⟨i, hi, rfl⟩ := List.mem_map.1 h
  rintro ⟨j, hj, heq⟩
  have hij := hm heq
  rw [List.mem_range'_1] at hi
  omega

theorem issued_of_mem_newIds {id : String} (h : id ∈ newIds current batch m) :
  (m.skip (newCount current batch)).Issued id
  := by
  obtain ⟨i, hi, rfl⟩ := List.mem_map.1 h
  rw [List.mem_range'_1] at hi
  exact ⟨i, hi.2, rfl⟩

theorem nodup_map_fst_assigned (known : List (IdentityKey × String)) (batch : List Entity)
    (m : Mint) :
  ((assigned known (keyed batch) m).map Prod.fst).Nodup
  := by
  rw [map_fst_assigned]
  apply nodup_keyed

/-- The identities after a batch is put in: those there were, and the new ones. -/
theorem map_id_merged (hid : ∀ e ∈ current, e.id ≠ "") :
  (merged current (assigned (knownIds current) (keyed batch) m)).map (·.id)
    = current.map (·.id) ++ newIds current batch m
  := by
  have hnew : ∀ p : IdentityKey × Entity,
      decide (p.1 ∉ (keyed current).map Prod.fst) = isNew (knownIds current) p := by
    intro p
    rw [map_fst_keyed, isNew, Bool.eq_iff_iff, decide_eq_true_eq, Option.isNone_iff_eq_none,
      knownId?_eq_none_iff hid]
  have hlookup : ∀ p ∈ assigned (knownIds current) (keyed batch) m,
      p.1 ∈ (keyed current).map Prod.fst →
        (idsByKey (keyed current)).lookup p.1 = some p.2.id := by
    rintro ⟨key, e⟩ hp hkey
    rw [map_fst_keyed] at hkey
    cases hknown : knownId? (knownIds current) key with
    | none => exact absurd hkey ((knownId?_eq_none_iff hid).1 hknown)
    | some id =>
      rw [id_of_mem_assigned hp hknown, ← knownIds_eq]
      exact (Option.filter_eq_some_iff.1 hknown).1
  have hids := idsByKey_foldl_placeEntity (nodup_map_fst_assigned _ batch m) hlookup
  have hnewIds : ((assigned (knownIds current) (keyed batch) m).filter
      (isNew (knownIds current))).map (·.2.id) = newIds current batch m := ids_newlyAssigned
  simp only [hnew] at hids
  rw [merged, ← map_snd_idsByKey, hids, List.map_append, map_snd_idsByKey, map_snd_keyed,
    map_snd_idsByKey, List.map_map]
  apply congrArg _ hnewIds

theorem mem_ids_merged (hid : ∀ e ∈ current, e.id ≠ "") {e : Entity}
    (h : e ∈ merged current (assigned (knownIds current) (keyed batch) m)) :
  e.id ∈ current.map (·.id) ∨ e.id ∈ newIds current batch m
  := by
  rw [← List.mem_append, ← map_id_merged hid]
  apply List.mem_map_of_mem h

/-- Identities that differ stay different when a batch is merged with the entities. -/
theorem nodup_ids_merged (hm : Function.Injective m.token) (hid : ∀ e ∈ current, e.id ≠ "")
    (hissued : ∀ e ∈ current, m.Issued e.id) (hn : (current.map (·.id)).Nodup) :
  ((merged current (assigned (knownIds current) (keyed batch) m)).map (·.id)).Nodup
  := by
  rw [map_id_merged hid, List.nodup_append]
  refine ⟨hn, nodup_newIds hm, ?_⟩
  rintro id hold _ hnew rfl
  obtain ⟨e, he, rfl⟩ := List.mem_map.1 hold
  apply not_issued_of_mem_newIds hm hnew (hissued e he)

/-- An identity that is assigned is one there was, or a new one. -/
theorem mem_or_mem_of_mem_assigned (hid : ∀ e ∈ current, e.id ≠ "") {p : IdentityKey × Entity}
    (h : p ∈ assigned (knownIds current) (keyed batch) m) :
  (p.1, p.2.id) ∈ knownIds current ∨
    (isNew (knownIds current) p = true ∧ p.2.id ∈ newIds current batch m)
  := by
  cases hknown : knownId? (knownIds current) p.1 with
  | some id =>
    left
    rw [id_of_mem_assigned h hknown]
    exact (knownId?_eq_some_iff hid).1 hknown
  | none =>
    right
    have hnew : isNew (knownIds current) p = true := by simp [isNew, hknown]
    use hnew
    rw [newIds, newCount, ← ids_newlyAssigned]
    apply List.mem_map_of_mem (List.mem_filter.2 ⟨h, hnew⟩)

theorem mem_ids_assigned (hid : ∀ e ∈ current, e.id ≠ "") {e : Entity}
    (h : e ∈ (assigned (knownIds current) (keyed batch) m).map Prod.snd) :
  e.id ∈ current.map (·.id) ∨ e.id ∈ newIds current batch m
  := by
  obtain ⟨p, hp, rfl⟩ := List.mem_map.1 h
  obtain hknown | ⟨-, hnew⟩ := mem_or_mem_of_mem_assigned hid hp
  · left
    rw [← map_snd_knownIds]
    apply List.mem_map_of_mem hknown
  · exact .inr hnew

/-- The identities that the entities of a batch are assigned differ. -/
theorem nodup_ids_assigned (hm : Function.Injective m.token) (hid : ∀ e ∈ current, e.id ≠ "")
    (hissued : ∀ e ∈ current, m.Issued e.id) (hn : (current.map (·.id)).Nodup) :
  (((assigned (knownIds current) (keyed batch) m).map Prod.snd).map (·.id)).Nodup
  := by
  have hkeys := nodup_map_fst_assigned (knownIds current) batch m
  have hsnd : ((knownIds current).map Prod.snd).Nodup := by rwa [map_snd_knownIds]
  have hissued' := forall_mem_knownIds m.Issued hissued
  rw [List.map_map]
  apply List.Nodup.map_on _ hkeys.of_map
  intro p hp q hq heq
  change p.2.id = q.2.id at heq
  obtain hp' | ⟨hpnew, hp'⟩ := mem_or_mem_of_mem_assigned hid hp
  · obtain hq' | ⟨-, hq'⟩ := mem_or_mem_of_mem_assigned hid hq
    · have hpair := List.inj_on_of_nodup_map hsnd hp' hq' heq
      apply List.inj_on_of_nodup_map hkeys hp hq (Prod.mk.inj hpair).1
    · rw [← heq] at hq'
      exact absurd (hissued' _ hp') (not_issued_of_mem_newIds hm hq')
  · obtain hq' | ⟨hqnew, -⟩ := mem_or_mem_of_mem_assigned hid hq
    · rw [heq] at hp'
      exact absurd (hissued' _ hq') (not_issued_of_mem_newIds hm hp')
    · have hfresh : (newIds current batch m).Nodup := nodup_newIds hm
      rw [newIds, newCount, ← ids_newlyAssigned] at hfresh
      apply List.inj_on_of_nodup_map hfresh (List.mem_filter.2 ⟨hp, hpnew⟩)
        (List.mem_filter.2 ⟨hq, hqnew⟩) heq

end

/-! ### Merging and replacing -/

/-- The manner in which a batch is put among the entities of a kind: each of its entities in the
place of the one with its key, or all of them in the place of all. -/
inductive Manner
  | merge
  | replace

namespace Manner

/-- The entities of a kind after a batch with its identities is put among them. -/
def result : Manner → List Entity → List (IdentityKey × Entity) → List Entity
  | merge, current, r => merged current r
  | replace, _, r => r.map Prod.snd

section

variable (manner : Manner) {current batch : List Entity} {m : Mint}

theorem forall_mem_result {P : Entity → Prop} {r : List (IdentityKey × Entity)}
    (hcurrent : ∀ e ∈ current, P e) (hr : ∀ e ∈ r.map Prod.snd, P e) :
  ∀ e ∈ manner.result current r, P e
  := by
  cases manner with
  | merge => exact forall_mem_merged hcurrent hr
  | replace => exact hr

/-- An identity after a batch is put in is one there was, or a new one. -/
theorem mem_ids_result (hid : ∀ e ∈ current, e.id ≠ "") {e : Entity}
    (h : e ∈ manner.result current (assigned (knownIds current) (keyed batch) m)) :
  e.id ∈ current.map (·.id) ∨ e.id ∈ newIds current batch m
  := by
  cases manner with
  | merge => exact mem_ids_merged hid h
  | replace => exact mem_ids_assigned hid h

/-- Identities that differ stay different when a batch is put in. -/
theorem nodup_ids_result (hm : Function.Injective m.token) (hid : ∀ e ∈ current, e.id ≠ "")
    (hissued : ∀ e ∈ current, m.Issued e.id) (hn : (current.map (·.id)).Nodup) :
  ((manner.result current (assigned (knownIds current) (keyed batch) m)).map (·.id)).Nodup
  := by
  cases manner with
  | merge => exact nodup_ids_merged hm hid hissued hn
  | replace => exact nodup_ids_assigned hm hid hissued hn

end

end Manner

end AnchorIndex.Store

import AnchorIndex.Proofs.Store.Fresh
import AnchorIndex.Proofs.Store.Runs

/-!
# Upserting one entity

An entity that is put into the store alone takes the place and the identity of the first stored
entity with its logical key (`Placed`), whichever of these it is meant to be. As long as the store
is not opened again, its entities stand in the order in which they are listed (`Lists`).

So upserting an entity twice does the same as doing it once exactly if no other stored entity with
its logical key starts before it, and upserting a stored entity changes nothing exactly if it is
the first one with its logical key (`upsert_idempotent_iff`).
-/

namespace AnchorIndex.Store

open Effect

/-! ### The first key -/

/-- The identity key of an entity that is alone. -/
def firstKey (e : Entity) : IdentityKey :=
  ⟨e.logicalKey, 0⟩

theorem keyed_singleton (e : Entity) :
  keyed [e] = [(firstKey e, e)]
  := rfl

section

variable {e d : Entity} {front back es : List Entity}

/-- The first entity with a logical key has the first key. -/
theorem keyed_append (h : LineOrdered (front ++ d :: back))
    (hfront : namesakes e.logicalKey front = []) (hd : d.logicalKey = e.logicalKey) :
  ∃ a b, keyed (front ++ d :: back) = a ++ (firstKey e, d) :: b ∧ firstKey e ∉ a.map Prod.fst ∧
    a.map Prod.snd = front ∧ b.map Prod.snd = back
  := by
  obtain ⟨a, b, hkeyed, ha, hb⟩ := zip_identityKeys_append front d back
  have hordinal : d.ordinal front back = 0 := by
    rw [Entity.ordinal_eq_zero_iff h, hd]
    apply namesakes_eq_nil_iff.1 hfront
  rw [hd, hordinal] at hkeyed
  have hnodup := nodup_keyed (front ++ d :: back)
  refine ⟨a, b, hkeyed, ?_, ha, hb⟩
  rw [show keyed (front ++ d :: back) = a ++ (firstKey e, d) :: b from hkeyed, List.map_append,
    List.nodup_append] at hnodup
  intro hmem
  apply hnodup.2.2 _ hmem _ List.mem_cons_self rfl

theorem firstKey_notMem (h : namesakes e.logicalKey es = []) :
  firstKey e ∉ (keyed es).map Prod.fst
  := by
  intro hmem
  obtain ⟨⟨key, d⟩, hp, hkey⟩ := List.mem_map.1 hmem
  obtain ⟨front, back, rfl, rfl⟩ := mem_zip_identityKeys.1 hp
  injection hkey with hbase
  apply namesakes_eq_nil_iff.1 h d (List.mem_append_right front List.mem_cons_self) hbase

end

/-! ### Placing one entity -/

/-- How an entity is placed in a list: in the place of the first entity with its logical key and
with its identity, or at the end with a token. -/
inductive Placed (e : Entity) (token : String) : List Entity → Entity → List Entity → Prop
  | new {es} (h : namesakes e.logicalKey es = []) :
      Placed e token es (e.withId token) (es ++ [e.withId token])
  | old {front d back} (hfront : namesakes e.logicalKey front = [])
      (hd : d.logicalKey = e.logicalKey) :
      Placed e token (front ++ d :: back) (e.withId d.id) (front ++ e.withId d.id :: back)

/-- An entity that is put in alone is placed. -/
theorem exists_placed {es : List Entity} (h : LineOrdered es) (hid : ∀ d ∈ es, d.id ≠ "")
    (e : Entity) (m : Mint) :
  ∃ e', (assigned (knownIds es) (keyed [e]) m).map Prod.snd = [e'] ∧
    Placed e (m.token m.used) es e' (merged es (assigned (knownIds es) (keyed [e]) m))
  := by
  rw [keyed_singleton]
  simp only [assigned]
  cases hnamesakes : namesakes e.logicalKey es with
  | nil =>
    have hkey := firstKey_notMem hnamesakes
    have hknown : knownId? (knownIds es) (firstKey e) = none := by
      rw [knownId?_eq_none_iff hid, ← map_fst_keyed]
      apply hkey
    rw [hknown]
    refine ⟨e.withId (m.token m.used), rfl, ?_⟩
    rw [merged, List.foldl_cons, List.foldl_nil, placeEntity_of_notMem hkey, List.map_append,
      map_snd_keyed]
    exact .new hnamesakes
  | cons d rest =>
    obtain ⟨front, back, rfl, hfront, hd, -⟩ := namesakes_eq_cons_iff.1 hnamesakes
    obtain ⟨a, b, hkeyed, hkey, ha, hb⟩ := keyed_append h hfront hd
    have hknown : knownId? (knownIds (front ++ d :: back)) (firstKey e) = some d.id := by
      rw [knownId?_eq_some_iff hid, knownIds_eq, hkeyed, idsByKey, List.map_append]
      apply List.mem_append_right _ List.mem_cons_self
    rw [hknown]
    refine ⟨e.withId d.id, rfl, ?_⟩
    rw [merged, List.foldl_cons, List.foldl_nil, hkeyed, placeEntity_append hkey, List.map_append,
      List.map_cons, ha, hb]
    exact .old hfront hd

namespace Placed

variable {e e' : Entity} {token : String} {es es' : List Entity}

theorem logicalKey_eq (h : Placed e token es e' es') :
  e'.logicalKey = e.logicalKey
  := by
  cases h <;> rfl

theorem withId_id (h : Placed e token es e' es') :
  e.withId e'.id = e'
  := by
  cases h <;> rfl

/-- A placed entity is the first one with its logical key. -/
theorem namesakes_eq (h : Placed e token es e' es') :
  namesakes e.logicalKey es' = e' :: (namesakes e.logicalKey es).tail
  := by
  have hkey := h.logicalKey_eq
  cases h with
  | new hnone =>
    rw [namesakes_append, hnone, List.nil_append, namesakes_cons_self hkey]
    rfl
  | old hfront hd =>
    rw [namesakes_append, hfront, List.nil_append, namesakes_cons_self hkey, namesakes_append,
      hfront, List.nil_append, namesakes_cons_self hd]
    rfl

/-- It takes the identity of the entity that was the first one. -/
theorem eq_of_head? (h : Placed e token es e' es') {d : Entity}
    (hd : (namesakes e.logicalKey es).head? = some d) :
  e' = e.withId d.id
  := by
  cases h with
  | new hnone =>
    rw [hnone] at hd
    contradiction
  | old hfront hd' =>
    rw [namesakes_append, hfront, List.nil_append, namesakes_cons_self hd'] at hd
    cases hd
    rfl

/-- Placing the entity that is the first one changes nothing. -/
theorem eq_self_of_head? (h : Placed e token es e' es')
    (hd : (namesakes e.logicalKey es).head? = some e') :
  es' = es
  := by
  cases h with
  | new hnone =>
    rw [hnone] at hd
    contradiction
  | old hfront hd' =>
    rw [namesakes_append, hfront, List.nil_append, namesakes_cons_self hd'] at hd
    rw [← Option.some.inj hd]

theorem first_eq (h : Placed e token es e' es') :
  e'.first = e.first
  := by
  cases h <;> rfl

/-- The entities of a logical key are in order with the placed one in front if it does not start
after another one. -/
theorem isListed_namesakes (h : Placed e token es e' es') (hlisted : IsListed es)
    (hle : ∀ d ∈ (namesakes e.logicalKey es).tail, e.first ≤ d.first) :
  IsListed (namesakes e.logicalKey es')
  := by
  rw [h.namesakes_eq, IsListed, List.pairwise_cons]
  constructor
  · intro d hd
    have hkey := (mem_namesakes.1 (List.mem_of_mem_tail hd)).2
    rw [Entity.listedBefore_iff_of_logicalKey_eq (h.logicalKey_eq.trans hkey.symm), h.first_eq]
    apply hle d hd
  · have hnamesakes : IsListed (namesakes e.logicalKey es) :=
      hlisted.sublist List.filter_sublist
    apply hnamesakes.sublist (List.tail_sublist _)

/-- Placing an entity leaves a list in order as it is exactly if the entity is the first one with
its logical key. -/
theorem listed_eq_self_iff (h : Placed e token es e' es') (hlisted : IsListed es) :
  listed es' = es ↔ (namesakes e.logicalKey es).head? = some e'
  := by
  constructor
  · intro heq
    have hperm : (namesakes e.logicalKey es).Perm (e' :: (namesakes e.logicalKey es).tail) := by
      rw [← h.namesakes_eq, ← heq]
      apply (listed_perm es').filter
    cases hnamesakes : namesakes e.logicalKey es with
    | nil =>
      rw [hnamesakes] at hperm
      exact absurd hperm.length_eq (by simp)
    | cons d rest =>
      rw [hnamesakes] at hperm
      have hfirst : [d].Perm [e'] := (List.perm_append_right_iff rest).1 hperm
      rw [List.head?_cons, List.singleton_perm_singleton.1 hfirst]
  · intro hhead
    rw [h.eq_self_of_head? hhead, listed_eq_self hlisted]

/-- Placing an entity that the list already has leaves the list as it is, and finds this entity,
exactly if it is the first one with its logical key. -/
theorem listed_eq_and_eq_iff (h : Placed e token es e' es') (hlisted : IsListed es) {m : Entity}
    (hm : e.withId m.id = m) :
  listed es' = es ∧ e' = m ↔ (namesakes e.logicalKey es).head? = some m
  := by
  constructor
  · rintro ⟨heq, rfl⟩
    apply (h.listed_eq_self_iff hlisted).1 heq
  · intro hhead
    have he' : e' = m := by rw [h.eq_of_head? hhead, hm]
    rw [h.listed_eq_self_iff hlisted, he']
    exact ⟨hhead, rfl⟩

variable {e₁ e₂ : Entity} {token₁ token₂ : String} {es₁ es₂ : List Entity}

/-- Placing an entity again in the list that placing it has left does nothing, and gives it the
same identity, exactly if no other entity with its logical key starts before it. -/
theorem listed_eq_and_id_eq_iff (h₁ : Placed e token₁ es e₁ es₁)
    (h₂ : Placed e token₂ (listed es₁) e₂ es₂) (hlisted : IsListed es) :
  listed es₂ = listed es₁ ∧ e₂.id = e₁.id
    ↔ ∀ d ∈ (namesakes e.logicalKey es).tail, e.first ≤ d.first
  := by
  have hlisted₁ := isListed_listed es₁
  constructor
  · rintro ⟨heq, -⟩
    have hhead := (h₂.listed_eq_self_iff hlisted₁).1 heq
    obtain ⟨rest, hnamesakes⟩ := List.head?_eq_some_iff.1 hhead
    intro d hd
    have hmem : d ∈ namesakes e.logicalKey (listed es₁) := by
      have hperm : (namesakes e.logicalKey (listed es₁)).Perm (namesakes e.logicalKey es₁) :=
        (listed_perm es₁).filter _
      rw [hperm.mem_iff, h₁.namesakes_eq]
      apply List.mem_cons_of_mem e₁ hd
    rw [← h₂.first_eq]
    rw [hnamesakes] at hmem
    obtain rfl | hmem := List.mem_cons.1 hmem
    · apply Nat.le_refl
    · apply hlisted₁.first_le hnamesakes hmem
  · intro hle
    have hnamesakes : namesakes e.logicalKey (listed es₁)
        = e₁ :: (namesakes e.logicalKey es).tail := by
      rw [namesakes_listed (h₁.isListed_namesakes hlisted hle), h₁.namesakes_eq]
    have hhead : (namesakes e.logicalKey (listed es₁)).head? = some e₁ := by
      rw [hnamesakes, List.head?_cons]
    obtain ⟨heq, he₂⟩ := (h₂.listed_eq_and_eq_iff hlisted₁ h₁.withId_id).2 hhead
    rw [he₂]
    exact ⟨heq, rfl⟩

end Placed

/-! ### Lists of a store -/

/-- The store holds these entities in the order in which they are listed, and none of them is
without identity. -/
structure Lists (s : State) (es : Kind → List Entity) : Prop where
  usable : s.Usable
  indexed : s.Indexed
  token_ne_empty : ∀ i, s.mint.token i ≠ ""
  stored : ∀ kind, s.stored kind = .ok (es kind)
  id_ne_empty : ∀ kind, ∀ e ∈ es kind, e.id ≠ ""
  isListed : ∀ kind, IsListed (es kind)

namespace Lists

variable {s s' : State} {es : Kind → List Entity} {kind : Kind}

theorem congr (h : Lists s es) (husable : s'.Usable) (hindexed : s'.Indexed)
    (hmint : s'.mint = s.mint) (hstored : ∀ kind, s'.stored kind = s.stored kind) :
  Lists s' es
  := by
  refine ⟨husable, hindexed, ?_, ?_, h.id_ne_empty, h.isListed⟩
  · rw [hmint]
    apply h.token_ne_empty
  · intro kind
    rw [hstored, h.stored]

/-- The entities of a kind after a batch is put among them are listed. -/
theorem put (h : Lists s es) (manner : Manner) {batch : List Entity}
    (hsaved : Saved s s' kind
      (listed (manner.result (es kind) (assigned (knownIds (es kind)) (keyed batch) s.mint)))
      (newCount (es kind) batch)) :
  Lists s' (Function.update es kind
    (listed (manner.result (es kind) (assigned (knownIds (es kind)) (keyed batch) s.mint))))
  := by
  refine ⟨hsaved.wrote.usable, hsaved.indexed, ?_, hsaved.stored_update h.stored, ?_, ?_⟩
  · rw [hsaved.mint]
    apply h.token_ne_empty
  · rw [Function.forall_update_iff es fun _ l => ∀ e ∈ l, e.id ≠ ""]
    refine ⟨?_, fun k _ => h.id_ne_empty k⟩
    intro e he
    apply manner.forall_mem_result (h.id_ne_empty kind) _ e (mem_listed.1 he)
    apply forall_mem_assigned (·.id ≠ "") (· ≠ "")
      (forall_mem_knownIds (· ≠ "") (h.id_ne_empty kind)) h.token_ne_empty
    intro e' _ id hid
    apply hid
  · rw [Function.forall_update_iff es fun _ l => IsListed l]
    exact ⟨isListed_listed _, fun k _ => h.isListed k⟩

/-- Entities stay listed in order, unless the store is opened again. -/
theorem change (h : Lists s es) {o : Operation} (hchange : Change o s s') (ho : o ≠ .reopen) :
  ∃ es', Lists s' es'
  := by
  have husable := hchange.usable h.usable
  have hindexed := hchange.indexed h.usable h.indexed
  cases hchange with
  | load hload =>
    use es
    apply h.congr husable hindexed hload.mint hload.stored_eq
  | index _ =>
    use es
    apply h.congr husable hindexed rfl fun _ => rfl
  | put manner hcurrent _ hsaved =>
    rw [h.stored] at hcurrent
    cases hcurrent
    exact ⟨_, h.put manner hsaved⟩
  | record hrecord =>
    have haside := hrecord.aside h.usable
    use es
    apply h.congr husable hindexed haside.mint haside.stored_eq
  | reopen heq => exact absurd heq ho

end Lists

theorem State.IsFresh.lists {s : State} (h : s.IsFresh) (htokens : ∀ i, s.mint.token i ≠ "") :
  Lists s fun _ => []
  := by
  refine ⟨h.usable, ?_, htokens, h.stored_eq, ?_, ?_⟩
  · intro index hindex
    rw [h.memory_eq] at hindex
    contradiction
  · intro kind e he
    contradiction
  · intro kind
    apply List.Pairwise.nil

/-- After every run from a fresh store in which it is not opened again, entities are listed in
order. -/
theorem lists_afterAll {s : State} (h : s.IsFresh) (htokens : ∀ i, s.mint.token i ≠ "")
    {ops : List Operation} (hops : ∀ o ∈ ops, o ≠ .reopen) :
  ∃ es, Lists (s.afterAll ops) es
  := by
  apply preserved_afterAll (P := fun s => ∃ es, Lists s es)
  · rintro s ⟨es, hs⟩
    apply hs.usable
  · rintro s ⟨es, hs⟩
    apply hs.indexed
  · rintro o ho s s' hchange ⟨es, hs⟩
    apply hs.change hchange (hops o ho)
  · exact ⟨_, h.lists htokens⟩

/-! ### Upserting in a store -/

section

variable {s : State} {es : Kind → List Entity} {kind : Kind} {e : Entity}

/-- Upserting an entity places it among those of its kind. -/
theorem Lists.upsert (h : Lists s es) (he : e.kind = kind) :
  ∃ e' es', answer (upsert kind e) s = .ok [e'] ∧
    Placed e (s.mint.token s.mint.used) (es kind) e' es' ∧
    Lists (after (upsert kind e) s) (Function.update es kind (listed es'))
  := by
  have hkind : ∀ d ∈ [e], d.kind = kind := by
    intro d hd
    rw [List.mem_singleton.1 hd, he]
  obtain ⟨e', hassigned, hplaced⟩ :=
    exists_placed (h.isListed kind).lineOrdered (h.id_ne_empty kind) e s.mint
  obtain ⟨s', hrun, hsaved⟩ := Manner.merge.run_put h.usable (h.stored kind) hkind
  have hupsert : run (Store.upsert kind e) s = (.ok [e'], s') := by
    rw [← hassigned]
    apply hrun
  refine ⟨e', _, ?_, hplaced, ?_⟩
  · rw [answer, hupsert]
  · rw [after, hupsert]
    apply h.put .merge hsaved

/-- When upserting an entity twice is the same as once, and when upserting a stored entity changes
nothing. -/
theorem Lists.upsert_iff (h : Lists s es) (he : e.kind = kind) :
  ∃ e₁ l₁ e₂ l₂,
    answer (Store.upsert kind e) s = .ok [e₁] ∧
    answer (all kind) (after (Store.upsert kind e) s) = .ok l₁ ∧
    answer (Store.upsert kind e) (after (Store.upsert kind e) s) = .ok [e₂] ∧
    answer (all kind) (after (Store.upsert kind e) (after (Store.upsert kind e) s)) = .ok l₂ ∧
    (l₂ = l₁ ∧ e₂.id = e₁.id
      ↔ ∀ d ∈ (namesakes e.logicalKey (es kind)).tail, e.first ≤ d.first) ∧
    ∀ m ∈ es kind, e.withId m.id = m →
      (l₁ = es kind ∧ e₁ = m ↔ (namesakes e.logicalKey (es kind)).head? = some m)
  := by
  obtain ⟨e₁, es₁, hanswer₁, hplaced₁, h₁⟩ := h.upsert he
  have hstored₁ := h₁.stored kind
  rw [Function.update_self] at hstored₁
  obtain ⟨e₂, es₂, hanswer₂, hplaced₂, h₂⟩ := h₁.upsert he
  have hstored₂ := h₂.stored kind
  rw [Function.update_self] at hstored₂ hplaced₂
  refine ⟨e₁, listed es₁, e₂, listed es₂, hanswer₁, ?_, hanswer₂, ?_, ?_, ?_⟩
  · rw [answer_all, hstored₁]
  · rw [answer_all, hstored₂]
  · apply hplaced₁.listed_eq_and_id_eq_iff hplaced₂ (h.isListed kind)
  · intro m _ hm
    apply hplaced₁.listed_eq_and_eq_iff (h.isListed kind) hm

/-- Upserting an entity after a run from a fresh store in which it is not opened again. Upserting it
twice leaves what upserting it once leaves, and gives it the same identity, exactly if no stored
entity with its logical key, but for the first one, starts before it. Upserting an entity that is
stored leaves all as it is, and answers the stored entity, exactly if this is the first one with its
logical key. -/
theorem upsert_idempotent_iff (h : s.IsFresh) (htokens : ∀ i, s.mint.token i ≠ "")
    {ops : List Operation} (hops : ∀ o ∈ ops, o ≠ .reopen) (he : e.kind = kind) :
  ∃ l e₁ l₁ e₂ l₂,
    answer (all kind) (s.afterAll ops) = .ok l ∧
    answer (upsert kind e) (s.afterAll ops) = .ok [e₁] ∧
    answer (all kind) (after (upsert kind e) (s.afterAll ops)) = .ok l₁ ∧
    answer (upsert kind e) (after (upsert kind e) (s.afterAll ops)) = .ok [e₂] ∧
    answer (all kind) (after (upsert kind e) (after (upsert kind e) (s.afterAll ops))) = .ok l₂ ∧
    (l₂ = l₁ ∧ e₂.id = e₁.id ↔ ∀ d ∈ (namesakes e.logicalKey l).tail, e.first ≤ d.first) ∧
    ∀ m ∈ l, e.withId m.id = m →
      (l₁ = l ∧ e₁ = m ↔ (namesakes e.logicalKey l).head? = some m)
  := by
  obtain ⟨es, hes⟩ := lists_afterAll h htokens hops
  obtain ⟨e₁, l₁, e₂, l₂, h₁, hl₁, h₂, hl₂, htwice, hstored⟩ := hes.upsert_iff he
  refine ⟨es kind, e₁, l₁, e₂, l₂, ?_, h₁, hl₁, h₂, hl₂, htwice, hstored⟩
  rw [answer_all, hes.stored]

end

/-! ### Two variants of a function -/

/-- The first of two functions of one logical key. -/
def firstVariant : Entity := feeFunction 1 2

/-- The second of two functions of one logical key. -/
def secondVariant : Entity := feeFunction 6 2

/-- A run that puts the two functions into the store at once. -/
def feeVariants : List Operation :=
  [.upsertMany .function [firstVariant, secondVariant]]

theorem upsert_idempotent_iff_secondVariant :
  emptyStore.IsFresh ∧ (∀ i, emptyStore.mint.token i ≠ "") ∧
    (∀ o ∈ feeVariants, o ≠ .reopen) ∧ secondVariant.kind = .function ∧
    ∃ l e₁ l₁,
      answer (all .function) (emptyStore.afterAll feeVariants) = .ok l ∧
      answer (upsert .function secondVariant) (emptyStore.afterAll feeVariants) = .ok [e₁] ∧
      answer (all .function)
        (after (upsert .function secondVariant) (emptyStore.afterAll feeVariants)) = .ok l₁ ∧
      ∀ m ∈ l, secondVariant.withId m.id = m →
        (l₁ = l ∧ e₁ = m ↔ (namesakes secondVariant.logicalKey l).head? = some m)
  := by
  have hops : ∀ o ∈ feeVariants, o ≠ .reopen := by
    intro o ho
    rw [List.mem_singleton.1 ho]
    intro heq
    contradiction
  have htokens := isLawful_emptyStore.ne_empty
  have hkind : secondVariant.kind = .function := rfl
  obtain ⟨l, e₁, l₁, _, _, hl, he₁, hl₁, -, -, -, hstored⟩ :=
    upsert_idempotent_iff isFresh_emptyStore htokens hops hkind
  exact ⟨isFresh_emptyStore, htokens, hops, hkind, l, e₁, l₁, hl, he₁, hl₁, hstored⟩

/-- The two functions as they are stored. -/
def storedVariants : List Entity :=
  [firstVariant.withId (emptyStore.mint.token 0), secondVariant.withId (emptyStore.mint.token 1)]

theorem lists_feeVariants :
  Lists (emptyStore.afterAll feeVariants)
    (Function.update (fun _ => []) .function storedVariants)
  := by
  have h := isFresh_emptyStore.lists isLawful_emptyStore.ne_empty
  let o : Operation := .upsertMany .function [firstVariant, secondVariant]
  have hkind : ∀ e ∈ o.entitiesIn, e.kind = .function := by decide +kernel
  obtain ⟨s', hrun, hsaved⟩ := Manner.merge.run_put h.usable (h.stored .function) hkind
  have hresult :
      Manner.merge.result [] (assigned (knownIds []) (keyed o.entitiesIn) emptyStore.mint)
        = storedVariants := by
    decide +kernel
  have hlisted : IsListed storedVariants := by
    rw [IsListed]
    decide +kernel
  have hput := h.put .merge hsaved
  rw [hresult, listed_eq_self hlisted] at hput
  have hafter : emptyStore.afterAll feeVariants = s' := by
    change (run (Manner.merge.put .function o.entitiesIn) emptyStore).2 = s'
    rw [hrun]
  rwa [hafter]

/-- Upserting the second function, which is stored, does not leave all as it is, and upserting a
third one twice does not do the same as upserting it once. -/
theorem upsert_not_idempotent :
  (∃ l m e₁ l₁,
    answer (all .function) (emptyStore.afterAll feeVariants) = .ok l ∧ m ∈ l ∧
    secondVariant.withId m.id = m ∧
    answer (upsert .function secondVariant) (emptyStore.afterAll feeVariants) = .ok [e₁] ∧
    answer (all .function)
      (after (upsert .function secondVariant) (emptyStore.afterAll feeVariants)) = .ok l₁ ∧
    ¬ (l₁ = l ∧ e₁ = m)) ∧
  ∃ e e₁ l₁ e₂ l₂,
    e.kind = .function ∧
    answer (upsert .function e) (emptyStore.afterAll feeVariants) = .ok [e₁] ∧
    answer (all .function) (after (upsert .function e) (emptyStore.afterAll feeVariants))
      = .ok l₁ ∧
    answer (upsert .function e) (after (upsert .function e) (emptyStore.afterAll feeVariants))
      = .ok [e₂] ∧
    answer (all .function)
      (after (upsert .function e) (after (upsert .function e) (emptyStore.afterAll feeVariants)))
      = .ok l₂ ∧
    ¬ (l₂ = l₁ ∧ e₂.id = e₁.id)
  := by
  obtain ⟨es, h, hes⟩ : ∃ es : Kind → List Entity,
      Lists (emptyStore.afterAll feeVariants) es ∧ es .function = storedVariants :=
    ⟨_, lists_feeVariants, Function.update_self _ _ _⟩
  constructor
  · obtain ⟨e₁, l₁, _, _, he₁, hl₁, -, -, -, hstored⟩ :=
      h.upsert_iff (show secondVariant.kind = .function from rfl)
    rw [hes] at hstored
    let m := secondVariant.withId (emptyStore.mint.token 1)
    have hm : m ∈ storedVariants := List.mem_cons_of_mem _ List.mem_cons_self
    refine ⟨storedVariants, m, e₁, l₁, ?_, hm, rfl, he₁, hl₁, ?_⟩
    · rw [answer_all, h.stored, hes]
    · rw [hstored m hm rfl]
      decide +kernel
  · let e := feeFunction 7 1
    obtain ⟨e₁, l₁, e₂, l₂, he₁, hl₁, he₂, hl₂, htwice, -⟩ :=
      h.upsert_iff (show e.kind = .function from rfl)
    refine ⟨e, e₁, l₁, e₂, l₂, rfl, he₁, hl₁, he₂, hl₂, ?_⟩
    rw [htwice, hes]
    decide +kernel

end AnchorIndex.Store

import AnchorIndex.Proofs.Store.Documents
import AnchorIndex.Proofs.Store.Fresh
import AnchorIndex.Proofs.Store.Runs
import Mathlib.Data.List.Perm.Subperm

/-!
# Replacing the entities of a kind again

Listing a batch leaves the key of each entity as it is (`keyed_listed`), since entities of one line
keep their order. Hence a batch that takes the place of all entities of a kind finds every key
again if it is put in once more, and so does a batch in another order if no two of its entities
share path, name and first line (`keyed_perm`).

So replacing the entities of a kind by the same batch again answers the same entities, takes no
token and writes the same text (`replaceAll_again`).
-/

namespace AnchorIndex

/-! ### Ranks after listing -/

namespace Entity

variable {a d e : Entity} {front back l m : List Entity}

/-- Whether an entity starts before another one or not after it makes no difference unless they
share logical key and first line. -/
theorem hasUpTo_eq_hasBefore (h : d.logicalKey = e.logicalKey → d.first ≠ e.first) :
  e.hasUpTo d = e.hasBefore d
  := by
  rw [Bool.eq_iff_iff]
  simp only [hasUpTo, hasBefore, Bool.and_eq_true, beq_iff_eq, decide_eq_true_eq]
  constructor
  · rintro ⟨hkey, hle⟩
    exact ⟨hkey, Nat.lt_of_le_of_ne hle (h hkey)⟩
  · rintro ⟨hkey, hlt⟩
    exact ⟨hkey, Nat.le_of_lt hlt⟩

/-- Of two entities of one logical key, one that is not listed before the other starts later. -/
theorem first_lt_of_not_listedBefore (h : (!d.listedBefore e) = true)
    (hkey : d.logicalKey = e.logicalKey) :
  e.first < d.first
  := by
  rw [Bool.not_eq_true'] at h
  rw [← Nat.not_le, ← listedBefore_iff_of_logicalKey_eq hkey, h]
  exact Bool.false_ne_true

theorem ordinal_append_cons :
  e.ordinal (l ++ a :: m) back = e.ordinal (a :: (l ++ m)) back
  := ordinal_perm List.perm_middle e back

theorem ordinal_cons_congr (h : e.ordinal front back = e.ordinal l m) (a : Entity) :
  e.ordinal (a :: front) back = e.ordinal (a :: l) m
  := by
  rw [ordinal_eq, ordinal_eq] at h
  rw [ordinal_eq, ordinal_eq, List.countP_cons, List.countP_cons]
  omega

/-- An entity that starts at another line counts alike before and after an entity. -/
theorem ordinal_insert_after (h : e.hasUpTo a = e.hasBefore a) :
  e.ordinal front (l ++ a :: m) = e.ordinal (a :: front) (l ++ m)
  := by
  rw [ordinal_eq, ordinal_eq, List.perm_middle.countP_eq, List.countP_cons, List.countP_cons, h]
  omega

end Entity

namespace Store

open Effect
open Document (encode)

/-- Where an entity stands in a list that is put in order, it has the rank that it had. -/
theorem exists_listed_append (front : List Entity) (e : Entity) (back : List Entity) :
  ∃ front' back', listed (front ++ e :: back) = front' ++ e :: back' ∧
    e.ordinal front' back' = e.ordinal front back
  := by
  induction front with
  | nil =>
    obtain ⟨l₁, l₂, hlisted, hback, hlate⟩ :=
      List.mergeSort_cons Entity.listedBefore_trans Entity.listedBefore_total e back
    refine ⟨l₁, l₂, hlisted, ?_⟩
    have hupTo : l₁.countP e.hasUpTo = l₁.countP e.hasBefore := by
      apply List.countP_congr
      intro d hd
      rw [Entity.hasUpTo_eq_hasBefore]
      intro hkey
      apply Nat.ne_of_lt (Entity.first_lt_of_not_listedBefore (hlate d hd) hkey.symm)
    have hperm : (l₁ ++ l₂).Perm back := by
      rw [← hback]
      apply List.mergeSort_perm
    rw [Entity.ordinal_eq, Entity.ordinal_eq, hupTo, ← List.countP_append, hperm.countP_eq]
    simp
  | cons a front ih =>
    obtain ⟨front', back', hrest, hordinal⟩ := ih
    obtain ⟨l₁, l₂, hlisted, hsplit, hlate⟩ := List.mergeSort_cons Entity.listedBefore_trans
      Entity.listedBefore_total a (front ++ e :: back)
    have hall : listed (a :: front ++ e :: back) = l₁ ++ a :: l₂ := hlisted
    have hsplit' : l₁ ++ l₂ = front' ++ e :: back' := by
      rw [← hsplit]
      apply hrest
    -- the element is put in before the entity, or after it if it starts later
    obtain ⟨between, hfront, hl₂⟩ | ⟨between, hl₁, hback⟩ :=
      Text.before_or_after_of_append_eq hsplit'
    · refine ⟨l₁ ++ a :: between, back', ?_, ?_⟩
      · rw [hall, hl₂, List.append_assoc, List.cons_append]
      · rw [Entity.ordinal_append_cons, ← hfront]
        apply Entity.ordinal_cons_congr hordinal
    · refine ⟨front', between ++ a :: l₂, ?_, ?_⟩
      · rw [hall, hl₁, List.append_assoc, List.cons_append]
      · rw [Entity.ordinal_insert_after, ← hback]
        · apply Entity.ordinal_cons_congr hordinal
        · apply Entity.hasUpTo_eq_hasBefore
          intro hkey
          have he : e ∈ l₁ := by
            rw [hl₁]
            apply List.mem_append_right front' List.mem_cons_self
          apply Nat.ne_of_gt (Entity.first_lt_of_not_listedBefore (hlate e he) hkey)

/-- Listing entities leaves the key of each of them as it is. -/
theorem keyed_listed (es : List Entity) :
  (keyed (listed es)).Perm (keyed es)
  := by
  have hsubset : keyed es ⊆ keyed (listed es) := by
    rintro ⟨key, e⟩ hp
    obtain ⟨front, back, rfl, rfl⟩ := mem_zip_identityKeys.1 hp
    obtain ⟨front', back', hlisted, hordinal⟩ := exists_listed_append front e back
    apply mem_zip_identityKeys.2 ⟨front', back', hlisted, ?_⟩
    rw [hordinal]
  have hsnd : ((keyed (listed es)).map Prod.snd).Perm ((keyed es).map Prod.snd) := by
    rw [map_snd_keyed, map_snd_keyed]
    apply listed_perm
  have hlength : (keyed (listed es)).length ≤ (keyed es).length := by
    simpa using hsnd.length_eq.le
  have hsubperm := List.subperm_of_subset (nodup_keyed es).of_map hsubset
  apply (hsubperm.perm_of_length_le hlength).symm

/-! ### Batches in another order -/

/-- No two entities of the list share path, name and first line. -/
def Discernible (es : List Entity) : Prop :=
  (es.map fun e => (e.path, e.name, e.first)).Nodup

/-- Whether entities are discernible does not depend on their identities. -/
theorem discernible_map_withId {es : List Entity} (id : String) :
  Discernible (es.map (·.withId id)) ↔ Discernible es
  := by
  rw [Discernible, List.map_map]
  exact Iff.rfl

/-- Discernible entities are listed alike, in whatever order they are. -/
theorem listed_eq_of_perm {es es' : List Entity} (h : Discernible es) (hperm : es'.Perm es) :
  listed es' = listed es
  := by
  apply List.Perm.eq_of_pairwise _ (isListed_listed es') (isListed_listed es)
  · exact (listed_perm es').trans (hperm.trans (listed_perm es).symm)
  · intro d e hd he hde hed
    rw [mem_listed, hperm.mem_iff] at hd
    rw [mem_listed] at he
    apply List.inj_on_of_nodup_map h hd he
    rw [Entity.listedBefore_iff] at hde hed
    obtain hname | ⟨hname, hde⟩ := hde
    · obtain hname' | ⟨hname', -⟩ := hed
      · exact absurd hname' (lt_asymm hname)
      · exact absurd hname'.symm (ne_of_lt hname)
    · rw [hname] at hed
      replace hed := (hed.resolve_left (lt_irrefl _)).2
      obtain hpath | ⟨hpath, hle⟩ := hde
      · obtain hpath' | ⟨hpath', -⟩ := hed
        · exact absurd hpath' (lt_asymm hpath)
        · exact absurd hpath'.symm (ne_of_lt hpath)
      · rw [hpath] at hed
        replace hed := (hed.resolve_left (lt_irrefl _)).2
        rw [hname, hpath, Nat.le_antisymm hle hed]

/-- Discernible entities have the keys that they have in any other order. -/
theorem keyed_perm {es es' : List Entity} (h : Discernible es) (hperm : es'.Perm es) :
  (keyed es').Perm (keyed es)
  := by
  have hlisted := (keyed_listed es').symm
  rw [listed_eq_of_perm h hperm] at hlisted
  exact hlisted.trans (keyed_listed es)

/-! ### Assigning again -/

theorem identityKeysFrom_map_withId (id : String) (before es : List Entity) :
  identityKeysFrom (before.map (·.withId id)) (es.map (·.withId id)) = identityKeysFrom before es
  := by
  induction es generalizing before with
  | nil => rfl
  | cons e after ih =>
    have hordinal : (e.withId id).ordinal (before.map (·.withId id)) (after.map (·.withId id))
        = e.ordinal before after := by
      rw [Entity.ordinal_eq, Entity.ordinal_eq, List.countP_map, List.countP_map]
      rfl
    rw [List.map_cons, identityKeysFrom, identityKeysFrom, hordinal]
    apply congrArg _ (ih (e :: before))

/-- Keys do not depend on identities. -/
theorem identityKeys_map_withId (id : String) (es : List Entity) :
  identityKeys (es.map (·.withId id)) = identityKeys es
  := identityKeysFrom_map_withId id [] es

section

variable {known : List (IdentityKey × String)} {old batch batch' : List Entity} {m : Mint}

/-- The entities of a batch have their keys still when they have identities. -/
theorem keyed_assigned :
  keyed ((assigned known (keyed batch) m).map Prod.snd) = assigned known (keyed batch) m
  := by
  have hkeys : identityKeys ((assigned known (keyed batch) m).map Prod.snd)
      = (assigned known (keyed batch) m).map Prod.fst := by
    rw [← identityKeys_map_withId "", map_withId_assigned, identityKeys_map_withId,
      map_snd_keyed, map_fst_assigned, map_fst_keyed]
  rw [keyed, hkeys, ← List.unzip_fst, ← List.unzip_snd, List.zip_unzip]

/-- The entity with the identity that is known for its key. -/
def recalled (known : List (IdentityKey × String)) (p : IdentityKey × Entity) :
    IdentityKey × Entity :=
  (p.1, p.2.withId ((knownId? known p.1).getD ""))

/-- Where all keys are known, each entity takes the identity known for its key. -/
theorem assigned_of_known {l : List (IdentityKey × Entity)} (h : ∀ p ∈ l, isNew known p = false) :
  assigned known l m = l.map (recalled known)
  := by
  induction l with
  | nil => rfl
  | cons p rest ih =>
    obtain ⟨key, e⟩ := p
    have hknown := h (key, e) List.mem_cons_self
    rw [isNew, Option.isNone_eq_false_iff, Option.isSome_iff_exists] at hknown
    obtain ⟨id, hid⟩ := hknown
    change knownId? known key = some id at hid
    rw [assigned, hid, List.map_cons, recalled, hid]
    simp only
    rw [ih fun p hp => h p (List.mem_cons_of_mem _ hp)]
    rfl

/-- The identities that are assigned are those that are known afterwards. -/
theorem assigned_eq_map {known' : List (IdentityKey × String)} {l : List (IdentityKey × Entity)}
    (h : ∀ p ∈ assigned known l m, knownId? known' p.1 = some p.2.id) :
  assigned known l m = l.map (recalled known')
  := by
  induction l generalizing m with
  | nil => rfl
  | cons p rest ih =>
    obtain ⟨key, e⟩ := p
    rw [assigned] at h ⊢
    split at h <;>
    · obtain ⟨hfirst, hrest⟩ := List.forall_mem_cons.1 h
      change knownId? known' key = some _ at hfirst
      rw [List.map_cons, recalled, hfirst, ih hrest]
      rfl

/-- After a batch took the place of the entities of a kind, the identity of each of its entities is
known for its key. -/
theorem knownId?_renewed (htokens : ∀ i, m.token i ≠ "") {p : IdentityKey × Entity}
    (h : p ∈ assigned (knownIds old) (keyed batch) m) :
  knownId? (knownIds (renewed old batch m)) p.1 = some p.2.id
  := by
  have hid : ∀ e ∈ renewed old batch m, e.id ≠ "" := by
    intro e he
    rw [renewed, mem_listed] at he
    obtain ⟨q, hq, rfl⟩ := List.mem_map.1 he
    apply id_ne_empty_of_mem_assigned htokens hq
  have hp : p ∈ keyed (renewed old batch m) := by
    rw [renewed, (keyed_listed _).mem_iff, keyed_assigned]
    apply h
  rw [knownId?_eq_some_iff hid, knownIds_eq]
  exact List.mem_map_of_mem (f := fun p => (p.1, p.2.id)) hp

/-- After a batch took the place of the entities of a kind, all its keys are known. -/
theorem isNew_renewed (htokens : ∀ i, m.token i ≠ "") (hperm : (keyed batch').Perm (keyed batch))
    {p : IdentityKey × Entity} (hp : p ∈ keyed batch') :
  isNew (knownIds (renewed old batch m)) p = false
  := by
  have hkey : p.1 ∈ (assigned (knownIds old) (keyed batch) m).map Prod.fst := by
    rw [map_fst_assigned]
    apply List.mem_map_of_mem (hperm.mem_iff.1 hp)
  obtain ⟨q, hq, heq⟩ := List.mem_map.1 hkey
  rw [isNew, ← heq, knownId?_renewed htokens hq]
  rfl

/-- A batch with the keys of the one that took the place of the entities of a kind takes no
token. -/
theorem newCount_renewed (htokens : ∀ i, m.token i ≠ "")
    (hperm : (keyed batch').Perm (keyed batch)) :
  newCount (renewed old batch m) batch' = 0
  := by
  rw [newCount, List.countP_eq_zero]
  intro p hp
  rw [isNew_renewed htokens hperm hp]
  exact Bool.false_ne_true

/-- The entities of a list, each with the identity that is known for its key after a batch took the
place of the old ones. -/
def given (old batch : List Entity) (m : Mint) (es : List Entity) : List (Entity × Entity) :=
  (keyed es).map fun p => (p.2, (recalled (knownIds (renewed old batch m)) p).2)

theorem map_fst_given (es : List Entity) :
  (given old batch m es).map Prod.fst = es
  := by
  rw [given, List.map_map]
  exact map_snd_keyed es

theorem map_snd_given (es : List Entity) :
  (given old batch m es).map Prod.snd
    = ((keyed es).map (recalled (knownIds (renewed old batch m)))).map Prod.snd
  := by
  rw [given, List.map_map, List.map_map]
  rfl

/-- The batch itself is assigned the identities that are known afterwards. -/
theorem map_snd_given_self (htokens : ∀ i, m.token i ≠ "") :
  (given old batch m batch).map Prod.snd
    = (assigned (knownIds old) (keyed batch) m).map Prod.snd
  := by
  rw [map_snd_given, assigned_eq_map fun _ hp => knownId?_renewed htokens hp]

/-- A batch with the same keys is assigned the identities that are known. -/
theorem map_snd_assigned_renewed (htokens : ∀ i, m.token i ≠ "")
    (hperm : (keyed batch').Perm (keyed batch)) (m' : Mint) :
  (assigned (knownIds (renewed old batch m)) (keyed batch') m').map Prod.snd
    = (given old batch m batch').map Prod.snd
  := by
  rw [assigned_of_known fun p hp => isNew_renewed htokens hperm hp, map_snd_given]

theorem listed_given_self (htokens : ∀ i, m.token i ≠ "") :
  listed ((given old batch m batch).map Prod.snd) = renewed old batch m
  := by
  rw [map_snd_given_self htokens, renewed]

/-- Discernible entities are listed alike with their identities, in whatever order they are. -/
theorem listed_given (htokens : ∀ i, m.token i ≠ "") (h : Discernible batch)
    (hperm : batch'.Perm batch) :
  listed ((given old batch m batch').map Prod.snd) = renewed old batch m
  := by
  rw [← listed_given_self htokens]
  apply listed_eq_of_perm
  · rw [← discernible_map_withId "", map_snd_given_self htokens, map_withId_assigned, map_snd_keyed,
      discernible_map_withId]
    apply h
  · apply ((keyed_perm h hperm).map _).map Prod.snd

end

/-! ### Replacing again -/

section

variable {s s' : State} {kind : Kind} {current batch batch' : List Entity}

/-- After a batch took the place of the entities of a kind, its document holds their text. -/
theorem document_of_replaceAll (h : s.Usable) (hbatch : ∀ e ∈ batch, e.kind = kind)
    {stored : List Entity} (hrun : run (replaceAll kind batch) s = (.ok stored, s')) :
  s'.document (entitySchema kind)
    = .ok (some (.file (.text (encode (entitySchema kind) ((listed stored).map entityRecord)))))
  := by
  obtain ⟨current, s₁, hall, hrun⟩ := exists_of_run_bind hrun
  obtain ⟨r, s₂, hassign, hrun⟩ := exists_of_run_bind hrun
  obtain ⟨_, s₃, hsave, hrun⟩ := exists_of_run_bind hrun
  cases hrun
  rw [run_all] at hall
  injection hall with _ hs₁
  rw [run_assign hbatch] at hassign
  injection hassign with _ hs₂
  have hloads := loads_loading s kind
  have husable : s₂.Usable := by
    rw [← hs₂, ← hs₁]
    exact h.congr hloads.disk hloads.folder
  obtain ⟨_, s₄, hwrite, hremember⟩ := exists_of_run_bind hsave
  have hdocument := document_of_writeDocument husable (entitySchema_mem_schemas kind) hwrite
  cases hremember
  exact hdocument

/-- The batch can take the place of the entities of a kind: the pairs are its entities with the
stored ones, no token is taken, and afterwards the kind has the same entities and the same text. -/
structure Repeats (kind : Kind) (batch : List Entity) (given : List (Entity × Entity))
    (s s' : State) : Prop where
  batch_eq : given.map Prod.fst = batch
  run_eq : run (replaceAll kind batch) s = (.ok (given.map Prod.snd), s')
  mint : s'.mint = s.mint
  stored : s'.stored kind = s.stored kind
  document : s'.document (entitySchema kind) = s.document (entitySchema kind)

/-- After a batch took the place of the entities of a kind, one with the same keys of which the same
list is made does so without any change. -/
theorem exists_repeats {old : List Entity} {m : Mint} (h : s.Usable) (htokens : ∀ i, m.token i ≠ "")
    (hstored : s.stored kind = .ok (renewed old batch m))
    (hdocument : s.document (entitySchema kind) = .ok (some (.file (.text
      (encode (entitySchema kind) ((renewed old batch m).map entityRecord))))))
    (hbatch' : ∀ e ∈ batch', e.kind = kind) (hkeyed : (keyed batch').Perm (keyed batch))
    (hlisted : listed ((given old batch m batch').map Prod.snd) = renewed old batch m) :
  ∃ s', Repeats kind batch' (given old batch m batch') s s'
  := by
  obtain ⟨s', hrun, hsaved⟩ := Manner.replace.run_put h hstored hbatch'
  have hassigned : (assigned (knownIds (renewed old batch m)) (keyed batch') s.mint).map Prod.snd
      = (given old batch m batch').map Prod.snd := map_snd_assigned_renewed htokens hkeyed s.mint
  rw [hassigned] at hrun
  refine ⟨s', map_fst_given batch', hrun, ?_, ?_, ?_⟩
  · rw [hsaved.mint, newCount_renewed htokens hkeyed]
    rfl
  · rw [hsaved.stored_self, hstored, Manner.result, hassigned, hlisted]
  · rw [document_of_replaceAll h hbatch' hrun, hdocument, hlisted]

/-- After a batch took the place of the entities of a kind, it does so again with the same
identities, and so does a batch in another order if its entities are discernible. -/
theorem repeats_of_stored (h : s.Usable) (htokens : ∀ i, s.mint.token i ≠ "")
    (hcurrent : s.stored kind = .ok current) (hbatch : ∀ e ∈ batch, e.kind = kind) :
  ∃ (pairs : List (Entity × Entity)) (s₁ : State) (text : String),
    pairs.map Prod.fst = batch
    ∧ run (replaceAll kind batch) s = (.ok (pairs.map Prod.snd), s₁)
    ∧ s₁.document (entitySchema kind) = .ok (some (.file (.text text)))
    ∧ (∃ s₂, Repeats kind batch pairs s₁ s₂)
    ∧ (Discernible batch → ∀ batch', batch'.Perm batch →
        ∃ pairs' s₂, pairs'.Perm pairs ∧ Repeats kind batch' pairs' s₁ s₂)
  := by
  obtain ⟨s₁, hrun, hsaved⟩ := Manner.replace.run_put h hcurrent hbatch
  rw [← map_snd_given_self htokens] at hrun
  have hstored : s₁.stored kind = .ok (renewed current batch s.mint) := hsaved.stored_self
  have hdocument := document_of_replaceAll h hbatch hrun
  rw [listed_given_self htokens] at hdocument
  refine ⟨given current batch s.mint batch, s₁, _, map_fst_given batch, hrun, hdocument, ?_, ?_⟩
  · apply exists_repeats hsaved.wrote.usable htokens hstored hdocument hbatch (.refl _)
    apply listed_given_self htokens
  · intro hdiscernible batch' hperm
    have hkeyed := keyed_perm hdiscernible hperm
    have hbatch' : ∀ e ∈ batch', e.kind = kind := fun e he => hbatch e (hperm.mem_iff.1 he)
    obtain ⟨s₂, hrepeats⟩ := exists_repeats hsaved.wrote.usable htokens hstored hdocument hbatch'
      hkeyed (listed_given htokens hdiscernible hperm)
    exact ⟨_, s₂, hkeyed.map _, hrepeats⟩

/-! ### Replacing again after a run -/

/-- No change of a store puts another supply in the place of its supply. -/
theorem Change.token_eq {o : Operation} (h : Change o s s') (hs : s.Usable) :
  s'.mint.token = s.mint.token
  := by
  cases h with
  | load h => rw [h.mint]
  | index _ => rfl
  | put _ _ _ h =>
    rw [h.mint]
    rfl
  | record h => rw [(h.aside hs).mint]
  | reopen _ => rfl

/-- After a run a usable store is usable, with the tokens that it had. -/
theorem usable_afterAll (h : s.Usable) (hindexed : s.Indexed) (ops : List Operation) :
  (s.afterAll ops).Usable ∧ (s.afterAll ops).mint.token = s.mint.token
  := by
  let P : State → Prop := fun t => t.Usable ∧ t.Indexed ∧ t.mint.token = s.mint.token
  have hafter : P (s.afterAll ops) := by
    apply preserved_afterAll (fun _ ht => ht.1) (fun _ ht => ht.2.1) _ ⟨h, hindexed, rfl⟩
    intro o _ t t' hchange ⟨husable, hindexed, htoken⟩
    refine ⟨hchange.usable husable, hchange.indexed husable hindexed, ?_⟩
    rw [hchange.token_eq husable, htoken]
  exact ⟨hafter.1, hafter.2.2⟩

/-- Replacing the entities of a kind after any run of a store. If the stored ones cannot be read,
nothing happens. Else, replacing them by the same batch again answers the same entities, takes no
token and writes the same text, and so does replacing them by the batch in any other order, if no
two of its entities share path, name and first line: each of them has its identity still. -/
theorem replaceAll_again (h : s.Usable) (hempty : s.memory = .empty)
    (htokens : ∀ i, s.mint.token i ≠ "") (ops : List Operation)
    (hbatch : ∀ e ∈ batch, e.kind = kind) :
  (∃ failure, (s.afterAll ops).stored kind = .error failure
    ∧ run (replaceAll kind batch) (s.afterAll ops) = (.error failure, s.afterAll ops))
  ∨ ∃ (pairs : List (Entity × Entity)) (s₁ : State) (text : String),
      pairs.map Prod.fst = batch
      ∧ run (replaceAll kind batch) (s.afterAll ops) = (.ok (pairs.map Prod.snd), s₁)
      ∧ s₁.document (entitySchema kind) = .ok (some (.file (.text text)))
      ∧ (∃ s₂, Repeats kind batch pairs s₁ s₂)
      ∧ (Discernible batch → ∀ batch', batch'.Perm batch →
          ∃ pairs' s₂, pairs'.Perm pairs ∧ Repeats kind batch' pairs' s₁ s₂)
  := by
  have hindexed : s.Indexed := by
    intro index hindex
    rw [hempty] at hindex
    contradiction
  obtain ⟨husable, htoken⟩ := usable_afterAll h hindexed ops
  cases hstored : (s.afterAll ops).stored kind with
  | error failure =>
    left
    exact ⟨failure, rfl, run_replaceAll_of_error hstored batch⟩
  | ok current =>
    right
    apply repeats_of_stored husable _ hstored hbatch
    rwa [htoken]

end

/-- Two functions of one logical key, the later one first. -/
def feeBatch : List Entity :=
  [feeFunction 6 2, feeFunction 1 2]

theorem replaceAll_again_feeBatch :
  let ops : List Operation := [.upsert .function (feeFunction 1 2)]
  emptyStore.Usable ∧ emptyStore.memory = .empty ∧ (∀ i, emptyStore.mint.token i ≠ "")
    ∧ (∀ e ∈ feeBatch, e.kind = .function) ∧ Discernible feeBatch
    ∧ ∃ (pairs : List (Entity × Entity)) (s₁ : State),
        run (replaceAll .function feeBatch) (emptyStore.afterAll ops)
          = (.ok (pairs.map Prod.snd), s₁)
        ∧ (∃ s₂, Repeats .function feeBatch pairs s₁ s₂)
        ∧ ∃ pairs' s₂, pairs'.Perm pairs ∧ Repeats .function feeBatch.reverse pairs' s₁ s₂
  := by
  intro ops
  have husable : emptyStore.Usable := isFresh_emptyStore.usable
  have htokens := isLawful_emptyStore.ne_empty
  have hkind : ∀ e ∈ feeBatch, e.kind = .function := by decide +kernel
  have hdiscernible : Discernible feeBatch := by
    rw [Discernible]
    decide +kernel
  have hread : ((emptyStore.afterAll ops).stored .function).toOption.isSome = true := by
    decide +kernel
  refine ⟨husable, rfl, htokens, hkind, hdiscernible, ?_⟩
  obtain ⟨failure, hfailure, -⟩ | ⟨pairs, s₁, _, -, hrun, -, hagain, hperm⟩ :=
    replaceAll_again husable rfl htokens ops hkind
  · rw [hfailure] at hread
    contradiction
  · exact ⟨pairs, s₁, hrun, hagain, hperm hdiscernible _ (List.reverse_perm feeBatch)⟩

end Store

end AnchorIndex

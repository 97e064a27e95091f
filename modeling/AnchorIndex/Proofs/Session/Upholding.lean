import AnchorIndex.Proofs.Session.Building
import AnchorIndex.Proofs.Session.Computing
import AnchorIndex.Proofs.Source.Names

/-!
# Resolving calls in a linked store

In a session whose store is linked (`Intact`), resolving a function keeps the store linked, whether
it succeeds or not (`upholds_resolve`). It answers a record that links to the stored entities, and
never fails because some entity is missing, if the function is stored. What is said of the parts of
an operation (`Upholds`) is put together in the order in which they are carried out
(`Upholds.bind`).
-/

namespace AnchorIndex.Session

open Effect Relation
open Document (IsNormal)
open Store (DependencyLinks Linked)

variable {α β : Type}

/-! ### Operations on a linked store -/

/-- The store of the session is linked, and the members that are remembered are stored
functions. -/
structure Intact (t : State) (es : Kind → List Entity) : Prop where
  linked : Linked t.store es
  members : ∀ ms, t.members = some ms → ∀ m ∈ ms, m.id ∈ (es .function).map (·.id)

/-- A result has one property, and a failure another one. -/
def Meets (Q : α → Prop) (E : Failure → Prop) : Except Failure α → Prop
  | .ok a => Q a
  | .error failure => E failure

/-- The failure is not that some entity is missing. -/
def IsNoMiss (failure : Failure) : Prop :=
  ∀ id place, failure ≠ .fault (.entityMissing id place)

/-- Whatever the operation does, the session stays intact, what it answers has one property, and
how it fails another one. -/
def Upholds (es : Kind → List Entity) (Q : α → Prop) (E : Failure → Prop) (x : Action α) : Prop :=
  ∀ t, Intact t es → Intact (after x t) es ∧ Meets Q E (answer x t)

section

variable {es : Kind → List Entity} {P Q : α → Prop} {R : β → Prop} {E F : Failure → Prop}

theorem upholds_pure {a : α} (h : Q a) :
  Upholds es Q E (pure a)
  := fun _ ht => ⟨ht, h⟩

theorem upholds_throw {failure : Failure} (h : E failure) :
  Upholds es Q E (throw failure)
  := fun _ ht => ⟨ht, h⟩

/-- What some session that is intact tells about the entities may be used. -/
theorem upholds_of_intact {x : Action α} (h : ∀ t, Intact t es → Upholds es Q E x) :
  Upholds es Q E x
  := fun t ht => h t ht t ht

theorem Upholds.imp {x : Action α} (h : Upholds es P E x) (hP : ∀ a, P a → Q a)
    (hE : ∀ failure, E failure → F failure) :
  Upholds es Q F x
  := by
  intro t ht
  obtain ⟨hafter, hmeets⟩ := h t ht
  use hafter
  cases hanswer : answer x t with
  | ok a =>
    rw [hanswer] at hmeets
    apply hP a hmeets
  | error failure =>
    rw [hanswer] at hmeets
    apply hE failure hmeets

/-- What an operation answers may be used by the one that follows. -/
theorem Upholds.bind {x : Action α} {f : α → Action β} (hx : Upholds es Q E x)
    (hf : ∀ a, Q a → Upholds es R E (f a)) :
  Upholds es R E (x >>= f)
  := by
  intro t ht
  obtain ⟨hafter, hmeets⟩ := hx t ht
  rw [after, answer, run_bind]
  cases hrun : run x t with
  | mk r t' =>
    rw [after, hrun] at hafter
    rw [answer, hrun] at hmeets
    cases r with
    | ok a => exact hf a hmeets t' hafter
    | error failure => exact ⟨hafter, hmeets⟩

theorem upholds_get_bind {f : State → Action β} (hf : ∀ t, Intact t es → Upholds es R E (f t)) :
  Upholds es R E (get >>= f)
  := by
  intro t ht
  rw [after, answer, run_get_bind]
  apply hf t ht t ht

theorem upholds_modify_bind {f : State → State} {x : PUnit → Action β}
    (hf : ∀ t, Intact t es → Intact (f t) es) (hx : Upholds es R E (x ⟨⟩)) :
  Upholds es R E (modify f >>= x)
  := by
  intro t ht
  rw [after, answer, run_modify_bind]
  apply hx (f t) (hf t ht)

/-- An operation of the store that keeps it linked does so in a session. -/
theorem upholds_onStore {x : Store.Action α}
    (hx : ∀ s, Linked s es → Linked (Store.Effect.after x s) es ∧
      Meets Q E (Store.Effect.answer x s)) :
  Upholds es Q E (onStore x)
  := by
  intro t ht
  obtain ⟨hafter, hmeets⟩ := hx t.store ht.linked
  exact ⟨⟨hafter, ht.members⟩, hmeets⟩

/-! ### Reading -/

theorem upholds_query (kind : Kind) (name : Option String) (role : Option Role) :
  Upholds es (· = (es kind).filter fun e =>
      (name.all fun n => e.name == n) && (role.all fun r => e.role == r)) E
    (onStore (Store.query kind name role))
  := by
  apply upholds_onStore
  intro s hs
  use hs.recalls (Store.recalls_query kind name role)
  change Meets _ _ (Store.Effect.run (Store.all kind >>= _) s).1
  rw [Store.Effect.run_bind, Store.run_all, hs.recorded.identified.stored]
  rfl

theorem upholds_dependency? (id : String) :
  Upholds es (fun r? => ∀ r, r? = some r → DependencyLinks es r) E (onStore (Store.dependency? id))
  := by
  apply upholds_onStore
  intro s hs
  constructor
  · rw [Store.dependency?, Store.Effect.after_bind_eq fun _ _ => rfl]
    apply hs.recalls Store.recalls_dependencyIndex
  · obtain ⟨r?, hanswer, hlinks⟩ := hs.answer_dependency? id
    rw [hanswer]
    exact hlinks

theorem upholds_implementations :
  Upholds es (Store.ImplementationLinks es) E (onStore Store.implementations)
  := by
  apply upholds_onStore
  intro s hs
  constructor
  · rw [Store.implementations, Store.Effect.after_bind_eq fun _ _ => rfl]
    apply hs.recalls Store.recalls_implementationIndex
  · obtain ⟨rs, hanswer, hlinks⟩ := hs.answer_implementations
    rw [hanswer]
    exact hlinks

theorem upholds_byId :
  Upholds es (fun _ => True) E (onStore Store.byId)
  := by
  apply upholds_onStore
  intro s hs
  have hidentified := hs.recorded.identified
  use hs.recalls (Store.recalls_byId hidentified.indexed)
  obtain ⟨s', hrun, -⟩ := Store.run_byId hidentified.indexed
  rw [Store.Effect.answer, hrun, Store.State.index_eq hidentified.stored]
  trivial

/-- Reading an identity answers the entity that has it, if one is stored. -/
theorem upholds_read (id : String) :
  Upholds es (fun e => e.id = id ∧ ∃ kind, e ∈ es kind)
    (fun failure => (∃ kind, id ∈ (es kind).map (·.id)) → IsNoMiss failure)
    (onStore (Store.read id))
  := by
  apply upholds_onStore
  intro s hs
  have hidentified := hs.recorded.identified
  use hs.recalls (Store.recalls_read hidentified.indexed id)
  rw [Store.answer_read, hidentified.answer_find?]
  cases hlookup : (Store.indexById (Kind.all.flatMap es)).lookup id with
  | some e =>
    obtain ⟨kind, he, hid⟩ := hidentified.lookup_eq_some_iff.1 hlookup
    exact ⟨hid, kind, he⟩
  | none =>
    rintro ⟨kind, hid⟩
    obtain ⟨e, he, heq⟩ := List.mem_map.1 hid
    exact absurd heq (hidentified.lookup_eq_none_iff.1 hlookup kind e he)

/-- A stored function is read. -/
theorem upholds_read_function {id : String} (hid : id ∈ (es .function).map (·.id)) :
  Upholds es (fun e => e.id = id ∧ ∃ kind, e ∈ es kind) IsNoMiss (onStore (Store.read id))
  := (upholds_read id).imp (fun _ he => he) fun _ hfails => hfails ⟨_, hid⟩

theorem upholds_sourceLines (path : String) :
  Upholds es (fun _ => True) IsNoMiss (sourceLines path)
  := by
  apply upholds_get_bind
  intro t _
  split
  · apply upholds_pure trivial
  · split
    · apply upholds_throw
      intro id place h
      cases h
    · apply upholds_throw
      intro id place h
      cases h
    · apply upholds_modify_bind
      · intro t' ht'
        exact ⟨ht'.linked, ht'.members⟩
      · apply upholds_pure trivial

theorem upholds_content (e : Entity) :
  Upholds es (fun _ => True) IsNoMiss (content e)
  := by
  apply (upholds_sourceLines e.path).bind
  intro lines _
  apply upholds_pure trivial

/-! ### Members -/

/-- All of these identities are those of stored functions. -/
def AreFunctions (es : Kind → List Entity) (ids : List String) : Prop :=
  ∀ id ∈ ids, id ∈ (es .function).map (·.id)

theorem upholds_membersOf (r : Implementation.Record) {ids : List String}
    (hids : AreFunctions es ids) :
  Upholds es (fun ms => AreFunctions es (ms.map (·.id))) IsNoMiss (membersOf r ids)
  := by
  induction ids with
  | nil =>
    apply upholds_pure
    intro id hid
    contradiction
  | cons id ids ih =>
    have hid := hids id List.mem_cons_self
    apply (upholds_read_function hid).bind
    intro e _
    apply (ih fun id' hid' => hids id' (List.mem_cons_of_mem id hid')).bind
    intro ms hms
    exact upholds_pure (List.forall_mem_cons.2 ⟨hid, hms⟩)

theorem upholds_membersOfAll {rs : List Implementation.Record}
    (hrs : ∀ r ∈ rs, AreFunctions es r.memberIds) :
  Upholds es (fun ms => AreFunctions es (ms.map (·.id))) IsNoMiss (membersOfAll rs)
  := by
  induction rs with
  | nil =>
    apply upholds_pure
    intro id hid
    contradiction
  | cons r rs ih =>
    have hhere : Upholds es (fun ms => AreFunctions es (ms.map (·.id))) IsNoMiss
        (if r.isExternal then pure [] else membersOf r r.memberIds) := by
      split
      · apply upholds_pure
        intro id hid
        contradiction
      · apply upholds_membersOf r (hrs r List.mem_cons_self)
    rw [membersOfAll_cons]
    apply hhere.bind
    intro here hhere
    apply (ih fun r' hr' => hrs r' (List.mem_cons_of_mem r hr')).bind
    intro rest hrest
    apply upholds_pure
    rw [List.map_append]
    apply List.forall_mem_append.2 ⟨hhere, hrest⟩

theorem upholds_members :
  Upholds es (fun ms => AreFunctions es (ms.map (·.id))) IsNoMiss members
  := by
  apply upholds_get_bind
  intro t ht
  split
  next ms hms =>
    apply upholds_pure
    intro id hid
    obtain ⟨m, hm, rfl⟩ := List.mem_map.1 hid
    apply ht.members ms hms m hm
  · apply upholds_implementations.bind
    intro rs hrs
    apply (upholds_membersOfAll hrs.members).bind
    intro ms hms
    apply upholds_modify_bind
    · intro t' ht'
      use ht'.linked
      rintro _ ⟨⟩ m hm
      apply hms m.id (List.mem_map_of_mem hm)
    · exact upholds_pure hms

/-! ### Records -/

theorem upholds_lookUpNames (names : List String) :
  Upholds es (fun p => AreFunctions es p.1 ∧
      ∀ name ∈ p.2, name ∈ names ∧ name ∉ (es .function).map (·.name)) E
    (lookUpNames names)
  := by
  induction names with
  | nil =>
    apply upholds_pure
    constructor
    · intro id hid
      contradiction
    · intro name hname
      contradiction
  | cons name names ih =>
    apply (upholds_query .function (some name) none).bind
    rintro found rfl
    apply ih.bind
    rintro ⟨internal, external⟩ ⟨hinternal, hexternal⟩
    have hmore : ∀ name' ∈ external, name' ∈ name :: names ∧
        name' ∉ (es .function).map (·.name) := by
      intro name' hname'
      obtain ⟨hmem, hnone⟩ := hexternal name' hname'
      exact ⟨List.mem_cons_of_mem name hmem, hnone⟩
    dsimp only
    split
    next hempty =>
      apply upholds_pure
      refine ⟨hinternal, ?_⟩
      intro name' hname'
      obtain rfl | hname' := List.mem_cons.1 hname'
      · use List.mem_cons_self
        intro hmem
        obtain ⟨e, he, heq⟩ := List.mem_map.1 hmem
        rw [List.isEmpty_iff, List.filter_eq_nil_iff] at hempty
        apply hempty e he
        simp [heq]
      · apply hmore name' hname'
    · apply upholds_pure
      refine ⟨List.forall_mem_append.2 ⟨?_, hinternal⟩, hmore⟩
      intro id hid
      obtain ⟨e, he, rfl⟩ := List.mem_map.1 hid
      apply List.mem_map_of_mem (List.mem_filter.1 he).1

theorem isNormal_of_mem_lineCalls {own : String} {inName : Bool} {line : List Char} {name : String}
    (h : name ∈ CallGraph.lineCalls own inName line) :
  IsNormal name
  := by
  induction line generalizing inName with
  | nil => contradiction
  | cons c r ih =>
    rw [CallGraph.lineCalls] at h
    split at h
    · exact ih h
    · split at h
      · exact ih h
      next called after hname =>
        split at h
        · exact ih h
        · split at h
          · obtain rfl | h := List.mem_cons.1 h
            · apply Source.isNormal_of_name? hname
            · exact ih h
          · exact ih h

theorem isNormal_of_mem_callNames {own : String} {body : List Char} {name : String}
    (h : name ∈ CallGraph.callNames own body) :
  IsNormal name
  := by
  obtain ⟨line, -, hname⟩ := List.mem_flatMap.1 h
  apply isNormal_of_mem_lineCalls hname

/-- A record links to stored functions, if the identities that it is made of are those of stored
functions and the names that are no functions are called. -/
theorem dependencyLinks_ofEdges {t : State} (ht : Intact t es) {kind : Kind} {e : Entity}
    (he : e ∈ es kind) {internal external : List String} (hinternal : AreFunctions es internal)
    (hexternal : ∀ name ∈ external, IsNormal name ∧ name ∉ (es .function).map (·.name)) :
  DependencyLinks es (.ofEdges e.id e.name internal external)
  := by
  have hrecorded := ht.linked.recorded
  refine ⟨⟨hrecorded.identified.isNormal_id he, hrecorded.named kind e he, ?_, ?_,
    orderedSet_orderedSet internal, orderedSet_orderedSet external⟩, ?_, ?_⟩
  · intro id hid
    obtain ⟨d, hd, rfl⟩ := List.mem_map.1 (hinternal id (mem_orderedSet.1 hid))
    apply hrecorded.identified.isNormal_id hd
  · intro name hname
    apply (hexternal name (mem_orderedSet.1 hname)).1
  · intro id hid
    apply hinternal id (mem_orderedSet.1 hid)
  · intro name hname
    apply (hexternal name (mem_orderedSet.1 hname)).2

theorem upholds_compute {kind : Kind} {e : Entity} (he : e ∈ es kind) :
  Upholds es (DependencyLinks es) IsNoMiss (compute e)
  := by
  apply upholds_of_intact
  intro t ht
  apply upholds_modify_bind
  · intro t' ht'
    exact ⟨ht'.linked, ht'.members⟩
  apply (upholds_content e).bind
  intro text _
  apply upholds_members.bind
  intro ms hms
  apply (upholds_lookUpNames _).bind
  rintro ⟨internal, external⟩ ⟨hinternal, hexternal⟩
  apply upholds_pure
  apply dependencyLinks_ofEdges ht he
  · apply List.forall_mem_append.2 ⟨?_, hinternal⟩
    intro id hid
    obtain ⟨type, name, htarget⟩ := exists_of_mem_takeQualifiedFrom hid
    obtain ⟨m, hm, rfl⟩ := List.mem_map.1 htarget
    apply hms m.id (List.mem_map_of_mem (List.mem_filter.1 hm).1)
  · intro name hname
    obtain ⟨hmem, hnone⟩ := hexternal name hname
    exact ⟨isNormal_of_mem_callNames (List.mem_eraseDups.1 hmem), hnone⟩

/-! ### Searching -/

/-- All of these entities are stored. -/
def AreStored (es : Kind → List Entity) (found : List Entity) : Prop :=
  ∀ e ∈ found, ∃ kind, e ∈ es kind

theorem upholds_enqueue {visited ids : List String} (hids : AreFunctions es ids) :
  Upholds es (fun p => AreStored es p.2) IsNoMiss (enqueue visited ids)
  := by
  induction ids generalizing visited with
  | nil =>
    apply upholds_pure
    intro e he
    contradiction
  | cons id ids ih =>
    have hrest : AreFunctions es ids := fun id' hid' => hids id' (List.mem_cons_of_mem id hid')
    rw [enqueue]
    split
    · apply ih hrest
    · apply (upholds_dependency? id).bind
      intro r? _
      split
      · apply ih hrest
      · apply (upholds_read_function (hids id List.mem_cons_self)).bind
        rintro e ⟨-, he⟩
        apply (ih hrest).bind
        rintro ⟨visited', more⟩ hmore
        exact upholds_pure (List.forall_mem_cons.2 ⟨he, hmore⟩)

theorem upholds_computeAll {rounds : Nat} {visited : List String} {waiting : List Entity}
    (hwaiting : AreStored es waiting) :
  Upholds es (fun rs => (∀ r ∈ rs, DependencyLinks es r) ∧ (0 < rounds → waiting ≠ [] → rs ≠ []))
    IsNoMiss (computeAll rounds visited waiting)
  := by
  induction rounds generalizing visited waiting with
  | zero =>
    apply upholds_pure
    constructor
    · intro r hr
      contradiction
    · intro h
      contradiction
  | succ rounds ih =>
    cases waiting with
    | nil =>
      apply upholds_pure
      constructor
      · intro r hr
        contradiction
      · intro _ h
        contradiction
    | cons e waiting =>
      obtain ⟨kind, he⟩ := hwaiting e List.mem_cons_self
      apply (upholds_compute he).bind
      intro record hrecord
      apply (upholds_enqueue hrecord.internal).bind
      rintro ⟨visited', more⟩ hmore
      have hstored : AreStored es (waiting ++ more) :=
        List.forall_mem_append.2 ⟨(List.forall_mem_cons.1 hwaiting).2, hmore⟩
      apply (ih hstored).bind
      rintro rs ⟨hrs, -⟩
      exact upholds_pure
        ⟨List.forall_mem_cons.2 ⟨hrecord, hrs⟩, fun _ _ => List.cons_ne_nil _ _⟩

theorem upholds_putDependencies {rs : List CallGraph.Record}
    (hrs : ∀ r ∈ rs, DependencyLinks es r) :
  Upholds es (fun _ => True) E (onStore (Store.putDependencies rs))
  := by
  apply upholds_onStore
  intro s hs
  obtain ⟨s', hrun, hlinked⟩ := hs.putDependencies hrs
  rw [Store.Effect.after, Store.Effect.answer, hrun]
  exact ⟨hlinked, trivial⟩

/-- Resolving keeps a session intact, and answers a record that links to what is stored. For an
entity that is stored, nothing is missing. -/
theorem upholds_resolve (id : String) :
  Upholds es (DependencyLinks es)
    (fun failure => (∃ kind, id ∈ (es kind).map (·.id)) → IsNoMiss failure) (resolve id)
  := by
  apply (upholds_dependency? id).bind
  intro r? hr?
  split
  next record =>
    apply upholds_pure (hr? record rfl)
  · apply (upholds_read id).bind
    rintro root ⟨-, hroot⟩
    apply Upholds.imp (P := DependencyLinks es) (E := IsNoMiss) _ (fun _ h => h) fun _ h _ => h
    apply upholds_byId.bind
    intro index _
    have hwaiting : AreStored es [root] := by
      intro e he
      rwa [List.mem_singleton.1 he]
    apply (upholds_computeAll hwaiting).bind
    rintro records ⟨hrecords, hsome⟩
    apply (upholds_putDependencies hrecords).bind
    intro _ _
    cases records with
    | nil => exact absurd rfl (hsome (Nat.succ_pos _) (List.cons_ne_nil _ _))
    | cons record records => exact upholds_pure (hrecords record List.mem_cons_self)

theorem upholds_resolveEach {found : List Entity} (hfound : AreStored es found) :
  Upholds es (fun rs => ∀ r ∈ rs, DependencyLinks es r) IsNoMiss (resolveEach found)
  := by
  induction found with
  | nil =>
    apply upholds_pure
    intro r hr
    contradiction
  | cons e found ih =>
    obtain ⟨kind, he⟩ := hfound e List.mem_cons_self
    have hresolve : Upholds es (DependencyLinks es) IsNoMiss (resolve e.id) :=
      (upholds_resolve e.id).imp (fun _ h => h) fun _ h => h ⟨kind, List.mem_map_of_mem he⟩
    apply hresolve.bind
    intro record hrecord
    apply (ih fun d hd => hfound d (List.mem_cons_of_mem e hd)).bind
    intro rs hrs
    exact upholds_pure (List.forall_mem_cons.2 ⟨hrecord, hrs⟩)

theorem upholds_all (kind : Kind) :
  Upholds es (· = es kind) E (onStore (Store.all kind))
  := by
  apply upholds_onStore
  intro s hs
  use hs.recalls (Store.recalls_all kind)
  rw [Store.answer_all, hs.recorded.identified.stored]
  rfl

theorem upholds_resolveNamed (name : String) :
  Upholds es (fun rs => ∀ r ∈ rs, DependencyLinks es r) IsNoMiss (resolveNamed name)
  := by
  apply (upholds_query .function (some name) none).bind
  rintro found rfl
  apply upholds_resolveEach
  intro e he
  exact ⟨_, (List.mem_filter.1 he).1⟩

theorem upholds_resolveAll :
  Upholds es (fun rs => ∀ r ∈ rs, DependencyLinks es r) IsNoMiss resolveAll
  := by
  apply (upholds_all .function).bind
  rintro found rfl
  apply upholds_resolveEach
  intro e he
  exact ⟨_, he⟩

end

end AnchorIndex.Session

import AnchorIndex.Proofs.Datum.Entries
import AnchorIndex.Datum.Basic

/-!
# Merged tables

A dictionary is a table with distinct keys. Merged into a table, it decides what stands under its
keys, and leaves the others alone (`get?_mergeDatum`). Where a source has sections, that is tables
in a table, the same holds of the keys in each section (`under?_mergeDatum`), whatever else stands
in the section.
-/

namespace AnchorIndex

variable {base strong : Datum} {part key : String}

/-! ### Dictionaries -/

/-- A table with distinct keys. -/
def Datum.IsDictionary (d : Datum) : Prop :=
  ∃ es, d = .table es ∧ (es.map Prod.fst).Nodup

theorem Datum.IsDictionary.isTable (h : strong.IsDictionary) :
  strong.isTable = true
  := by
  obtain ⟨es, rfl, -⟩ := h
  rfl

/-- A value merged over what may stand under its key. -/
def mergeOver (old? : Option Datum) (v : Datum) : Datum :=
  match old? with
  | some old => mergeDatum old v
  | none => v

/-- A value that is no table replaces what it is merged over. -/
theorem mergeOver_eq_self {v : Datum} (h : v.isTable = false) (old? : Option Datum) :
  mergeOver old? v = v
  := by
  cases old? with
  | none => rfl
  | some old =>
    cases v with
    | table es => contradiction
    | _ => rfl

theorem mergeEntries_cons (key : String) (v : Datum) (es rest : List (String × Datum)) :
  mergeEntries es ((key, v) :: rest)
    = mergeEntries (setEntry key (mergeOver (es.lookup key) v) es) rest
  := by
  rw [mergeEntries]
  cases es.lookup key <;> rfl

theorem lookup_mergeEntries (es : List (String × Datum)) {rest : List (String × Datum)}
    (hn : (rest.map Prod.fst).Nodup) (key : String) :
  (mergeEntries es rest).lookup key
    = ((rest.lookup key).map (mergeOver (es.lookup key))).or (es.lookup key)
  := by
  induction rest generalizing es with
  | nil => rfl
  | cons e rest ih =>
    obtain ⟨k, v⟩ := e
    obtain ⟨hk, hrest⟩ := List.nodup_cons.1 hn
    rw [mergeEntries_cons, ih _ hrest, lookup_setEntry, lookup_cons_eq_ite]
    split
    next heq =>
      subst heq
      have hnone : rest.lookup key = none := by
        rw [Option.eq_none_iff_forall_ne_some]
        intro v' hv'
        exact hk (List.mem_map.2 ⟨(key, v'), mem_of_lookup_eq_some hv', rfl⟩)
      rw [hnone]
      rfl
    next => rfl

/-- Merging keeps keys distinct. -/
theorem nodup_mergeEntries {es : List (String × Datum)} (hn : (es.map Prod.fst).Nodup)
    (rest : List (String × Datum)) :
  ((mergeEntries es rest).map Prod.fst).Nodup
  := by
  induction rest generalizing es with
  | nil => exact hn
  | cons e rest ih =>
    obtain ⟨k, v⟩ := e
    rw [mergeEntries_cons]
    apply ih (nodup_setEntry k _ hn)

/-! ### Merging a dictionary -/

theorem mergeDatum_table (hbase : base.isTable = true) (es : List (String × Datum)) :
  mergeDatum base (.table es) = .table (mergeEntries base.entries es)
  := by
  rw [mergeDatum, if_pos hbase]

/-- A dictionary decides what stands under its keys, and the other keys keep their values. -/
theorem get?_mergeDatum (hbase : base.isTable = true) (hstrong : strong.IsDictionary)
    (key : String) :
  (mergeDatum base strong).get? key
    = ((strong.get? key).map (mergeOver (base.get? key))).or (base.get? key)
  := by
  obtain ⟨es, rfl, hn⟩ := hstrong
  rw [mergeDatum_table hbase]
  exact lookup_mergeEntries base.entries hn key

theorem isTable_mergeDatum (base : Datum) (hstrong : strong.isTable = true) :
  (mergeDatum base strong).isTable = true
  := by
  cases strong with
  | table es =>
    rw [mergeDatum]
    split <;> rfl
  | mapping es => rfl
  | _ => contradiction

theorem isDictionary_mergeDatum (hbase : base.IsDictionary) (hstrong : strong.IsDictionary) :
  (mergeDatum base strong).IsDictionary
  := by
  obtain ⟨es, rfl, hn⟩ := hbase
  obtain ⟨es', rfl, -⟩ := hstrong
  rw [mergeDatum_table rfl]
  exact ⟨_, rfl, nodup_mergeEntries hn es'⟩

/-- A table with a dictionary merged into it is a dictionary, if there was one. -/
theorem isDictionary_mergeOver {old? : Option Datum} (hold : ∀ old ∈ old?, old.IsDictionary)
    (hstrong : strong.IsDictionary) :
  (mergeOver old? strong).IsDictionary
  := by
  cases old? with
  | none => exact hstrong
  | some old => exact isDictionary_mergeDatum (hold old rfl) hstrong

/-! ### Sections -/

/-- What stands under a key of a section. -/
def Datum.under? (d : Datum) (part key : String) : Option Datum :=
  (d.get? part).bind (·.get? key)

/-- A table in which all sections with the given names are tables. -/
structure Datum.HasTables (d : Datum) (names : List String) : Prop where
  top : d.isTable = true
  sections : ∀ name ∈ names, ∀ s, d.get? name = some s → s.isTable = true

/-- A dictionary in which all sections with the given names are dictionaries. -/
structure Datum.HasDictionaries (d : Datum) (names : List String) : Prop where
  top : d.IsDictionary
  sections : ∀ name ∈ names, ∀ s, d.get? name = some s → s.IsDictionary

theorem Datum.HasDictionaries.hasTables {names : List String} (h : base.HasDictionaries names) :
  base.HasTables names
  := by
  use h.top.isTable
  intro name hname s hs
  exact (h.sections name hname s hs).isTable

/-- A section is decided key by key: the stronger source decides the keys that it has in the
section. A value that is no table is taken as a whole. -/
theorem under?_mergeDatum {names : List String} (hbase : base.HasTables names)
    (hstrong : strong.HasDictionaries names) (hname : part ∈ names)
    (hvalue : ∀ v, strong.under? part key = some v → v.isTable = false) :
  (mergeDatum base strong).under? part key
    = (strong.under? part key).or (base.under? part key)
  := by
  rw [Datum.under?] at hvalue
  rw [Datum.under?, Datum.under?, Datum.under?, get?_mergeDatum hbase.top hstrong.top]
  cases hs : strong.get? part with
  | none => rfl
  | some s =>
    rw [hs] at hvalue
    have hdict := hstrong.sections part hname s hs
    cases hb : base.get? part with
    | none => simp [mergeOver]
    | some b =>
      have htable := hbase.sections part hname b hb
      simp only [Option.map_some, Option.some_or, Option.bind_some, mergeOver] at hvalue ⊢
      rw [get?_mergeDatum htable hdict]
      cases hv : s.get? key with
      | none => rfl
      | some v => rw [Option.map_some, mergeOver_eq_self (hvalue v hv)]

/-- What has entries is a table. -/
theorem isTable_of_get? {d v : Datum} (h : d.get? key = some v) :
  d.isTable = true
  := by
  cases d with
  | table es => rfl
  | mapping es => rfl
  | _ => cases h

/-- Where the stronger source gives nothing in a section, what is given stays, whatever else the
section was. -/
theorem under?_mergeDatum_of_none {names : List String} (hbase : base.isTable = true)
    (hstrong : strong.HasDictionaries names) (hname : part ∈ names)
    (hnone : strong.under? part key = none) :
  (mergeDatum base strong).under? part key = base.under? part key
  := by
  rw [Datum.under?] at hnone
  rw [Datum.under?, Datum.under?, get?_mergeDatum hbase hstrong.top]
  cases hs : strong.get? part with
  | none => rfl
  | some s =>
    rw [hs, Option.bind_some] at hnone
    have hdict := hstrong.sections part hname s hs
    cases base.get? part with
    | none => exact hnone
    | some b =>
      rw [Option.map_some, Option.some_or, Option.bind_some, Option.bind_some, mergeOver]
      by_cases htable : b.isTable = true
      · rw [get?_mergeDatum htable hdict, hnone]
        rfl
      · have hb : b.get? key = none := by
          rw [Option.eq_none_iff_forall_ne_some]
          exact fun v hv => htable (isTable_of_get? hv)
        obtain ⟨es, rfl, -⟩ := hdict
        rw [mergeDatum, if_neg htable, hnone, hb]

theorem hasTables_mergeDatum {names : List String} (hbase : base.HasTables names)
    (hstrong : strong.HasDictionaries names) :
  (mergeDatum base strong).HasTables names
  := by
  use isTable_mergeDatum base hstrong.top.isTable
  intro name hname s hs
  rw [get?_mergeDatum hbase.top hstrong.top, Option.or_eq_some_iff] at hs
  obtain hs | ⟨-, hs⟩ := hs
  · obtain ⟨v, hv, rfl⟩ := Option.map_eq_some_iff.1 hs
    have hdict := hstrong.sections name hname v hv
    cases base.get? name with
    | none => exact hdict.isTable
    | some old => exact isTable_mergeDatum old hdict.isTable
  · exact hbase.sections name hname s hs

theorem hasDictionaries_mergeDatum {names : List String} (hbase : base.HasDictionaries names)
    (hstrong : strong.HasDictionaries names) :
  (mergeDatum base strong).HasDictionaries names
  := by
  use isDictionary_mergeDatum hbase.top hstrong.top
  intro name hname s hs
  rw [get?_mergeDatum hbase.top.isTable hstrong.top, Option.or_eq_some_iff] at hs
  obtain hs | ⟨-, hs⟩ := hs
  · obtain ⟨v, hv, rfl⟩ := Option.map_eq_some_iff.1 hs
    apply isDictionary_mergeOver _ (hstrong.sections name hname v hv)
    intro old hold
    exact hbase.sections name hname old hold
  · exact hbase.sections name hname s hs

/-- The keys of merged tables are those of both. -/
theorem isSome_get?_mergeDatum (hbase : base.isTable = true) (hstrong : strong.IsDictionary)
    (key : String) :
  ((mergeDatum base strong).get? key).isSome = ((strong.get? key).isSome || (base.get? key).isSome)
  := by
  rw [get?_mergeDatum hbase hstrong, Option.isSome_or, Option.isSome_map]

end AnchorIndex

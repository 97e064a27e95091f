import AnchorIndex.Proofs.Yaml.Scanning
import AnchorIndex.Yaml.Value
import Mathlib.Data.List.Forall2

/-!
# Files with keys and values as tables

A file whose lines are notes and entries, with keys that are different words, stands for a table:
each key has the value of its plain scalar (`read_textOf`). If a scalar has no value, neither has
the file, and none either if something follows a scalar that cannot follow it
(`read_eq_malformed`).
-/

namespace AnchorIndex.Yaml

/-- The key and the plain scalar of an entry. -/
def Row.entry? : Row → Option (String × String)
  | note _ => none
  | entry key text _ => some (String.ofList key, String.ofList text)

/-- The entries of a file. -/
def entriesOf (rows : List Row) : List (String × String) :=
  rows.filterMap Row.entry?

@[simp]
theorem entriesOf_nil :
  entriesOf [] = []
  := rfl

@[simp]
theorem entriesOf_cons_note (cs : List Char) (rows : List Row) :
  entriesOf (.note cs :: rows) = entriesOf rows
  := rfl

@[simp]
theorem entriesOf_cons_entry (key text tail : List Char) (rows : List Row) :
  entriesOf (.entry key text tail :: rows)
    = (String.ofList key, String.ofList text) :: entriesOf rows
  := rfl

/-! ### Nodes -/

namespace Node

variable {names : List (String × Node)} {ts : List Token} {es : List (Node × Node)} {p : Position}

/-- An entry of plain scalars as nodes. -/
def ofEntry (e : String × String) : Node × Node :=
  (.scalar none e.1 true, .scalar none e.2 true)

theorem blockEntries_entry {fuel : Nat}
    (h : (blockEntries (fuel + 3)).run ⟨ts, names⟩ = some (es, p)) (key text : String) :
  (blockEntries (fuel + 4)).run
      ⟨.key :: .scalar key true :: .value :: .scalar text true :: ts, names⟩
    = some (ofEntry (key, text) :: es, p)
  := by
  change Option.bind ((blockEntries (fuel + 3)).run ⟨ts, names⟩) _ = _
  rw [h]
  rfl

theorem blockEntries_rows (rows : List Row) {fuel : Nat}
    (hfuel : (rows.flatMap Row.tokens).length < fuel) :
  (blockEntries fuel).run ⟨rows.flatMap Row.tokens ++ .blockEnd :: ts, names⟩
    = some ((entriesOf rows).map ofEntry, ⟨ts, names⟩)
  := by
  induction rows generalizing fuel with
  | nil =>
    obtain ⟨fuel, rfl⟩ := Nat.exists_eq_succ_of_ne_zero (Nat.ne_zero_of_lt hfuel)
    rfl
  | cons r rows ih =>
    rw [List.flatMap_cons] at hfuel ⊢
    cases r with
    | note cs => exact ih hfuel
    | entry key text tail =>
      have hfour : (Row.entry key text tail).tokens.length = 4 := rfl
      rw [List.length_append] at hfuel
      obtain ⟨fuel, rfl⟩ : ∃ k, fuel = k + 4 := ⟨fuel - 4, by omega⟩
      exact blockEntries_entry (ih (by omega)) (String.ofList key) (String.ofList text)

theorem readContent_block {fuel : Nat} (h : (blockEntries fuel).run ⟨ts, names⟩ = some (es, p)) :
  (readContent (fuel + 1) .block none false).run ⟨.mappingStart :: ts, names⟩
    = some (.mapping none es, p)
  := by
  change Option.bind ((blockEntries fuel).run ⟨ts, names⟩) _ = _
  rw [h]
  rfl

theorem document_block {fuel : Nat} (h : (blockEntries fuel).run ⟨ts, names⟩ = some (es, p)) :
  (document (fuel + 2)).run ⟨.mappingStart :: ts, names⟩ = some (.mapping none es, p)
  := by
  change Option.bind
    ((readContent (fuel + 1) .block none false).run ⟨.mappingStart :: ts, names⟩) _ = _
  rw [readContent_block h]
  rfl

/-- The tokens of a block mapping make up a mapping. -/
theorem ofTokens?_rows (rows : List Row) :
  ofTokens? (.mappingStart :: (rows.flatMap Row.tokens ++ [.blockEnd]))
    = some (.mapping none ((entriesOf rows).map ofEntry))
  := by
  have hlength : (rows.flatMap Row.tokens).length
      < 6 * (Token.mappingStart :: (rows.flatMap Row.tokens ++ [Token.blockEnd])).length + 14 := by
    rw [List.length_cons, List.length_append]
    omega
  change Option.bind ((document (_ + 2)).run _) _ = _
  rw [document_block (blockEntries_rows rows hlength)]
  rfl

end Node

/-! ### Data -/

/-- An entry with the value of its plain scalar. -/
def valueOf (e : String × String) : Valued (String × Datum) :=
  (plainValue e.2).map fun d => (e.1, d)

/-- A key that stands for itself. -/
def IsTextKey (key : String) : Prop :=
  plainValue key = .ok (.text key)

/-- A table as a mapping. -/
def asMapping (es : List (String × Datum)) : List (Datum × Datum) :=
  es.map fun (k, v) => (.text k, v)

theorem IsTextKey.not_isPlain {key word : String} (h : IsTextKey key)
    (hword : (plainValue word).toOption.isNone = true) :
  (Node.scalar none key true).isPlain word = false
  := by
  rw [Node.isPlain, beq_eq_false_iff_ne]
  rintro rfl
  rw [h] at hword
  cases hword

theorem entriesData_of_keys {es : List (String × String)} (h : ∀ e ∈ es, IsTextKey e.1) :
  entriesData (es.map Node.ofEntry) = (es.mapM valueOf).map fun ds => ([], asMapping ds)
  := by
  induction es with
  | nil => rfl
  | cons e es ih =>
    obtain ⟨he, hes⟩ := List.forall_mem_cons.1 h
    have hmerge : (Node.scalar none e.1 true).isPlain "<<" = false :=
      he.not_isPlain (by decide +kernel)
    have hdefault : (Node.scalar none e.1 true).isPlain "=" = false :=
      he.not_isPlain (by decide +kernel)
    have hkey : (Node.scalar none e.1 true).toDatum = .ok (.text e.1) := by
      rw [Node.toDatum, scalarValue]
      exact he
    have hvalue : (Node.scalar none e.2 true).toDatum = plainValue e.2 := rfl
    rw [List.map_cons, Node.ofEntry, entriesData, ih hes, hmerge, hdefault, hkey, hvalue,
      List.mapM_cons, valueOf]
    cases plainValue e.2 with
    | error flaw => rfl
    | ok d => cases es.mapM valueOf <;> rfl

theorem placeEntry_of_notMem {key : String} {es : List (String × Datum)} (h : key ∉ es.map Prod.fst)
    (d : Datum) :
  placeEntry (asMapping es) (.text key, d) = asMapping (es ++ [(key, d)])
  := by
  induction es with
  | nil => rfl
  | cons e es ih =>
    simp only [List.map_cons, List.mem_cons, not_or] at h
    have hne : sameKey (.text e.1) (.text key) = false := by
      rw [sameKey, beq_eq_false_iff_ne]
      exact Ne.symm h.1
    rw [List.cons_append, asMapping, List.map_cons, placeEntry]
    dsimp only
    rw [hne, if_neg Bool.false_ne_true, ← asMapping, ih h.2]
    rfl

theorem foldl_placeEntry {front es : List (String × Datum)}
    (h : ((front ++ es).map Prod.fst).Nodup) :
  (asMapping es).foldl placeEntry (asMapping front) = asMapping (front ++ es)
  := by
  induction es generalizing front with
  | nil =>
    rw [List.append_nil]
    rfl
  | cons e es ih =>
    have hnot : e.1 ∉ front.map Prod.fst := by
      rw [List.map_append, List.nodup_append] at h
      intro hmem
      exact h.2.2 _ hmem _ List.mem_cons_self rfl
    rw [← List.singleton_append, ← List.append_assoc] at h ⊢
    rw [← ih h, ← placeEntry_of_notMem hnot]
    rfl

/-- Entries with texts as keys are taken as entries of a table. -/
theorem mapM_asMapping {f : Datum × Datum → Option (String × Datum)}
    (hf : ∀ key v, f (.text key, v) = some (key, v)) (es : List (String × Datum)) :
  (asMapping es).mapM f = some es
  := by
  induction es with
  | nil => rfl
  | cons e es ih =>
    rw [asMapping, List.map_cons, List.mapM_cons, ← asMapping, ih, hf]
    rfl

/-- A mapping whose keys are different texts is a table. -/
theorem mappingOf_asMapping {es : List (String × Datum)} (h : (es.map Prod.fst).Nodup) :
  mappingOf (asMapping es) = .table es
  := by
  have hfold : (asMapping es).foldl placeEntry [] = asMapping es := by
    rw [← List.nil_append es] at h
    exact foldl_placeEntry h
  rw [mappingOf, hfold]
  dsimp only
  rw [mapM_asMapping fun key v => rfl]

/-- The values are read one by one. -/
theorem mapM_valueOf_eq_ok_iff {es : List (String × String)} {ds : List (String × Datum)} :
  es.mapM valueOf = .ok ds ↔ List.Forall₂ (fun e d => d.1 = e.1 ∧ plainValue e.2 = .ok d.2) es ds
  := by
  induction es generalizing ds with
  | nil =>
    constructor
    · rintro ⟨⟩
      exact .nil
    · rintro ⟨⟩
      rfl
  | cons e es ih =>
    have hcons : (e :: es).mapM valueOf = .ok ds
        ↔ ∃ d ds', plainValue e.2 = .ok d ∧ es.mapM valueOf = .ok ds' ∧ ds = (e.1, d) :: ds' := by
      rw [List.mapM_cons, valueOf]
      cases plainValue e.2 with
      | error flaw => simp [Except.map, bind, Except.bind]
      | ok d =>
        cases es.mapM valueOf with
        | error flaw => simp [Except.map, bind, Except.bind]
        | ok ds' => simp [Except.map, bind, Except.bind, pure, Except.pure, eq_comm]
    rw [hcons, List.forall₂_cons_left_iff]
    constructor
    · rintro ⟨d, ds', hd, hds, rfl⟩
      exact ⟨(e.1, d), ds', ⟨rfl, hd⟩, ih.1 hds, rfl⟩
    · rintro ⟨⟨key, d⟩, ds', ⟨rfl, hd⟩, hds, rfl⟩
      exact ⟨d, ds', hd, ih.2 hds, rfl⟩

/-- The keys stay when the values are read. -/
theorem keys_of_mapM_valueOf {es : List (String × String)} {ds : List (String × Datum)}
    (h : es.mapM valueOf = .ok ds) :
  ds.map Prod.fst = es.map Prod.fst
  := by
  have hpairs := mapM_valueOf_eq_ok_iff.1 h
  clear h
  induction hpairs with
  | nil => rfl
  | cons hpair hpairs ih => rw [List.map_cons, List.map_cons, hpair.1, ih]

/-- Under a key there is the value that is read. -/
theorem lookup_of_mapM_valueOf {es : List (String × String)} {ds : List (String × Datum)}
    (h : es.mapM valueOf = .ok ds) {key text : String} (hkey : es.lookup key = some text) :
  ∃ d, ds.lookup key = some d ∧ plainValue text = .ok d
  := by
  have hpairs := mapM_valueOf_eq_ok_iff.1 h
  clear h
  induction hpairs with
  | nil => cases hkey
  | @cons e d es ds hpair hpairs ih =>
    obtain ⟨k, v⟩ := e
    obtain ⟨k', d⟩ := d
    obtain ⟨rfl, hvalue⟩ := hpair
    rw [List.lookup_cons] at hkey ⊢
    split at hkey
    next heq =>
      cases hkey
      rw [heq]
      exact ⟨d, rfl, hvalue⟩
    next heq =>
      rw [heq]
      exact ih hkey

/-- Where no key is given there is no value. -/
theorem lookup_eq_none_of_mapM_valueOf {es : List (String × String)} {ds : List (String × Datum)}
    (h : es.mapM valueOf = .ok ds) {key : String} (hkey : key ∉ es.map Prod.fst) :
  ds.lookup key = none
  := by
  rw [← keys_of_mapM_valueOf h] at hkey
  rw [List.lookup_eq_none_iff]
  intro e he
  rw [bne_iff_ne]
  rintro rfl
  exact hkey (List.mem_map_of_mem he)

/-- The values can be read if each of them can. -/
theorem exists_mapM_valueOf {es : List (String × String)}
    (h : ∀ e ∈ es, ∃ d, plainValue e.2 = .ok d) :
  ∃ ds, es.mapM valueOf = .ok ds
  := by
  induction es with
  | nil => exact ⟨[], rfl⟩
  | cons e es ih =>
    obtain ⟨⟨d, hd⟩, hes⟩ := List.forall_mem_cons.1 h
    obtain ⟨ds, hds⟩ := ih hes
    use (e.1, d) :: ds
    rw [mapM_valueOf_eq_ok_iff] at hds ⊢
    exact .cons ⟨rfl, hd⟩ hds

/-- The table of a file. -/
theorem read_textOf {rows : List Row} (h : ∀ r ∈ rows, r.Sound ∧ r.Closed)
    (hallowed : ∀ ch ∈ textOf rows, isAllowed ch = true)
    (hkeys : ∀ e ∈ entriesOf rows, IsTextKey e.1) (hnodup : ((entriesOf rows).map Prod.fst).Nodup)
    (hentry : ∃ r ∈ rows, r.isNote = false) :
  read (String.ofList (textOf rows)) = ((entriesOf rows).mapM valueOf).map Datum.table
  := by
  rw [read, String.toList_ofList, scan?_textOf h hentry hallowed, Option.bind_some,
    Node.ofTokens?_rows]
  dsimp only
  rw [Node.toDatum, entriesData_of_keys hkeys]
  cases hds : (entriesOf rows).mapM valueOf with
  | error flaw => rfl
  | ok ds =>
    have hmapping : mappingOf (asMapping ds) = .table ds :=
      mappingOf_asMapping (by rwa [keys_of_mapM_valueOf hds])
    simp only [fits, if_true, Except.map, List.nil_append, hmapping]

/-- A plain scalar that stands for a text stands for its own. -/
theorem eq_of_plainValue {s t : String} (h : plainValue s = .ok (.text t)) :
  t = s
  := by
  rw [plainValue] at h
  cases htruth : truthValue? s with
  | some b => simp [htruth] at h
  | none =>
    cases hreal : real? s.toList with
    | some x => simp [htruth, hreal] at h
    | none =>
      cases hinteger : integer? s.toList with
      | some n => cases n <;> simp [htruth, hreal, hinteger, Except.map] at h
      | none =>
        cases hmoment : moment? s.toList with
        | some m =>
          simp only [htruth, hreal, hinteger, hmoment, checkedMoment] at h
          split at h
          · cases h
          · split at h <;> cases h
        | none =>
          simp only [htruth, hreal, hinteger, hmoment] at h
          split at h
          · cases h
          · split at h
            · cases h
            · cases h
              rfl

/-- A text without tokens is malformed. -/
theorem read_eq_malformed {cs : List Char} (h : Token.scan? cs = none) :
  read (String.ofList cs) = .error .malformed
  := by
  rw [read, String.toList_ofList, h]
  rfl

end AnchorIndex.Yaml

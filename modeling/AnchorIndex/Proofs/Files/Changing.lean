import AnchorIndex.Proofs.Datum.Entries
import AnchorIndex.Proofs.Files.Following

/-!
# Changing an entry of a folder

Putting a node into a folder, or taking one out of it, changes the entry with that name and no
other one (`at?_insert_concat`, `at?_remove_concat`), and away from that entry the tree stays as
it is, up to what the folders on the way to it hold (`AlikeAt`). As long as neither the old nor
the new entry is a folder or a link, places lead where they led (`Keeps.insert`, `Keeps.remove`).
-/

namespace AnchorIndex.Files

/-! ### Entries -/

theorem lookup_alterEntry (name : String) (change : Option Node → Node)
    (es : List (String × Node)) (n : String) :
  (alterEntry name change es).lookup n
    = if n = name then some (change (es.lookup name)) else es.lookup n
  := by
  induction es with
  | nil => rw [alterEntry, lookup_cons_eq_ite, List.lookup_nil, List.lookup_nil]
  | cons e es ih =>
    obtain ⟨k, node⟩ := e
    rw [alterEntry]
    by_cases hk : k = name
    · subst hk
      simp only [if_true, lookup_cons_eq_ite]
      split <;> rfl
    · rw [if_neg hk, lookup_cons_eq_ite, lookup_cons_eq_ite, lookup_cons_eq_ite, ih]
      rw [if_neg (Ne.symm hk)]
      by_cases hn : n = k
      · subst hn
        rw [if_pos rfl, if_pos rfl, if_neg hk]
      · rw [if_neg hn, if_neg hn]

theorem lookup_removeEntry (name : String) (es : List (String × Node)) (n : String) :
  (es.filter (·.1 != name)).lookup n = if n = name then none else es.lookup n
  := by
  induction es with
  | nil => simp
  | cons e es ih =>
    obtain ⟨k, node⟩ := e
    rw [List.filter_cons, lookup_cons_eq_ite]
    by_cases hk : k = name
    · subst hk
      simp only [bne_self_eq_false, Bool.false_eq_true, if_false, ih]
      split <;> rfl
    · rw [if_pos (by simpa using hk), lookup_cons_eq_ite, ih]
      by_cases hn : n = k
      · subst hn
        rw [if_pos rfl, if_neg hk, if_pos rfl]
      · rw [if_neg hn, if_neg hn]

/-- With the entries of one name changed in the same way, the others are found as before. -/
theorem lookup_map_entry (name : String) (change : Node → Node) (es : List (String × Node))
    (n : String) :
  (es.map fun (k, child) => if k = name then (k, change child) else (k, child)).lookup n
    = if n = name then (es.lookup n).map change else es.lookup n
  := by
  induction es with
  | nil => simp
  | cons e es ih =>
    obtain ⟨k, node⟩ := e
    rw [List.map_cons]
    by_cases hk : k = name
    · subst hk
      simp only [if_true, lookup_cons_eq_ite, ih]
      split <;> rfl
    · simp only [if_neg hk, lookup_cons_eq_ite, ih]
      by_cases hn : n = k
      · subst hn
        simp [hk]
      · simp [hn]

/-! ### One level down -/

variable {top : Node} {place : Place} {es : List (String × Node)}

theorem Node.at?_cons_folder (name : String) (p : Place) (es : List (String × Node)) :
  (Node.folder es).at? (name :: p) = (es.lookup name).bind (·.at? p)
  := rfl

theorem Node.at?_cons_eq_some {n m : Node} {name : String} {p : Place}
    (h : n.at? (name :: p) = some m) :
  ∃ es child, n = .folder es ∧ es.lookup name = some child ∧ child.at? p = some m
  := by
  cases n with
  | folder es =>
    rw [Node.at?_cons_folder, Option.bind_eq_some_iff] at h
    obtain ⟨child, hchild, hp⟩ := h
    exact ⟨es, child, rfl, hchild, hp⟩
  | file content => contradiction
  | link target => contradiction

theorem Node.at?_insert_cons (node : Node) (name : String) (p : Place) (es : List (String × Node))
    (n : String) (q : Place) :
  (Node.insert node (name :: p) (some (.folder es))).at? (n :: q)
    = if n = name then (Node.insert node p (es.lookup name)).at? q
      else (Node.folder es).at? (n :: q)
  := by
  rw [Node.insert, Node.at?_cons_folder, Node.at?_cons_folder, lookup_alterEntry]
  split <;> rfl

theorem Node.at?_remove_cons (name next : String) (p : Place) (es : List (String × Node))
    (n : String) (q : Place) :
  ((Node.folder es).remove (name :: next :: p)).at? (n :: q)
    = if n = name then (es.lookup n).bind fun child => (child.remove (next :: p)).at? q
      else (Node.folder es).at? (n :: q)
  := by
  rw [Node.remove, Node.at?_cons_folder, Node.at?_cons_folder, lookup_map_entry]
  · split
    · rw [Option.bind_map]
      rfl
    · rfl
  · apply List.cons_ne_nil next p

/-! ### The folder -/

/-- The folder into which a node is put has it under its name. -/
theorem at?_insert_concat (node : Node) (name : String) (h : top.at? place = some (.folder es)) :
  (Node.insert node (place ++ [name]) (some top)).at? place
    = some (.folder (alterEntry name (fun _ => node) es))
  := by
  induction place generalizing top with
  | nil =>
    cases h
    rfl
  | cons first place ih =>
    obtain ⟨es₀, child, rfl, hchild, hplace⟩ := Node.at?_cons_eq_some h
    rw [List.cons_append, Node.at?_insert_cons, if_pos rfl, hchild]
    apply ih hplace

/-- The folder out of which an entry is taken has none under its name. -/
theorem at?_remove_concat (name : String) (h : top.at? place = some (.folder es)) :
  (top.remove (place ++ [name])).at? place = some (.folder (es.filter (·.1 != name)))
  := by
  induction place generalizing top with
  | nil =>
    cases h
    rfl
  | cons first place ih =>
    obtain ⟨es₀, child, rfl, hchild, hplace⟩ := Node.at?_cons_eq_some h
    cases hrest : place ++ [name] with
    | nil => simp at hrest
    | cons next rest =>
      rw [List.cons_append, hrest, Node.at?_remove_cons, if_pos rfl, hchild, Option.bind_some,
        ← hrest]
      apply ih hplace

/-! ### Elsewhere -/

/-- Two trees have the same entry at a place, or a folder each. -/
def AlikeAt (a b : Node) (p : Place) : Prop :=
  a.at? p = b.at? p ∨
    ((∃ es, a.at? p = some (.folder es)) ∧ ∃ es, b.at? p = some (.folder es))

theorem alikeAt_insert (node : Node) {name : String} (h : top.at? place = some (.folder es))
    {q : Place} (hq : ¬ (place ++ [name]) <+: q) :
  AlikeAt top (Node.insert node (place ++ [name]) (some top)) q
  := by
  induction place generalizing top q with
  | nil =>
    cases h
    cases q with
    | nil => exact .inr ⟨⟨es, rfl⟩, _, rfl⟩
    | cons n q =>
      left
      have hn : n ≠ name := by
        rintro rfl
        apply hq ⟨q, rfl⟩
      rw [List.nil_append, Node.at?_insert_cons, if_neg hn]
  | cons first place ih =>
    obtain ⟨es₀, child, rfl, hchild, hplace⟩ := Node.at?_cons_eq_some h
    cases q with
    | nil => exact .inr ⟨⟨es₀, rfl⟩, _, rfl⟩
    | cons n q =>
      by_cases hn : n = first
      · subst hn
        have hq' : ¬ (place ++ [name]) <+: q := by
          intro hpre
          apply hq (List.cons_prefix_cons.2 ⟨rfl, hpre⟩)
        have := ih hplace hq'
        rw [AlikeAt] at this ⊢
        rwa [List.cons_append, Node.at?_insert_cons, if_pos rfl, hchild, Node.at?_cons_folder,
          hchild]
      · left
        rw [List.cons_append, Node.at?_insert_cons, if_neg hn]

theorem alikeAt_remove {name : String} (h : top.at? place = some (.folder es)) {q : Place}
    (hq : ¬ (place ++ [name]) <+: q) :
  AlikeAt top (top.remove (place ++ [name])) q
  := by
  induction place generalizing top q with
  | nil =>
    cases h
    cases q with
    | nil => exact .inr ⟨⟨es, rfl⟩, _, rfl⟩
    | cons n q =>
      left
      have hn : n ≠ name := by
        rintro rfl
        apply hq ⟨q, rfl⟩
      rw [List.nil_append, Node.remove, Node.at?_cons_folder, Node.at?_cons_folder,
        lookup_removeEntry, if_neg hn]
  | cons first place ih =>
    obtain ⟨es₀, child, rfl, hchild, hplace⟩ := Node.at?_cons_eq_some h
    cases hrest : place ++ [name] with
    | nil => simp at hrest
    | cons next rest =>
      rw [List.cons_append, hrest] at hq ⊢
      cases q with
      | nil => exact .inr ⟨⟨es₀, rfl⟩, _, rfl⟩
      | cons n q =>
        by_cases hn : n = first
        · subst hn
          have hq' : ¬ (place ++ [name]) <+: q := by
            intro hpre
            rw [hrest] at hpre
            apply hq (List.cons_prefix_cons.2 ⟨rfl, hpre⟩)
          have := ih hplace hq'
          rw [AlikeAt, hrest] at this
          rwa [AlikeAt, Node.at?_remove_cons, if_pos rfl, hchild, Node.at?_cons_folder, hchild]
        · left
          rw [Node.at?_remove_cons, if_neg hn]

/-! ### Plain entries -/

/-- There is a file, or nothing. -/
def IsPlain (found : Option Node) : Prop :=
  ∀ node, found = some node → node.isFile = true

/-- Below a plain entry there is nothing. -/
theorem IsPlain.eq_of_prefix {name : String} (h : top.at? place = some (.folder es))
    (hplain : IsPlain (es.lookup name)) {q : Place} (hq : (place ++ [name]) <+: q) {node : Node}
    (hnode : top.at? q = some node) :
  q = place ++ [name] ∧ es.lookup name = some node
  := by
  obtain ⟨rest, rfl⟩ := hq
  rw [Node.at?_append, Node.at?_concat h, Option.bind_eq_some_iff] at hnode
  obtain ⟨entry, hentry, hrest⟩ := hnode
  cases rest with
  | nil =>
    cases hrest
    exact ⟨List.append_nil _, hentry⟩
  | cons n rest =>
    obtain ⟨es', child, rfl, -, -⟩ := Node.at?_cons_eq_some hrest
    have := hplain _ hentry
    contradiction

/-- At a plain entry and below it there is no folder and no link. -/
theorem IsPlain.at? {name : String} (h : top.at? place = some (.folder es))
    (hplain : IsPlain (es.lookup name)) {q : Place} (hq : (place ++ [name]) <+: q) {node : Node}
    (hnode : top.at? q = some node) :
  node.isFile = true
  := hplain node (hplain.eq_of_prefix h hq hnode).2

/-- A tree that is alike away from a plain entry keeps folders and links. -/
theorem keeps_of_alikeAt {top' : Node} {name : String} (h : top.at? place = some (.folder es))
    (hplain : IsPlain (es.lookup name))
    (halike : ∀ q, ¬ (place ++ [name]) <+: q → AlikeAt top top' q) :
  Keeps top top'
  := by
  constructor
  · intro q es' hq
    have hnot : ¬ (place ++ [name]) <+: q := by
      intro hpre
      have := hplain.at? h hpre hq
      contradiction
    obtain heq | ⟨-, hfolder⟩ := halike q hnot
    · exact ⟨es', heq ▸ hq⟩
    · apply hfolder
  · intro q target hq
    have hnot : ¬ (place ++ [name]) <+: q := by
      intro hpre
      have := hplain.at? h hpre hq
      contradiction
    obtain heq | ⟨⟨es', hfolder⟩, -⟩ := halike q hnot
    · rw [← heq, hq]
    · rw [hq] at hfolder
      cases hfolder

theorem Keeps.insert {name : String} (h : top.at? place = some (.folder es))
    (hplain : IsPlain (es.lookup name)) (node : Node) :
  Keeps top (Node.insert node (place ++ [name]) (some top))
  := keeps_of_alikeAt h hplain fun _ => alikeAt_insert node h

theorem Keeps.remove {name : String} (h : top.at? place = some (.folder es))
    (hplain : IsPlain (es.lookup name)) :
  Keeps top (top.remove (place ++ [name]))
  := keeps_of_alikeAt h hplain fun _ => alikeAt_remove h

end AnchorIndex.Files

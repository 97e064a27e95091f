import AnchorIndex.Files.Tree
import Mathlib.Data.List.Basic

/-!
# Following places

`Leads` says how following a place comes to a spot, name by name and link by link; following
succeeds exactly this way (`reachFrom_eq_ok_iff`). A place that leads to a folder can be followed
from there on (`Leads.append`), and only such a place can be followed further (`Leads.split`).
A tree that keeps the folders and links of another one (`Keeps`) leads to the same folders
(`Leads.keep`).
-/

namespace AnchorIndex.Files

/-! ### Entries of a tree -/

theorem Node.at?_append (n : Node) (p q : Place) :
  n.at? (p ++ q) = (n.at? p).bind (·.at? q)
  := by
  induction p generalizing n with
  | nil => rfl
  | cons name p ih =>
    simp only [List.cons_append, Node.at?]
    rw [Option.bind_assoc]
    congr 1
    funext m
    apply ih

/-- The entries of a folder are one name further. -/
theorem Node.at?_concat {n : Node} {p : Place} {es : List (String × Node)}
    (h : n.at? p = some (.folder es)) (name : String) :
  n.at? (p ++ [name]) = es.lookup name
  := by
  rw [Node.at?_append, h]
  simp [Node.at?, Node.child?]

/-! ### Steps -/

/-- A name that leads from a folder to one of its entries. -/
structure IsStep (name : String) : Prop where
  ne_dot : name ≠ "."
  ne_dots : name ≠ ".."
  size : name.utf8ByteSize ≤ maxNameSize

/-- Following names from a place comes to a spot, through at most `links` links. -/
inductive Leads (top : Node) : (links : Nat) → Place → Place → Spot → Prop where
  | stay (links : Nat) (here : Place) : Leads top links here [] ⟨here, top.at? here⟩
  | dot {links here rest spot es} (hf : top.at? here = some (.folder es))
      (h : Leads top links here rest spot) : Leads top links here ("." :: rest) spot
  | dots {links here rest spot es} (hf : top.at? here = some (.folder es))
      (h : Leads top links here.dropLast rest spot) : Leads top links here (".." :: rest) spot
  | free {links here name es} (hf : top.at? here = some (.folder es)) (hn : IsStep name)
      (hl : es.lookup name = none) : Leads top links here [name] ⟨here ++ [name], none⟩
  | link {links here name rest target spot es} (hf : top.at? here = some (.folder es))
      (hn : IsStep name) (hl : es.lookup name = some (.link target))
      (h : Leads top links (if target.startsWith "/" then [] else here)
        (Place.ofTarget target ++ rest) spot) : Leads top (links + 1) here (name :: rest) spot
  | down {links here name rest node spot es} (hf : top.at? here = some (.folder es))
      (hn : IsStep name) (hl : es.lookup name = some node) (hnode : ∀ target, node ≠ .link target)
      (h : Leads top links (here ++ [name]) rest spot) : Leads top links here (name :: rest) spot

/-- What following links does in `reachFrom`. -/
def followLink (top : Node) : (links : Nat) → Place → Place → Except Miss Spot
  | 0 => fun _ _ => .error .looping
  | links + 1 => reachFrom top links

theorem reachFrom_eq_reachWith (top : Node) (links : Nat) :
  reachFrom top links = reachWith top (followLink top links)
  := by
  cases links <;> rfl

theorem leads_of_reachWith {top : Node} {links : Nat}
    (hfollow : ∀ links', links = links' + 1 → ∀ {here p spot},
      reachFrom top links' here p = .ok spot → Leads top links' here p spot)
    {here p : Place} {spot : Spot} (h : reachWith top (followLink top links) here p = .ok spot) :
  Leads top links here p spot
  := by
  induction p generalizing here with
  | nil =>
    cases h
    exact .stay links here
  | cons name rest ih =>
    rw [reachWith] at h
    split at h
    · contradiction
    next es hf =>
      split at h
      next hdot =>
        subst hdot
        exact .dot hf (ih h)
      next hdot =>
        split at h
        next hdots =>
          subst hdots
          exact .dots hf (ih h)
        next hdots =>
          split at h
          · contradiction
          next hsize =>
            have hn : IsStep name := ⟨hdot, hdots, Nat.le_of_not_lt hsize⟩
            split at h
            next hl =>
              cases rest with
              | nil =>
                cases h
                exact .free hf hn hl
              | cons next rest => contradiction
            next target hl =>
              cases links with
              | zero => contradiction
              | succ links => exact .link hf hn hl (hfollow links rfl h)
            next node hnode hl =>
              apply Leads.down hf hn hl _ (ih h)
              rintro target rfl
              apply hnode target rfl
    · contradiction

theorem leads_of_reachFrom {top : Node} {links : Nat} {here p : Place} {spot : Spot}
    (h : reachFrom top links here p = .ok spot) :
  Leads top links here p spot
  := by
  induction links generalizing here p spot with
  | zero =>
    rw [reachFrom_eq_reachWith] at h
    apply leads_of_reachWith _ h
    intro links' heq
    contradiction
  | succ links ih =>
    rw [reachFrom_eq_reachWith] at h
    apply leads_of_reachWith _ h
    rintro links' heq here' p' spot' h'
    cases heq
    apply ih h'

theorem Leads.reachFrom {top : Node} {links : Nat} {here p : Place} {spot : Spot}
    (h : Leads top links here p spot) :
  reachFrom top links here p = .ok spot
  := by
  induction h with
  | stay links here => rw [reachFrom_eq_reachWith, reachWith]
  | dot hf h ih =>
    rw [reachFrom_eq_reachWith] at ih ⊢
    rw [reachWith, hf]
    simpa using ih
  | dots hf h ih =>
    rw [reachFrom_eq_reachWith] at ih ⊢
    rw [reachWith, hf]
    simpa using ih
  | free hf hn hl =>
    rw [reachFrom_eq_reachWith, reachWith, hf]
    simp [hn.ne_dot, hn.ne_dots, Nat.not_lt.2 hn.size, hl]
  | link hf hn hl h ih =>
    rw [reachFrom_eq_reachWith, reachWith, hf]
    simp only [hn.ne_dot, hn.ne_dots, Nat.not_lt.2 hn.size, hl, if_false]
    apply ih
  | @down links here name rest node spot es hf hn hl hnode h ih =>
    rw [reachFrom_eq_reachWith] at ih ⊢
    rw [reachWith, hf]
    simp only [hn.ne_dot, hn.ne_dots, Nat.not_lt.2 hn.size, hl, if_false]
    cases node with
    | link target => exact absurd rfl (hnode target)
    | file content => exact ih
    | folder entries => exact ih

/-- Following succeeds if and only if it leads to a spot, name by name and link by link. -/
theorem reachFrom_eq_ok_iff {top : Node} {links : Nat} {here p : Place} {spot : Spot} :
  reachFrom top links here p = .ok spot ↔ Leads top links here p spot
  := ⟨leads_of_reachFrom, Leads.reachFrom⟩

namespace Leads

variable {top : Node} {links : Nat} {here place p q : Place} {spot : Spot}
  {es : List (String × Node)}

/-- The entry at a spot is the one at its place. -/
theorem at?_place (h : Leads top links here p spot) :
  top.at? spot.place = spot.entry?
  := by
  induction h with
  | stay links here => rfl
  | dot hf h ih => exact ih
  | dots hf h ih => exact ih
  | free hf hn hl => rw [Node.at?_concat hf, hl]
  | link hf hn hl h ih => exact ih
  | down hf hn hl hnode h ih => exact ih

theorem nil_iff :
  Leads top links here [] spot ↔ spot = ⟨here, top.at? here⟩
  := by
  constructor
  · intro h
    cases h
    rfl
  · rintro rfl
    exact .stay links here

/-- A name leads from a folder to the entry that has it, or could have it, unless that is a link. -/
theorem entry {name : String} (hf : top.at? here = some (.folder es)) (hn : IsStep name)
    (hlink : ∀ target, es.lookup name ≠ some (.link target)) :
  Leads top links here [name] ⟨here ++ [name], es.lookup name⟩
  := by
  cases hl : es.lookup name with
  | none => exact .free hf hn hl
  | some node =>
    have hnode : ∀ target, node ≠ .link target := by
      rintro target rfl
      apply hlink target hl
    have hthere : top.at? (here ++ [name]) = some node := by
      rw [Node.at?_concat hf, hl]
    rw [← hthere]
    exact .down hf hn hl hnode (.stay links (here ++ [name]))

/-- From the folder to which a place leads the names after the place can be followed. -/
theorem append (h : Leads top links here p ⟨place, some (.folder es)⟩) :
  ∃ links', ∀ q spot, Leads top links' place q spot → Leads top links here (p ++ q) spot
  := by
  generalize hspot : (⟨place, some (.folder es)⟩ : Spot) = spot at h
  induction h with
  | stay links here =>
    obtain ⟨rfl, -⟩ := Spot.mk.inj hspot
    exact ⟨links, fun q spot h => h⟩
  | dot hf h ih =>
    obtain ⟨links', h'⟩ := ih hspot
    exact ⟨links', fun q spot hq => .dot hf (h' q spot hq)⟩
  | dots hf h ih =>
    obtain ⟨links', h'⟩ := ih hspot
    exact ⟨links', fun q spot hq => .dots hf (h' q spot hq)⟩
  | free hf hn hl => cases hspot
  | link hf hn hl h ih =>
    obtain ⟨links', h'⟩ := ih hspot
    use links'
    intro q spot hq
    rw [List.cons_append]
    apply Leads.link hf hn hl
    rw [← List.append_assoc]
    apply h' q spot hq
  | down hf hn hl hnode h ih =>
    obtain ⟨links', h'⟩ := ih hspot
    exact ⟨links', fun q spot hq => .down hf hn hl hnode (h' q spot hq)⟩

/-- A dot after the place of a folder leads to the folder. -/
theorem concat_dot (h : Leads top links here p ⟨place, some (.folder es)⟩) :
  Leads top links here (p ++ ["."]) ⟨place, some (.folder es)⟩
  := by
  obtain ⟨links', happ⟩ := h.append
  have hf : top.at? place = some (.folder es) := h.at?_place
  apply happ
  apply Leads.dot hf
  rw [nil_iff, hf]

/-- Names after a place can be followed only if the place leads to a folder. -/
theorem split (h : Leads top links here (p ++ q) spot) (hq : q ≠ []) :
  ∃ links' place es, Leads top links here p ⟨place, some (.folder es)⟩ ∧
    Leads top links' place q spot
  := by
  generalize hpq : p ++ q = names at h
  induction h generalizing p with
  | stay links here =>
    obtain ⟨rfl, rfl⟩ := List.append_eq_nil_iff.1 hpq
    contradiction
  | @dot links here rest spot es hf h ih =>
    obtain ⟨rfl, rfl⟩ | ⟨p, rfl, rfl⟩ := List.append_eq_cons_iff.1 hpq
    · exact ⟨links, here, es, hf ▸ .stay links here, .dot hf h⟩
    · obtain ⟨links', place, es, hp, hrest⟩ := ih rfl
      exact ⟨links', place, es, .dot hf hp, hrest⟩
  | @dots links here rest spot es hf h ih =>
    obtain ⟨rfl, rfl⟩ | ⟨p, rfl, rfl⟩ := List.append_eq_cons_iff.1 hpq
    · exact ⟨links, here, es, hf ▸ .stay links here, .dots hf h⟩
    · obtain ⟨links', place, es, hp, hrest⟩ := ih rfl
      exact ⟨links', place, es, .dots hf hp, hrest⟩
  | @free links here name es hf hn hl =>
    obtain ⟨rfl, rfl⟩ | ⟨p, rfl, hnil⟩ := List.append_eq_cons_iff.1 hpq
    · exact ⟨links, here, es, hf ▸ .stay links here, .free hf hn hl⟩
    · exact absurd (List.append_eq_nil_iff.1 hnil.symm).2 hq
  | @link links here name rest target spot es hf hn hl h ih =>
    obtain ⟨rfl, rfl⟩ | ⟨p, rfl, rfl⟩ := List.append_eq_cons_iff.1 hpq
    · exact ⟨links + 1, here, es, hf ▸ .stay (links + 1) here, .link hf hn hl h⟩
    · obtain ⟨links', place, es, hp, hrest⟩ := ih (p := Place.ofTarget target ++ p) (by simp)
      exact ⟨links', place, es, .link hf hn hl hp, hrest⟩
  | @down links here name rest node spot es hf hn hl hnode h ih =>
    obtain ⟨rfl, rfl⟩ | ⟨p, rfl, rfl⟩ := List.append_eq_cons_iff.1 hpq
    · exact ⟨links, here, es, hf ▸ .stay links here, .down hf hn hl hnode h⟩
    · obtain ⟨links', place, es, hp, hrest⟩ := ih rfl
      exact ⟨links', place, es, .down hf hn hl hnode hp, hrest⟩

end Leads

/-! ### Trees that keep folders and links -/

/-- Where the first tree has a folder, the second one has a folder, and where the first one has a
link, the second one has the same link. -/
structure Keeps (a b : Node) : Prop where
  folder : ∀ p es, a.at? p = some (.folder es) → ∃ es', b.at? p = some (.folder es')
  link : ∀ p target, a.at? p = some (.link target) → b.at? p = some (.link target)

/-- The entry is a file or a folder. -/
def IsSolid (entry : Option Node) : Prop :=
  ∃ node, entry = some node ∧ ∀ target, node ≠ .link target

/-- Where folders and links are kept, a place that led somewhere leads there still, if there is a
file or a folder now. -/
theorem Leads.keep_solid {top top' : Node} (hk : Keeps top top') {links : Nat} {here p : Place}
    {spot : Spot} (h : Leads top links here p spot) (hthere : IsSolid (top'.at? spot.place)) :
  Leads top' links here p ⟨spot.place, top'.at? spot.place⟩
  := by
  induction h with
  | stay links here => exact .stay links here
  | @dot links here rest spot es hf h ih =>
    obtain ⟨es', hf'⟩ := hk.folder here es hf
    exact .dot hf' (ih hthere)
  | @dots links here rest spot es hf h ih =>
    obtain ⟨es', hf'⟩ := hk.folder here es hf
    exact .dots hf' (ih hthere)
  | @free links here name es hf hn hl =>
    obtain ⟨es', hf'⟩ := hk.folder here es hf
    obtain ⟨node, hnode, hlink⟩ := hthere
    rw [Node.at?_concat hf'] at hnode ⊢
    apply Leads.entry hf' hn
    rintro target htarget
    rw [hnode] at htarget
    exact hlink target (Option.some.inj htarget)
  | @link links here name rest target spot es hf hn hl h ih =>
    obtain ⟨es', hf'⟩ := hk.folder here es hf
    have hl' : es'.lookup name = some (.link target) := by
      rw [← Node.at?_concat hf', hk.link]
      rw [Node.at?_concat hf, hl]
    exact .link hf' hn hl' (ih hthere)
  | @down links here name rest node spot es hf hn hl hnode h ih =>
    obtain ⟨es', hf'⟩ := hk.folder here es hf
    -- The way ends at the entry or goes on below it; then the entry is a folder.
    have hsolid : IsSolid (top'.at? (here ++ [name])) := by
      have hfolder : ∀ es₁, top.at? (here ++ [name]) = some (.folder es₁) →
          IsSolid (top'.at? (here ++ [name])) := by
        intro es₁ hf₁
        obtain ⟨es₂, hf₂⟩ := hk.folder _ es₁ hf₁
        exact ⟨_, hf₂, by simp⟩
      cases h with
      | stay => exact hthere
      | dot hf₁ _ => exact hfolder _ hf₁
      | dots hf₁ _ => exact hfolder _ hf₁
      | free hf₁ _ _ => exact hfolder _ hf₁
      | link hf₁ _ _ _ => exact hfolder _ hf₁
      | down hf₁ _ _ _ _ => exact hfolder _ hf₁
    obtain ⟨node', hnode', hlink⟩ := hsolid
    rw [Node.at?_concat hf'] at hnode'
    exact .down hf' hn hnode' hlink (ih hthere)

/-- Where folders and links are kept, a place that led to a folder leads there still. -/
theorem Leads.keep {top top' : Node} (hk : Keeps top top') {links : Nat} {here p place : Place}
    {es : List (String × Node)} (h : Leads top links here p ⟨place, some (.folder es)⟩) :
  ∃ es', Leads top' links here p ⟨place, some (.folder es')⟩
  := by
  obtain ⟨es', hthere⟩ := hk.folder place es h.at?_place
  have hkept := h.keep_solid hk ⟨_, hthere, by simp⟩
  rw [hthere] at hkept
  exact ⟨es', hkept⟩

/-- Where folders and links are kept, a place that led to a file leads there still, if there is a
file still. -/
theorem Leads.keep_file {top top' : Node} (hk : Keeps top top') {links : Nat} {here p place : Place}
    {c c' : Content} (h : Leads top links here p ⟨place, some (.file c)⟩)
    (hthere : top'.at? place = some (.file c')) :
  Leads top' links here p ⟨place, some (.file c')⟩
  := by
  have hkept := h.keep_solid hk ⟨_, hthere, by simp⟩
  rwa [hthere] at hkept

end AnchorIndex.Files

import AnchorIndex.Proofs.Files.Sparing

/-!
# Files that are written

A file that is written to a path is found there: the path means it (`spot_of_write`), so that it is
there and its content can be read (`has_of_write`, `content_of_write`).
-/

namespace AnchorIndex.Files

variable {top : Node} {links : Nat} {here p place : Place}

/-- There are folders all the way up to a folder. -/
theorem Node.exists_folder_of_append {es : List (String × Node)} {p q : Place}
    (h : top.at? (p ++ q) = some (.folder es)) :
  ∃ es', top.at? p = some (.folder es')
  := by
  rw [Node.at?_append, Option.bind_eq_some_iff] at h
  obtain ⟨node, hnode, hrest⟩ := h
  cases q with
  | nil =>
    cases hrest
    exact ⟨es, hnode⟩
  | cons name q =>
    obtain ⟨es', -, rfl, -, -⟩ := Node.at?_cons_eq_some hrest
    exact ⟨es', hnode⟩

/-- Names that do not lead to a folder lead to a file in a folder, or to where one could be. -/
theorem Leads.exists_folder {spot : Spot} (h : Leads top links here p spot) (hp : p ≠ [])
    (hfolder : ∀ es, spot.entry? ≠ some (.folder es)) :
  ∃ above name es, spot.place = above ++ [name] ∧ top.at? above = some (.folder es) ∧
    es.lookup name = spot.entry? ∧ IsPlain spot.entry?
  := by
  -- no names lead from a folder to the folder itself
  have hmoves {links : Nat} {here rest : Place} {spot : Spot} (h : Leads top links here rest spot)
      (hthere : ∃ es, top.at? here = some (.folder es))
      (hfolder : ∀ es, spot.entry? ≠ some (.folder es)) : rest ≠ [] := by
    rintro rfl
    obtain ⟨es, hes⟩ := hthere
    obtain rfl := Leads.nil_iff.1 h
    exact hfolder es hes
  induction h with
  | stay links here => contradiction
  | dot hf h ih => exact ih (hmoves h ⟨_, hf⟩ hfolder) hfolder
  | @dots links here rest spot es hf h ih =>
    have habove : ∃ es, top.at? here.dropLast = some (.folder es) := by
      obtain ⟨q, hq⟩ := here.dropLast_prefix
      exact Node.exists_folder_of_append (hq.symm ▸ hf)
    exact ih (hmoves h habove hfolder) hfolder
  | free hf hn hl =>
    refine ⟨_, _, _, rfl, hf, hl, ?_⟩
    rintro node ⟨⟩
  | @link links here name rest target spot es hf hn hl h ih =>
    have hstart :
        ∃ es, top.at? (if target.startsWith "/" then [] else here) = some (.folder es) := by
      split
      · exact Node.exists_folder_of_append (p := []) hf
      · exact ⟨es, hf⟩
    exact ih (hmoves h hstart hfolder) hfolder
  | @down links here name rest node spot es hf hn hl hnode h ih =>
    by_cases hrest : rest = []
    · subst hrest
      obtain rfl := Leads.nil_iff.1 h
      have hentry : top.at? (here ++ [name]) = some node := by
        rw [Node.at?_concat hf, hl]
      rw [hentry] at hfolder ⊢
      refine ⟨here, name, es, rfl, hf, hl, ?_⟩
      rintro _ ⟨⟩
      cases node with
      | file c => rfl
      | link target => exact absurd rfl (hnode target)
      | folder es => exact absurd rfl (hfolder es)
    · exact ih hrest hfolder

variable {d d' : Disk} {path : String} {c : Content}

/-- The path of a file that is written means the file. -/
theorem spot_of_write (h : d.write path c = .ok d') :
  ∃ place, d'.spot path = .ok ⟨place, some (.file c)⟩
  := by
  obtain ⟨⟨place, entry?⟩, hspot, hfolder, rfl⟩ : ∃ spot, d.spot path = .ok spot ∧
      (∀ es, spot.entry? ≠ some (.folder es)) ∧ d' = d.insert spot.place (.file c) := by
    rw [Disk.write] at h
    split at h
    · cases h
    · cases h
    next place entry? hnot hspot =>
      cases h
      refine ⟨_, hspot, ?_, rfl⟩
      rintro es rfl
      exact hnot es rfl
  rw [Disk.spot, meaning_eq_ok_iff, Node.reach] at hspot
  obtain ⟨hshort, hreach⟩ := hspot
  have hleads := leads_of_reachFrom hreach
  use place
  apply hshort.spot_eq
  cases hp : Place.ofText path with
  | nil =>
    rw [hp] at hleads
    obtain ⟨rfl, -⟩ := Spot.mk.inj (Leads.nil_iff.1 hleads)
    exact .stay maxLinks []
  | cons name rest =>
    obtain ⟨above, name, es, rfl, hf, hl, hplain⟩ :=
      hleads.exists_folder (hp ▸ List.cons_ne_nil _ _) hfolder
    have hthere : (Node.insert (.file c) (above ++ [name]) (some d.tree)).at? (above ++ [name])
        = some (.file c) := by
      rw [Node.at?_concat (at?_insert_concat _ name hf), lookup_alterEntry, if_pos rfl]
    have hkept := hleads.keep_solid (Keeps.insert hf (hl ▸ hplain) (.file c)) ⟨_, hthere, by simp⟩
    dsimp only at hkept
    rw [hthere] at hkept
    rw [← hp]
    exact hkept

theorem has_of_write (h : d.write path c = .ok d') :
  d'.has path = .ok true
  := by
  obtain ⟨place, hspot⟩ := spot_of_write h
  rw [Disk.has, Disk.find?, hspot]
  rfl

theorem content_of_write (h : d.write path c = .ok d') :
  d'.content path = .ok c
  := by
  obtain ⟨place, hspot⟩ := spot_of_write h
  rw [Disk.content, hspot]
  rfl

end AnchorIndex.Files

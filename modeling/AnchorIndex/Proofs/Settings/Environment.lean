import AnchorIndex.Proofs.Datum.Traversal
import AnchorIndex.Proofs.Settings.Checking
import AnchorIndex.Settings.Environment

/-!
# Settings of the environment as sections

The environment sets nothing but sections, each at most once (`isDictionary_read`,
`hasOnlySections_read`), and the keys of a section are distinct (`isDictionary_of_read`).
-/

namespace AnchorIndex.Environment

variable {env : Environment} {d : Datum}

theorem isDictionary_respelled (s : Section) (es : List (String × Datum)) :
  (Datum.table (respelled s es)).IsDictionary
  := by
  use respelled s es, rfl
  apply nodup_foldl_setEntry
  exact List.nodup_nil

/-- What is set in a section is a dictionary if it is a table at all. -/
theorem isDictionary_sectionValue {s : Section} {es : List (String × Datum)}
    (h : sectionValue s env = .ok (some (.table es))) :
  (Datum.table es).IsDictionary
  := by
  rw [sectionValue] at h
  split at h
  · obtain ⟨entries, -, hentries⟩ := bind_eq_ok_iff.1 h
    split at hentries
    · cases hentries
    · cases hentries
      apply isDictionary_respelled
  · obtain ⟨json, -, hjson⟩ := bind_eq_ok_iff.1 h
    split at hjson
    · cases hjson
    · obtain ⟨merged, -, hmerged⟩ := bind_eq_ok_iff.1 hjson
      cases hmerged
      apply isDictionary_respelled
    next hnull htable =>
      cases hjson
      exact absurd rfl (htable es)

/-- What the environment sets is set in a section. -/
theorem exists_sectionValue_of_read (h : read env = .ok d) {key : String} {v : Datum}
    (hv : d.get? key = some v) :
  ∃ s ∈ sections, s.name = key ∧ sectionValue s (lowered env) = .ok (some v)
  := by
  obtain ⟨values, hvalues, hd⟩ := bind_eq_ok_iff.1 h
  cases hd
  obtain ⟨value?, hmem, rfl⟩ := List.mem_filterMap.1 (mem_of_lookup_eq_some hv)
  obtain ⟨s, hs, heq⟩ := exists_of_mem_mapM hvalues hmem
  obtain ⟨value?, hvalue?, hmap⟩ := bind_eq_ok_iff.1 heq
  obtain ⟨v', rfl, hpair⟩ := Option.map_eq_some_iff.1 (Except.ok.inj hmap)
  cases hpair
  exact ⟨s, hs, rfl, hvalue?⟩

theorem hasOnlySections_read (h : read env = .ok d) :
  Validation.HasOnlySections d
  := by
  intro key hkey
  obtain ⟨v, hv⟩ := Option.isSome_iff_exists.1 hkey
  obtain ⟨s, hs, rfl, -⟩ := exists_sectionValue_of_read h hv
  have hnames : ∀ s ∈ sections, s.name ∈ Validation.sectionKeys := by
    simp [sections, Validation.sectionKeys]
  exact hnames s hs

theorem isDictionary_of_read (h : read env = .ok d) {key : String} {es : List (String × Datum)}
    (hes : d.get? key = some (.table es)) :
  (Datum.table es).IsDictionary
  := by
  obtain ⟨s, -, -, hvalue⟩ := exists_sectionValue_of_read h hes
  exact isDictionary_sectionValue hvalue

/-- Entries that are named for some of the sections have names as the sections have. -/
theorem sublist_names {ss : List Section} {values : List (Option (String × Datum))}
    (h : List.Forall₂ (fun s value? => ∀ p ∈ value?, p.1 = s.name) ss values) :
  ((values.filterMap id).map Prod.fst).Sublist (ss.map (·.name))
  := by
  induction h with
  | nil => exact List.Sublist.refl []
  | @cons s value? ss values hvalue _ ih =>
    cases value? with
    | none => exact ih.cons _
    | some p =>
      have hname : p.1 = s.name := hvalue p rfl
      change (p.1 :: (values.filterMap id).map Prod.fst).Sublist (s.name :: ss.map (·.name))
      rw [hname]
      exact ih.cons_cons _

theorem isDictionary_read (h : read env = .ok d) :
  d.IsDictionary
  := by
  obtain ⟨values, hvalues, hd⟩ := bind_eq_ok_iff.1 h
  cases hd
  refine ⟨_, rfl, ?_⟩
  apply (sublist_names ((mapM_eq_ok_iff.1 hvalues).imp _)).nodup
  · simp [sections]
  · intro s value? heq p hp
    obtain ⟨v?, -, hmap⟩ := bind_eq_ok_iff.1 heq
    cases hmap
    obtain ⟨v, -, rfl⟩ := Option.map_eq_some_iff.1 hp
    rfl

end AnchorIndex.Environment

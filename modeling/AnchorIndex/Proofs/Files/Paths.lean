import AnchorIndex.Files.Disk
import AnchorIndex.Proofs.Files.Following
import AnchorIndex.Proofs.Text.Splitting

/-!
# Paths as texts

A stroke in a text separates names, so the place of a text goes through the places of its parts
(`Place.ofText_append_stroke`). A path without its empty names and single dots names the same
place (`ofText_normalPath`) and is no longer (`utf8ByteSize_normalPath_le`). The path of an entry
of a folder names the place of the folder with one name more (`ofText_joinPath`).
-/

namespace AnchorIndex.Files

/-! ### Names of entries -/

/-- A text that can name an entry of a folder. -/
structure IsEntryName (name : String) : Prop where
  step : IsStep name
  ne_empty : name ≠ ""
  noStroke : '/' ∉ name.toList
  noNull : '\x00' ∉ name.toList

theorem IsEntryName.startsWith_eq_false {name : String} (h : IsEntryName name) (rest : String) :
  name.startsWith ("/" ++ rest) = false
  := by
  rw [String.startsWith_string_eq_false_iff]
  intro hpre
  apply h.noStroke
  apply hpre.subset
  simp

/-! ### Places of texts -/

namespace Place

theorem ofText_append_stroke (a b : String) :
  ofText (a ++ "/" ++ b) = ofText a ++ ofText b
  := by
  have hlist : (a ++ "/" ++ b).toList = a.toList ++ '/' :: b.toList := by simp
  simp only [ofText, names, parts]
  rw [hlist, Text.splitAt_append, List.map_append, List.filter_append, List.filter_append]

theorem ofText_empty :
  ofText "" = []
  := rfl

theorem ofText_stroke_append (s : String) :
  ofText ("/" ++ s) = ofText s
  := by
  have h := ofText_append_stroke "" s
  rwa [String.empty_append, ofText_empty, List.nil_append] at h

/-- A text without strokes that is neither empty nor a dot is one name. -/
theorem ofText_eq_singleton {name : String} (hslash : '/' ∉ name.toList) (hempty : name ≠ "")
    (hdot : name ≠ ".") :
  ofText name = [name]
  := by
  rw [ofText, names, parts, Text.splitAt_of_notMem hslash, List.map_singleton,
    String.ofList_toList]
  simp [hempty, hdot]

/-- The names in the place of a text have no strokes and are neither empty nor dots. -/
theorem of_mem_ofText {s name : String} (h : name ∈ ofText s) :
  '/' ∉ name.toList ∧ name ≠ "" ∧ name ≠ "."
  := by
  simp only [ofText, names, parts, List.mem_filter, List.mem_map, bne_iff_ne] at h
  obtain ⟨⟨⟨piece, hpiece, rfl⟩, hempty⟩, hdot⟩ := h
  refine ⟨?_, hempty, hdot⟩
  rw [String.toList_ofList]
  apply Text.notMem_of_mem_splitAt hpiece

theorem text_cons_cons (a b : String) (p : Place) :
  text (a :: b :: p) = a ++ "/" ++ text (b :: p)
  := String.intercalate_cons_cons

/-- Names that a text can hold are read back from the text of their place. -/
theorem ofText_text {p : Place}
    (h : ∀ name ∈ p, '/' ∉ name.toList ∧ name ≠ "" ∧ name ≠ ".") :
  ofText (text p) = p
  := by
  induction p with
  | nil => rfl
  | cons a p ih =>
    obtain ⟨hslash, hempty, hdot⟩ := h a (by simp)
    have ha := ofText_eq_singleton hslash hempty hdot
    cases p with
    | nil =>
      rw [text, String.intercalate_singleton]
      apply ha
    | cons b p =>
      rw [text_cons_cons, ofText_append_stroke, ha, ih fun name hname => h name (by simp_all)]
      rfl

/-! ### Their sizes -/

theorem utf8ByteSize_text_cons (a : String) (p : Place) :
  (text (a :: p)).utf8ByteSize
    = a.utf8ByteSize + if p = [] then 0 else 1 + (text p).utf8ByteSize
  := by
  cases p with
  | nil => simp [text]
  | cons b p =>
    rw [text_cons_cons, String.utf8ByteSize_append, String.utf8ByteSize_append]
    have hstroke : "/".utf8ByteSize = 1 := by decide +kernel
    rw [hstroke, if_neg (List.cons_ne_nil b p), Nat.add_assoc]

theorem utf8ByteSize_text_concat {p : Place} (hp : p ≠ []) (a : String) :
  (text (p ++ [a])).utf8ByteSize = (text p).utf8ByteSize + 1 + a.utf8ByteSize
  := by
  induction p with
  | nil => contradiction
  | cons b p ih =>
    rw [List.cons_append, utf8ByteSize_text_cons, utf8ByteSize_text_cons,
      if_neg (List.append_ne_nil_of_right_ne_nil p (List.cons_ne_nil a []))]
    by_cases hnil : p = []
    · rw [if_pos hnil, hnil, List.nil_append, text, String.intercalate_singleton]
      omega
    · rw [if_neg hnil, ih hnil]
      omega

/-- With fewer names a text gets no longer. -/
theorem utf8ByteSize_text_filter_le (f : String → Bool) (p : Place) :
  (text (p.filter f)).utf8ByteSize ≤ (text p).utf8ByteSize
  := by
  induction p with
  | nil => simp
  | cons a p ih =>
    have hp := utf8ByteSize_text_cons a p
    rw [List.filter_cons]
    split
    · have hf := utf8ByteSize_text_cons a (p.filter f)
      rw [hf, hp]
      by_cases hnil : p = []
      · simp [hnil]
      · rw [if_neg hnil]
        split <;> omega
    · rw [hp]
      by_cases hnil : p = []
      · simp [hnil, text]
      · rw [if_neg hnil]
        omega

theorem text_parts (s : String) :
  text (parts s) = s
  := by
  apply String.toList_injective
  rw [text, parts, String.toList_intercalate]
  have hmap : ∀ ps : List (List Char), (ps.map String.ofList).map String.toList = ps := by
    intro ps
    simp
  rw [hmap]
  apply Text.joinWith_splitAt '/' s.toList

theorem utf8ByteSize_text_ofText_le (s : String) :
  (text (ofText s)).utf8ByteSize ≤ s.utf8ByteSize
  := by
  calc (text (ofText s)).utf8ByteSize
      ≤ (text (names s)).utf8ByteSize := utf8ByteSize_text_filter_le _ _
    _ ≤ (text (parts s)).utf8ByteSize := utf8ByteSize_text_filter_le _ _
    _ = s.utf8ByteSize := by rw [text_parts]

end Place

/-! ### Normal paths -/

/-- A path starts with its lead, which is made of strokes. -/
theorem exists_eq_lead_append (path : String) :
  ∃ rest, path = lead path ++ rest ∧ ∀ s, Place.ofText (lead path ++ s) = Place.ofText s
  := by
  rw [lead]
  split
  next h =>
    have htwo : path.startsWith "//" = true := by
      simp only [Bool.and_eq_true] at h
      apply h.1
    rw [String.startsWith_string_iff] at htwo
    obtain ⟨cs, hcs⟩ := htwo
    use String.ofList cs
    constructor
    · apply String.toList_injective
      rw [← hcs]
      simp
    · intro s
      have htwice : "//" ++ s = "/" ++ ("/" ++ s) := by
        apply String.toList_injective
        simp
      rw [htwice, Place.ofText_stroke_append, Place.ofText_stroke_append]
  · split
    next h =>
      rw [String.startsWith_string_iff] at h
      obtain ⟨cs, hcs⟩ := h
      use String.ofList cs
      constructor
      · apply String.toList_injective
        rw [← hcs]
        simp
      · apply Place.ofText_stroke_append
    · use path
      simp

/-- A path without empty names and single dots names the same place. -/
theorem ofText_normalPath (path : String) :
  Place.ofText (normalPath path) = Place.ofText path
  := by
  obtain ⟨rest, -, hlead⟩ := exists_eq_lead_append path
  rw [normalPath, hlead]
  apply Place.ofText_text fun name => Place.of_mem_ofText

/-- A path without empty names and single dots is no longer. -/
theorem utf8ByteSize_normalPath_le (path : String) :
  (normalPath path).utf8ByteSize ≤ path.utf8ByteSize
  := by
  obtain ⟨rest, hpath, hlead⟩ := exists_eq_lead_append path
  have hplace : Place.ofText path = Place.ofText rest := by
    rw [hpath, hlead]
  calc (normalPath path).utf8ByteSize
      = (lead path).utf8ByteSize + (Place.text (Place.ofText rest)).utf8ByteSize := by
        rw [normalPath, String.utf8ByteSize_append, hplace]
    _ ≤ (lead path).utf8ByteSize + rest.utf8ByteSize :=
        Nat.add_le_add_left (Place.utf8ByteSize_text_ofText_le rest) _
    _ = path.utf8ByteSize := by rw [← String.utf8ByteSize_append, ← hpath]

theorem isPath_iff {s : String} :
  isPath s = true ↔ '\x00' ∉ s.toList
  := by
  simp [isPath]

theorem isPath_append {a b : String} :
  isPath (a ++ b) = true ↔ isPath a = true ∧ isPath b = true
  := by
  simp [isPath_iff, not_or]

theorem isPath_lead (path : String) :
  isPath (lead path) = true
  := by
  rw [lead]
  split
  · decide
  · split <;> decide

theorem Place.isPath_text {p : Place} (h : ∀ name ∈ p, isPath name = true) :
  isPath (text p) = true
  := by
  induction p with
  | nil => decide
  | cons a p ih =>
    cases p with
    | nil =>
      rw [text, String.intercalate_singleton]
      apply h a (by simp)
    | cons b p =>
      rw [text_cons_cons, isPath_append, isPath_append]
      refine ⟨⟨h a (by simp), by decide⟩, ih ?_⟩
      intro name hname
      apply h name (List.mem_cons_of_mem a hname)

theorem isPath_of_mem_ofText {s name : String} (hs : isPath s = true)
    (h : name ∈ Place.ofText s) :
  isPath name = true
  := by
  rw [isPath_iff] at hs ⊢
  simp only [Place.ofText, Place.names, Place.parts, List.mem_filter, List.mem_map] at h
  obtain ⟨⟨⟨piece, hpiece, rfl⟩, -⟩, -⟩ := h
  rw [String.toList_ofList]
  intro hnull
  apply hs (Text.mem_of_mem_splitAt hpiece hnull)

theorem isPath_normalPath {path : String} (h : isPath path = true) :
  isPath (normalPath path) = true
  := by
  rw [normalPath, isPath_append]
  use isPath_lead path
  apply Place.isPath_text
  intro name
  apply isPath_of_mem_ofText h

/-! ### Paths of entries -/

/-- What stands before the names of the entries of a folder in their paths. -/
def beforeNames (folder : String) : String :=
  if folder = "" ∨ folder.endsWith "/" = true then folder else folder ++ "/"

theorem normalPath_of_isEntryName {name : String} (h : IsEntryName name) :
  normalPath name = name
  := by
  have hone : name.startsWith "/" = false := h.startsWith_eq_false ""
  have htwo : name.startsWith "//" = false := h.startsWith_eq_false "/"
  have hlead : lead name = "" := by simp [lead, hone, htwo]
  rw [normalPath, hlead, String.empty_append,
    Place.ofText_eq_singleton h.noStroke h.ne_empty h.step.ne_dot, Place.text,
    String.intercalate_singleton]

theorem joinPath_eq (folder : String) {name : String} (h : IsEntryName name) :
  joinPath folder name = beforeNames folder ++ name
  := by
  have hone : name.startsWith "/" = false := h.startsWith_eq_false ""
  rw [joinPath, hone, if_neg Bool.false_ne_true, normalPath_of_isEntryName h]
  simp only [if_neg h.ne_empty, beforeNames]
  split <;> rfl

/-- The path of an entry of a folder names the place of the folder with one name more. -/
theorem ofText_joinPath (folder : String) {name : String} (h : IsEntryName name) :
  Place.ofText (joinPath folder name) = Place.ofText folder ++ [name]
  := by
  have hname := Place.ofText_eq_singleton h.noStroke h.ne_empty h.step.ne_dot
  rw [joinPath_eq folder h, beforeNames]
  split
  next hfolder =>
    obtain rfl | hends := hfolder
    · rw [String.empty_append, hname, Place.ofText_empty, List.nil_append]
    · rw [String.endsWith_eq_endsWith_toSlice, String.Slice.endsWith_string_iff] at hends
      obtain ⟨cs, hcs⟩ := hends
      have hfolder : folder = String.ofList cs ++ "/" ++ "" := by
        apply String.toList_injective
        simpa using hcs.symm
      rw [hfolder, String.append_empty, Place.ofText_append_stroke, hname]
      rw [← String.append_empty (s := String.ofList cs ++ "/"), Place.ofText_append_stroke,
        Place.ofText_empty, List.append_nil]
  · rw [Place.ofText_append_stroke, hname]

theorem isPath_joinPath {folder name : String} (hfolder : isPath folder = true)
    (h : IsEntryName name) :
  isPath (joinPath folder name) = true
  := by
  have hname : isPath name = true := isPath_iff.2 h.noNull
  rw [joinPath_eq folder h, isPath_append, beforeNames]
  use ?_
  split
  · apply hfolder
  · apply isPath_append.2 ⟨hfolder, by decide⟩

theorem utf8ByteSize_joinPath_le (folder : String) {name : String} (h : IsEntryName name) :
  (joinPath folder name).utf8ByteSize ≤ folder.utf8ByteSize + 1 + name.utf8ByteSize
  := by
  rw [joinPath_eq folder h, String.utf8ByteSize_append, beforeNames]
  apply Nat.add_le_add_right
  split
  · omega
  · have hstroke : (folder ++ "/").utf8ByteSize = folder.utf8ByteSize + 1 := by
      rw [String.utf8ByteSize_append]
      rfl
    apply Nat.le_of_eq hstroke

/-! ### Paths below a folder -/

/-- A path below a folder ends with the path without empty names and single dots, behind the folder
or behind nothing. -/
theorem exists_joinPath_eq_append (folder path : String) :
  ∃ front, joinPath folder path = front ++ normalPath path
    ∧ (front = "" ∨ front = folder ∨ front = folder ++ "/")
  := by
  rw [joinPath]
  dsimp only
  split
  · exact ⟨"", by rw [String.empty_append], .inl rfl⟩
  · split
    next hempty => exact ⟨folder, by rw [hempty, String.append_empty], .inr (.inl rfl)⟩
    next =>
      split
      · exact ⟨folder, rfl, .inr (.inl rfl)⟩
      · exact ⟨folder ++ "/", rfl, .inr (.inr rfl)⟩

theorem utf8ByteSize_text_le_joinPath (folder path : String) :
  (Place.text (Place.ofText path)).utf8ByteSize ≤ (joinPath folder path).utf8ByteSize
  := by
  obtain ⟨front, hpath, -⟩ := exists_joinPath_eq_append folder path
  rw [hpath, String.utf8ByteSize_append, normalPath, String.utf8ByteSize_append]
  omega

theorem utf8ByteSize_joinPath_le_add (folder path : String) :
  (joinPath folder path).utf8ByteSize ≤ folder.utf8ByteSize + 1 + path.utf8ByteSize
  := by
  have hnormal := utf8ByteSize_normalPath_le path
  obtain ⟨front, hpath, rfl | rfl | rfl⟩ := exists_joinPath_eq_append folder path
  · rw [hpath, String.empty_append]
    omega
  · rw [hpath, String.utf8ByteSize_append]
    omega
  · have hstroke : "/".utf8ByteSize = 1 := by decide +kernel
    rw [hpath, String.utf8ByteSize_append, String.utf8ByteSize_append, hstroke]
    omega

theorem isPath_joinPath_of_isPath {folder path : String} (hfolder : isPath folder = true)
    (hpath : isPath path = true) :
  isPath (joinPath folder path) = true
  := by
  have hnormal := isPath_normalPath hpath
  obtain ⟨front, heq, rfl | rfl | rfl⟩ := exists_joinPath_eq_append folder path
  · rw [heq, String.empty_append]
    exact hnormal
  · rw [heq]
    exact isPath_append.2 ⟨hfolder, hnormal⟩
  · rw [heq, isPath_append, isPath_append]
    exact ⟨⟨hfolder, by decide⟩, hnormal⟩

/-- A path below the top of the file system names its own place. -/
theorem ofText_joinPath_top (path : String) :
  Place.ofText (joinPath "/" path) = Place.ofText path
  := by
  have hends : "/".endsWith "/" = true := by decide +kernel
  rw [joinPath]
  dsimp only
  split
  · exact ofText_normalPath path
  · split
    next hempty =>
      rw [← ofText_normalPath path, hempty]
      rfl
    next => rw [if_pos (.inr hends), Place.ofText_stroke_append, ofText_normalPath]

end AnchorIndex.Files

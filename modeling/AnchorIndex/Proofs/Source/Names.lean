import AnchorIndex.Proofs.Document.Normal
import AnchorIndex.Proofs.Source.Nesting
import AnchorIndex.Proofs.Text.Words

/-!
# Names of constructs

A document keeps the name of every construct that a scan finds (`isNormal_name`): it is a name
without blanks, or the squeezed text of the header of an implementation.
-/

namespace AnchorIndex.Source

open Document (IsNormal Unbroken isBreak isNormal_of_solid)

/-! ### Names of headers -/

/-- A document keeps a name at the start of a text. -/
theorem isNormal_of_name? {cs name rest : List Char} (h : Text.name? cs = some (name, rest)) :
  IsNormal (String.ofList name)
  := by
  apply isNormal_of_solid
  rw [String.toList_ofList]
  cases cs with
  | nil => contradiction
  | cons c cs =>
    rw [Text.name?] at h
    split at h
    next hstart =>
      cases h
      intro d hd
      apply Text.isBlank_of_isNameChar
      obtain rfl | hd := List.mem_cons.1 hd
      · apply Text.isNameChar_of_isNameStart hstart
      · apply List.mem_takeWhile_imp hd
    · contradiction

theorem isNormal_of_nameAfter? {keyword cs : List Char} {name : String}
    (h : nameAfter? keyword cs = some name) :
  IsNormal name
  := by
  rw [nameAfter?, Option.map_eq_some_iff] at h
  obtain ⟨⟨cs', rest⟩, hname, rfl⟩ := h
  obtain ⟨mid, -, hname⟩ := Option.bind_eq_some_iff.1 hname
  apply isNormal_of_name? hname

/-- A document keeps a squeezed text. -/
theorem isNormal_squeeze (cs : List Char) :
  IsNormal (String.ofList (Text.squeeze cs))
  := by
  rw [IsNormal, String.toList_ofList]
  refine ⟨?_, Text.strip_squeeze cs⟩
  intro c hc
  rw [isBreak, Bool.or_eq_false_iff, beq_eq_false_iff_ne, beq_eq_false_iff_ne]
  constructor
  · rintro rfl
    exact absurd (Text.eq_space_of_mem_squeeze hc (by decide)) (by decide)
  · rintro rfl
    exact absurd (Text.eq_space_of_mem_squeeze hc (by decide)) (by decide)

theorem isNormal_of_implementationName? {rest : List Char} {name : String}
    (h : implementationName? rest = some name) :
  IsNormal name
  := by
  rw [implementationName?] at h
  split at h
  · contradiction
  · cases h
    apply isNormal_squeeze

theorem isNormal_of_header? {kind : Kind} {line : List Char} {name : String}
    (h : header? kind line = some name) :
  IsNormal name
  := by
  cases kind with
  | function => exact isNormal_of_nameAfter? h
  | struct => exact isNormal_of_nameAfter? h
  | trait => exact isNormal_of_nameAfter? h
  | enumeration => exact isNormal_of_nameAfter? h
  | implementation =>
    rw [header?, implementationHeader?] at h
    split at h
    · contradiction
    · apply isNormal_of_implementationName? h
    · split at h
      · contradiction
      · apply isNormal_of_implementationName? h

/-- A document keeps the name of every construct that is found. -/
theorem isNormal_name {kind : Kind} {text : String} {r : Range} (h : r ∈ scan kind text) :
  IsNormal r.name
  := by
  obtain ⟨ending, hstands⟩ := stands_of_mem_scan h
  obtain ⟨line, -, hheader⟩ := hstands.header
  apply isNormal_of_header? hheader

end AnchorIndex.Source

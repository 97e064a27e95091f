import AnchorIndex.Proofs.Store.Stored
import AnchorIndex.Proofs.Text.Numerals

/-!
# Fresh stores

Identities are hexadecimal numerals, none of which is given out twice (`Mint.IsLawful`), and so
are those of the supply that the store starts with (`Mint.isLawful_after`). A store is fresh
(`State.IsFresh`) if it remembers nothing and its documents hold nothing, as in an empty folder
(`State.isFresh_of_hosts`).
-/

namespace AnchorIndex.Store

open Files
open Document (IsNormal)

/-! ### Tokens -/

/-- The tokens are hexadecimal numerals, and no token is given out twice. -/
structure Mint.IsLawful (m : Mint) : Prop where
  injective : Function.Injective m.token
  isHexadecimal : ∀ i, Text.IsHexadecimal (m.token i)

theorem Mint.isLawful_after (last : Nat) :
  (Mint.after last).IsLawful
  := by
  constructor
  · intro a b h
    have heq := Text.hexadecimal_injective 32 h
    omega
  · intro i
    apply Text.isHexadecimal_hexadecimal

/-- A document keeps a hexadecimal numeral as it is. -/
theorem isNormal_of_isHexadecimal {t : String} (h : Text.IsHexadecimal t) :
  IsNormal t
  := by
  apply Document.isNormal_of_solid
  intro c hc
  apply Text.isBlank_of_mem_isHexadecimal h hc

theorem Mint.IsLawful.isNormal {m : Mint} (h : m.IsLawful) (i : Nat) :
  IsNormal (m.token i)
  := isNormal_of_isHexadecimal (h.isHexadecimal i)

theorem Mint.IsLawful.ne_empty {m : Mint} (h : m.IsLawful) (i : Nat) :
  m.token i ≠ ""
  := Text.ne_empty_of_isHexadecimal (h.isHexadecimal i)

theorem Mint.IsLawful.skip {m : Mint} (h : m.IsLawful) (n : Nat) :
  (m.skip n).IsLawful
  := ⟨h.injective, h.isHexadecimal⟩

/-! ### Stores without documents -/

/-- The store remembers nothing, and its documents hold nothing. -/
structure State.IsFresh (s : State) : Prop where
  usable : s.Usable
  memory_eq : s.memory = .empty
  records_eq : ∀ schema ∈ schemas, s.records schema = .ok []

theorem State.IsFresh.documented_eq {s : State} (h : s.IsFresh) (kind : Kind) :
  s.documented kind = .ok []
  := by
  rw [State.documented_eq, h.records_eq _ (entitySchema_mem_schemas kind)]
  rfl

theorem State.IsFresh.stored_eq {s : State} (h : s.IsFresh) (kind : Kind) :
  s.stored kind = .ok []
  := by
  rw [State.stored_of_none, h.documented_eq]
  rw [h.memory_eq]
  rfl

/-- A store that remembers nothing is fresh in an empty folder. -/
theorem State.isFresh_of_hosts {s : State} {place : Place}
    (h : Hosts s.disk s.folder place []) (hempty : s.memory = .empty) :
  s.IsFresh
  := by
  refine ⟨State.usable_of_hosts h, hempty, ?_⟩
  intro schema hs
  apply h.records_withDisk hs

/-- A store that remembers nothing is fresh if a check finds that its folder hosts it and that its
documents hold nothing. -/
theorem State.isFresh_of_isHosted {s : State} (h : s.isHosted = true) (hempty : s.memory = .empty)
    (hnone : ∀ schema ∈ schemas, (s.records schema).toOption.map (·.isEmpty) = some true) :
  s.IsFresh
  := by
  refine ⟨State.usable_of_isHosted h, hempty, ?_⟩
  intro schema hs
  have hrecords := hnone schema hs
  cases heq : s.records schema with
  | error failure =>
    rw [heq] at hrecords
    contradiction
  | ok rs =>
    rw [heq] at hrecords
    rw [List.isEmpty_iff.1 (Option.some.inj hrecords)]

/-- A store in an empty folder. -/
def emptyStore : State where
  disk := ⟨"/", .folder [("metadata", .empty)]⟩
  folder := "/metadata"
  mint := .after 0
  memory := .empty

theorem hosts_emptyStore :
  Hosts emptyStore.disk emptyStore.folder ["metadata"] []
  := by
  constructor
  · decide +kernel
  · decide +kernel
  · have hplace : Place.ofText emptyStore.folder = ["metadata"] := by decide +kernel
    rw [hplace]
    apply Leads.down rfl ⟨by decide, by decide, by decide +kernel⟩ rfl
    · intro target h
      contradiction
    · exact .stay maxLinks ["metadata"]
  · intro name _ node hnode
    contradiction

theorem isFresh_emptyStore :
  emptyStore.IsFresh
  := State.isFresh_of_hosts hosts_emptyStore rfl

theorem isLawful_emptyStore :
  emptyStore.mint.IsLawful
  := Mint.isLawful_after 0

/-- A function with one name and one path, that has some lines of its file above it and some more
lines than one. -/
def feeFunction (above more : Nat) : Entity where
  role := .otherFunction
  path := "lib.rs"
  name := "fee"
  first := above + 1
  last := above + 1 + more
  id := ""
  enclosing := none
  one_le_first := Nat.le_add_left 1 above
  first_le_last := Nat.le_add_right (above + 1) more

theorem isClean_feeFunction (above more : Nat) :
  (feeFunction above more).IsClean
  := by
  have hunbroken : Document.Unbroken "lib.rs".toList ∧ Document.Unbroken "fee".toList := by
    simp [Document.Unbroken, Document.isBreak]
  have hnormal : IsNormal "lib.rs" ∧ IsNormal "fee" :=
    ⟨⟨hunbroken.1, by decide +kernel⟩, ⟨hunbroken.2, by decide +kernel⟩⟩
  constructor
  · apply hnormal.1
  · apply hnormal.2
  · exact ⟨fun _ hc => by contradiction, rfl⟩
  · intro a b h
    contradiction

end AnchorIndex.Store

import AnchorIndex.Fault
import AnchorIndex.Files.Disk
import AnchorIndex.Settings.Model

/-!
# Workspaces

The folder of a workspace holds the manifest of its programs, or the folder of the index. From any
folder inside, the workspace is the nearest folder around it that holds one of these
(`Workspace.find?`).
-/

namespace AnchorIndex.Workspace

open Files (Disk Place)

/-- What the folder of a workspace holds, one of these at least. -/
def markers : List String :=
  ["Anchor.toml", indexFolder]

/-- The folder at a place is that of a workspace. -/
def isWorkspace (disk : Disk) (place : Place) : Except Files.Refusal Bool :=
  markers.anyM fun m => disk.has (Files.joinPath (Files.pathOf place) m)

/-- A place and the places around it, the innermost first. -/
def around (place : Place) : List Place :=
  ((List.range (place.length + 1)).map (place.take ·)).reverse

/-- The place of the workspace around a place. -/
def find? (disk : Disk) (place : Place) : Except Files.Refusal (Option Place) :=
  (around place).findM? (isWorkspace disk)

/-- The places around a place are the beginnings of it. -/
theorem mem_around {p q : Place} :
  q ∈ around p ↔ q <+: p
  := by
  simp only [around, List.mem_reverse, List.mem_map, List.mem_range]
  constructor
  · rintro ⟨n, -, rfl⟩
    exact List.take_prefix n p
  · intro h
    exact ⟨q.length, Nat.lt_succ_of_le h.length_le, (List.prefix_iff_eq_take.1 h).symm⟩

/-- The place that a path means, through links as far as it is there. -/
def realPlace (disk : Disk) (path : String) : Except Failure Place :=
  match Files.isPath path, disk.tree.real (Place.ofText path) with
  | false, _ => .error (.refused .noPath)
  | true, .error stuck => .error (.linkLoop (Files.pathOf stuck))
  | true, .ok place => .ok place

/-- The path of the workspace around a path, which is reported as it was given. -/
def locate (disk : Disk) (path given : String) : Except Failure String := do
  let place ← realPlace disk path
  match find? disk place with
  | .error refusal => .error (.refused refusal)
  | .ok (some p) => return Files.pathOf p
  | .ok none =>
    .error (.usage
      ("Not inside an Anchor workspace: " ++ given ++
        "\nRun from a directory containing Anchor.toml, or run 'anchorscan init' first."))

end AnchorIndex.Workspace

/-!
# Folders that are not walked

Folders of version control, of build results, of dependency caches and of editors hold no sources
of the program, and neither does the folder of the index itself.
-/

namespace AnchorIndex.Files

/-- The names of folders that are not walked. -/
def prunedNames : List String :=
  [".git", ".svn", ".hg", ".anchorscan", "target", ".cargo", ".anchor", "test-ledger",
    "node_modules", ".yarn", ".pnpm-store", "dist", ".idea", ".vscode", "__pycache__"]

/-- A folder with this name is not walked. -/
def isPruned (name : String) : Bool :=
  prunedNames.contains name

end AnchorIndex.Files

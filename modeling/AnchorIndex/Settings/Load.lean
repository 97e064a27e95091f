import AnchorIndex.Settings.Environment
import AnchorIndex.Settings.User

/-!
# Loading settings

The settings of a workspace come from four sources: what is overridden, the environment, the file
of the user in the workspace, and the file for all workspaces. Their tables are merged, and the
earlier source wins. `Settings.load` merges the sources and checks the result.
-/

namespace AnchorIndex

/-- Where settings come from, besides the file in the workspace: the file for all workspaces with
its path, the environment, and what is overridden. -/
structure SettingsSources where
  commonPath : String
  common : Option Files.Content
  environment : Environment
  overrides : Datum

namespace SettingsSources

/-- The datum of the file for all workspaces, if it says anything. -/
def commonDatum? (s : SettingsSources) : Except Failure (Option Datum) :=
  match s.common with
  | none => .ok none
  | some content =>
    (readSettingsFile s.commonPath content).map fun d => if d.isEmpty then none else some d

/-- The settings of both files merged. The file for all workspaces has to be a table. -/
def filesMerged (common : Option Datum) (user : Datum) : Except Failure Datum :=
  match common with
  | none => .ok user
  | some d => if d.isTable then .ok (mergeDatum d user) else .error (.notTable d)

/-- The keys of a datum are texts. -/
def hasTextKeys : Datum → Bool
  | .mapping _ => false
  | _ => true

end SettingsSources

/-- The settings of a workspace. -/
def Settings.load (disk : Files.Disk) (sources : SettingsSources) : Except Failure Settings := do
  let user ← UserSettings.load disk (disk.path UserSettings.file)
  let common ← sources.commonDatum?
  let files ← SettingsSources.filesMerged common user.toSettings
  let environment ← sources.environment.read
  if common.all SettingsSources.hasTextKeys then
    Validation.asFault
      (Validation.strictSettings (mergeDatum files (mergeDatum environment sources.overrides)))
  else .error .keysNotText

end AnchorIndex

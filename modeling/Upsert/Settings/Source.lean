import Upsert.Settings.Files

/-!
# Where settings come from

Settings are given field by field, read from configuration files, read from files and then
from the environment, or read from the environment over base settings that come from any of
these. The records logged on the way are kept in order: those of the base first.
-/

namespace Upsert

/-- A source of settings. -/
inductive SettingsSource where
  /-- Given field by field, unchecked; the other fields keep their defaults. -/
  | given (fields : List (SettingsField × Value))
  /-- Read from configuration files: the one at the path, or the first found by the search. -/
  | files (dir : Folder) (path : Option Text)
  /-- Read from configuration files, then from the environment with the usual prefix. -/
  | filesThenEnvironment (dir : Folder) (path : Option Text) (env : List (Text × Text))
  /-- Read from the environment with a prefix, over base settings or the defaults. -/
  | environment (base : Option SettingsSource) (env : List (Text × Text)) (pre : Text)

namespace SettingsSource

/-- The settings of a source, with the records logged on the way. `usual` is the prefix of
environment variables when none is named. -/
def settings (sr : Search) (usual : Text) : SettingsSource → Logged Settings
  | .given fs => ⟨.ok (fs.foldl (fun s (f, v) => s.set f v) {}), []⟩
  | .files dir path => Settings.fromFiles sr dir path
  | .filesThenEnvironment dir path env => Settings.load sr dir path env usual
  | .environment Option.none env pre => Settings.fromEnvironment env {} pre
  | .environment (some b) env pre =>
    let first := settings sr usual b
    match first.result with
    | .ok s =>
      let second := Settings.fromEnvironment env s pre
      ⟨second.result, first.logs ++ second.logs⟩
    | .error e => ⟨.error e, first.logs⟩

end SettingsSource

end Upsert

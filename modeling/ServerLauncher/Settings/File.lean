import ServerLauncher.Settings.Document
import ServerLauncher.FileTree.Access

/-!
# The settings file

Settings are kept in a file. `Settings.load` reads it ; without a file the usual settings hold, and
a file that cannot be read or understood is an error (`SettingsError`).
-/

namespace ServerLauncher

/-- Why the settings file cannot be used. -/
inductive SettingsError where
  | unreadable (path : Path) (cause : SystemError)
  | invalid (path : Path) (text : String) (fault : Json.Fault)
  deriving Repr, DecidableEq

/-- What went wrong, and why, outermost first. -/
def SettingsError.messages : SettingsError → List String
  | .unreadable path cause => ["Failed to read config file " ++ path.quoted, cause.message]
  | .invalid path text fault =>
    ["Failed to parse config file " ++ path.quoted, fault.message text]

/-- The settings in the file `p`, or the usual ones if there is none. -/
def Settings.load (t : FileTree) (p : Path) : Except SettingsError Settings :=
  if t.exists? p then
    match t.readText p with
    | .error e => .error (.unreadable p e)
    | .ok text =>
      match Settings.ofDocument text with
      | .error f => .error (.invalid p text f)
      | .ok s => .ok s
  else .ok Settings.standard

end ServerLauncher

import ServerLauncher.Settings

/-!
# Environment

What the process finds around it : its environment variables, the home directory of its user and
the directory of its own program. From these follow the directory of the launcher's data
(`Environment.dataDir`) with the downloads, the settings and the log in it, and the development
build that debug mode launches (`Environment.debugOverride`).
-/

namespace ServerLauncher

/-- The surroundings of a process. A variable that is not set is `none`. -/
structure Environment where
  /-- The directory for user data. -/
  xdgDataHome : Option Bytes
  /-- The home directory, as the variable gives it. -/
  home : Option Bytes
  /-- The home directory that the user's account gives. -/
  accountHome : Path
  debugMode : Option Bytes
  /-- What the log shows. -/
  logFilter : Option Bytes
  /-- The directory that holds the launcher's own program. -/
  programDir : Path
  deriving Repr, DecidableEq

namespace Environment

/-- The value of a variable. -/
def lookup? (vars : List (Bytes × Bytes)) (name : String) : Option Bytes :=
  (vars.find? fun v => v.1 == Utf8.encode name).map Prod.snd

/-- The surroundings that the variables of a process give. -/
def ofVariables (vars : List (Bytes × Bytes)) (accountHome programDir : Path) :
    Environment where
  xdgDataHome := lookup? vars "XDG_DATA_HOME"
  home := lookup? vars "HOME"
  accountHome := accountHome
  debugMode := lookup? vars "DEBUG_MODE"
  logFilter := lookup? vars "RUST_LOG"
  programDir := programDir

/-- The home directory : the variable's, unless it is unset or empty. -/
def homeDir (env : Environment) : Path :=
  match env.home with
  | none => env.accountHome
  | some [] => env.accountHome
  | some bs => ⟨bs⟩

/-- The text of a variable that is set to one. -/
def text? (value : Option Bytes) : Option String :=
  value.bind Utf8.decode?

/-! ## The data directory -/

/-- The directory of the launcher's data below the user's data directory. That is `xdg` if it is a
nonempty text, else the usual place below the home directory, else the working directory. -/
def dataDirOf (xdg : Option String) (home : Option Path) : Path :=
  let base : Path :=
    match xdg, home with
    | some dir, home =>
      if dir.isEmpty then (home.map (·.join (.ofString ".local/share"))).getD (.ofString ".")
      else .ofString dir
    | none, some home => home.join (.ofString ".local/share")
    | none, none => .ofString "."
  base.join (.ofString "ruulang")

/-- The directory of the launcher's data. -/
def dataDir (env : Environment) : Path :=
  dataDirOf (text? env.xdgDataHome) (some env.homeDir)

/-- The usual directory of downloads. -/
def defaultCacheDir (env : Environment) : Path :=
  env.dataDir.join (.ofString "bin")

/-- The usual file of the settings. -/
def settingsPath (env : Environment) : Path :=
  env.dataDir.join (.ofString "config.json")

/-- The file of the log. -/
def logPath (env : Environment) : Path :=
  env.dataDir.join (.ofString "ruulang-launcher.log")

/-- The directory of downloads. -/
def cacheDir (env : Environment) (s : Settings) : Path :=
  s.cacheDir.getD env.defaultCacheDir

/-! ## Debug mode -/

/-- Debug mode is on for the value `true` and no other. -/
def debugModeEnabled (value : Option String) : Bool :=
  value == some "true"

/-- The development build ; a relative path starts from the launcher's own directory. -/
def debugBinaryPath (env : Environment) (s : Settings) : Path :=
  s.debugBinary.anchor env.programDir

/-- The development build, in debug mode. -/
def debugOverride (env : Environment) (s : Settings) : Option Path :=
  if debugModeEnabled (text? env.debugMode) then some (env.debugBinaryPath s) else none

/-- The working directory of a server : the workspace, or the home directory. -/
def serverDir (env : Environment) (workspace : Option Path) : Path :=
  workspace.getD env.homeDir

end Environment

end ServerLauncher

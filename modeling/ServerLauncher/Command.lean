import ServerLauncher.Command.Arguments
import ServerLauncher.Command.Breakdown
import ServerLauncher.Environment
import ServerLauncher.Log.Filter
import ServerLauncher.Process.Server
import ServerLauncher.ReleaseApi
import ServerLauncher.Resolution
import ServerLauncher.Settings.File

/-!
# The launcher as a command

`Launcher.run` is a whole run of the launcher : it reads the command line, makes sure of the log,
loads the settings and does what it was told to. Results go to standard output ; progress and errors
go elsewhere, so that nothing but a result is ever there. A run ends with an exit code (`ExitCode`),
which for a server that was run is the server's own.
-/

namespace ServerLauncher

/-! ## Failures -/

/-- Why a run fails. -/
inductive Failure where
  | logDirectory (dir : Path) (cause : SystemError)
  | settings (e : SettingsError)
  | cache (e : CacheError)
  | resolve (e : ResolveError)
  | spawn (e : SpawnError)
  deriving Repr, DecidableEq

namespace Failure

/-- What went wrong, and why, outermost first. -/
def messages : Failure → List String
  | .logDirectory dir e => ["Failed to create log directory " ++ dir.quoted, e.message]
  | .settings e => e.messages
  | .cache e => [e.message, e.cause.message]
  | .resolve (.cache e) => [e.message, e.cause.message]
  | .resolve e => [e.message]
  | .spawn e => e.messages

/-- A text with `indent` in front of each of its lines. -/
def indented (indent s : String) : String :=
  indent ++ String.intercalate ("\n" ++ indent) (s.splitOn "\n")

/-- The failure as it is told to the user. -/
def report (f : Failure) : String :=
  match f.messages with
  | [] => "Error: \n"
  | [m] => "Error: " ++ m ++ "\n"
  | m :: causes =>
    "Error: " ++ m ++ "\n\nCaused by:\n" ++
      String.intercalate "\n" (causes.map (indented "    ")) ++ "\n"

end Failure

/-! ## The tasks -/

/-- What the launcher finds when it is started. -/
structure Surroundings where
  env : Environment
  vars : List (Bytes × Bytes)
  input : Bytes
  web : Web
  machine : Machine
  target : Target
  /-- The number of the launcher's own process. -/
  processId : Nat
  /-- The place in the sources at which a log file is opened, as the build spells it. -/
  logPlace : String := ""

/-- How a run ends. -/
abbrev ExitCode := Nat

namespace Launcher

/-- The exit code of a run that did what it was told to. -/
def success : ExitCode := 0

/-- The exit code of a run that failed. -/
def failure : ExitCode := 1

/-- The exit code for a mistake on the command line. -/
def usage : ExitCode := 2

/-- The exit code of a breakdown. -/
def breakdown : ExitCode := 101

/-- The name and version of the launcher. -/
def versionLine : String := "ruulang-launcher 0.1.0\n"

/-- The resolver that the settings ask for, if their user agent can be sent. -/
def resolver? (s : Surroundings) (c : Settings) : Option Resolver :=
  (ReleaseApi.feed? s.web c.feed).map fun feed =>
    ⟨feed, ⟨s.env.cacheDir c, c.binaryName⟩, s.target, s.env.debugOverride c, true⟩

/-- A task's result : an exit code, unless it failed or broke down. -/
abbrev TaskResult := Except (Halt Failure) ExitCode

/-- Resolve, and write a failure to the log. -/
def resolveLogged (r : Resolver) : Act Event (Except (Halt Failure) Resolution) := do
  match ← r.resolve with
  | .ok resolution => return .ok resolution
  | .error .breakdown => return .error .breakdown
  | .error (.error e) => do
    Act.log .error .command s!"Failed to resolve server: {e.message}"
    return .error (.error (.resolve e))

/-- Print the server to launch. -/
def resolve (r : Resolver) (detach : Bool) : Act Event TaskResult :=
  (resolveLogged r).andThen fun resolution => do
    Act.print (resolution.path.display ++ "\n")
    match resolution.pendingRefresh, detach with
    | some current, false => r.refreshInBackground current
    | _, _ => pure ()
    return .ok success

/-- The servers newest first ; equally new ones stay in order. -/
def newestFirst (ss : List CachedServer) : List CachedServer :=
  ss.mergeSort fun a b => b.version.le a.version

/-- A line of the list of servers. -/
def listLine (s : CachedServer) : String :=
  s.version.tag ++ "\t" ++ s.path.display ++ "\n"

/-- Print the servers in the cache. -/
def list (r : Resolver) : Act Event TaskResult := do
  match ← r.cache.list with
  | .error e => return .error (.error (.cache e))
  | .ok ss => do
    Act.print (String.join ((newestFirst ss).map listLine))
    return .ok success

/-- Download the latest release if it is newer than the cache. -/
def update (r : Resolver) : Act Event TaskResult := do
  match ← r.cache.latest with
  | .error e => return .error (.error (.cache e))
  | .ok newest => do
    match ← r.refresh ((newest.map CachedServer.version).getD default) with
    | .error h => return .error (h.map .resolve)
    | .ok (.downloaded s) => do
      Act.print s!"Downloaded {s.version.tag} to {s.path.display}\n"
      return .ok success
    | .ok (.upToDate v) => do
      Act.print s!"Already up to date (latest release {v.tag})\n"
      return .ok success

/-- The exit code that passes on how a server ended. -/
def exitCodeOf (status : ExitStatus) : ExitCode :=
  match status with
  | .exited n => if n ≤ 255 then n else failure
  | .signaled _ => failure

/-- Run the server. The refresh, if one is pending, is done while the server works. When it
interrupts the launcher, the server is stopped, and all is well. -/
def runServer (s : Surroundings) (r : Resolver) (workspace : Option Path) :
    Act Event TaskResult :=
  (resolveLogged r).andThen fun resolution => do
    match ← Server.spawn s.machine resolution.path (s.env.serverDir workspace) s.vars
        s.input with
    | .error e => return .error (.error (.spawn e))
    | .ok server => do
      match resolution.pendingRefresh with
      | some current => r.refreshInBackground current
      | none => pure ()
      match ← server.wait with
      | (some status, _) => return .ok (exitCodeOf status)
      | (none, server) => do
        Act.log .info .command "Interrupted, shutting down server"
        server.stop
        return .ok success

/-- Do a task. -/
def perform (s : Surroundings) (r : Resolver) : Task → Act Event TaskResult
  | .resolve detach => resolve r detach
  | .list => list r
  | .update => update r
  | .run workspace => runServer s r workspace

/-! ## A whole run -/

/-- End a run half-way. -/
def breakDown {α : Type} (s : Surroundings) (b : Breakdown) :
    Act Event (Except (Halt Failure) α) := do
  Act.emit (.errorOutput (Utf8.encode (b.report s.logPlace s.processId)))
  return .error .breakdown

/-- Make sure of the log file and its filter. -/
def openLog (s : Surroundings) : Act Event (Except (Halt Failure) Unit) := do
  match ← Act.changeAnyway (·.createDirs s.env.dataDir) with
  | .error e => return .error (.error (.logDirectory s.env.dataDir e))
  | .ok () =>
    match ← Act.change (·.openForAppend s.env.logPath 0o644) with
    | .error e => breakDown s (.logFile e)
    | .ok () =>
      if (LogFilter.ofVariable? s.env.logFilter).isNone then breakDown s .logFilter
      else return .ok ()

/-- Load the settings, with the cache directory of the order in place of theirs. -/
def loadSettings (env : Environment) (o : Order) : Act Event (Except (Halt Failure) Settings) := do
  match ← Act.look fun t => Settings.load t (o.settingsPath.getD env.settingsPath) with
  | .error e => return .error (.error (.settings e))
  | .ok c => return .ok { c with cacheDir := o.cacheDir.or c.cacheDir }

/-- Carry out an order. -/
def carryOut (s : Surroundings) (o : Order) : Act Event TaskResult :=
  (openLog s).andThen fun _ =>
    (loadSettings s.env o).andThen fun c =>
      match resolver? s c with
      | none => breakDown s .userAgent
      | some r => perform s r o.task

/-- A run of the launcher. -/
def run (s : Surroundings) (arguments : List Bytes) : Act Event ExitCode :=
  match CommandLine.parse arguments with
  | .mistake => return usage
  | .help => return success
  | .version => do
    Act.print versionLine
    return success
  | .order o => do
    match ← carryOut s o with
    | .ok code => return code
    | .error .breakdown => return breakdown
    | .error (.error f) => do
      Act.emit (.errorOutput (Utf8.encode f.report))
      return failure

end Launcher

end ServerLauncher

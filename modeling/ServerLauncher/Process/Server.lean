import ServerLauncher.Process.Machine

/-!
# The server process

A server is started in a working directory with the launcher's own input and output
(`Server.spawn`). It runs when it is waited for (`Server.wait`) and does nothing more once it is
stopped (`Server.stop`). A server can interrupt the launcher while it works.
-/

namespace ServerLauncher

/-- A server that was started : its path, its working directory, what it runs with what, and its
end once that is known. -/
structure Server where
  path : Path
  dir : Path
  program : Program
  invocation : Invocation
  status : Option ExitStatus

/-- A server that could not be started. -/
structure SpawnError where
  path : Path
  cause : SystemError
  deriving Repr, DecidableEq

/-- What went wrong, and why. -/
def SpawnError.messages (e : SpawnError) : List String :=
  ["Failed to start server " ++ e.path.quoted, e.cause.message]

namespace Server

/-- The variable that tells a server what to write to its log, and what it is told. -/
def logVariable : Bytes × Bytes :=
  (Utf8.encode "RUST_LOG", Utf8.encode "debug")

/-- The variables of a server : those of the launcher, with the server's own log level. -/
def vars (inherited : List (Bytes × Bytes)) : List (Bytes × Bytes) :=
  inherited.filter (fun v => v.1 != logVariable.1) ++ [logVariable]

/-- Find the program for a server that is started in `dir`. -/
def loadIn (m : Machine) (t : FileTree) (path dir : Path) :
    Except SystemError (Program × List Bytes) :=
  if path.bytes.contains 0 || dir.bytes.contains 0 then .error .nulInCommand
  else
    match t.find dir with
    | .error e => .error e
    | .ok (d, .dir) => m.find (t.within d) path
    | .ok _ => .error .notADirectory

/-- Start a server. -/
def spawn (m : Machine) (path dir : Path) (inherited : List (Bytes × Bytes)) (input : Bytes) :
    Act Event (Except SpawnError Server) := do
  Act.log .info .server s!"Starting server {path.quoted} in {dir.quoted}"
  match ← Act.look fun t => loadIn m t path dir with
  | .error e => return .error ⟨path, e⟩
  | .ok (program, arguments) =>
    return .ok ⟨path, dir, program, ⟨arguments, vars inherited, input⟩, none⟩

/-- Do something with another working directory. -/
def runIn {α : Type} (dir : Path) (x : Act Event α) : Act Event α :=
  ⟨fun t =>
    match t.find dir with
    | .ok (d, .dir) =>
      let o := x.run (t.within d)
      { o with tree := o.tree.within t.workDir }
    | _ => x.run t⟩

/-- Let a server run, if it has not ended yet. -/
def finish (s : Server) : Act Event Course :=
  match s.status with
  | some status => return .ends status
  | none => runIn s.dir (s.program s.invocation)

/-- Wait for a server to end on its own. There is no status if it interrupts the launcher instead
and works on. -/
def wait (s : Server) : Act Event (Option ExitStatus × Server) := do
  match ← s.finish with
  | .interrupts => return (none, s)
  | .ends status => do
    Act.log .info .server s!"Server {s.path.quoted} exited with {status.text}"
    return (some status, { s with status := some status })

/-- End a server. -/
def stop (s : Server) : Act Event Unit :=
  Act.log .info .server s!"Stopping server {s.path.quoted}"

/-- A server has not ended yet. -/
def isRunning (s : Server) : Bool :=
  s.status.isNone

end Server

end ServerLauncher

/-!
# Targets

The machine a server is built for. `Arch.ofName` and `System.ofName` read the usual names of the
processor and of the operating system ; every other name is `unknown`. `Target.triple` is the key
by which a release names the machine, and `Target.assetName` the name of the file that holds a
program for it.
-/

namespace ServerLauncher

/-- A processor architecture. -/
inductive Arch where
  | aarch64
  | x86_64
  | unknown
  deriving Repr, DecidableEq

/-- The architecture of a processor name. -/
def Arch.ofName : String → Arch
  | "aarch64" => .aarch64
  | "x86_64" => .x86_64
  | _ => .unknown

/-- The architecture as it stands in a triple. -/
def Arch.text : Arch → String
  | .aarch64 => "aarch64"
  | .x86_64 => "x86_64"
  | .unknown => "unknown"

/-- An operating system with its vendor and binary interface. -/
inductive System where
  | appleDarwin
  | linuxGnu
  | unknown
  deriving Repr, DecidableEq

/-- The system of an operating system name. -/
def System.ofName : String → System
  | "macos" => .appleDarwin
  | "linux" => .linuxGnu
  | _ => .unknown

/-- The system as it stands in a triple. -/
def System.text : System → String
  | .appleDarwin => "apple-darwin"
  | .linuxGnu => "unknown-linux-gnu"
  | .unknown => "unknown"

/-- A machine that servers are built for. A machine nobody builds for has a triple too, with
`unknown` in it. -/
structure Target where
  arch : Arch
  system : System
  deriving Repr, DecidableEq

namespace Target

/-- The target of a processor name and an operating system name. -/
def ofNames (arch system : String) : Target :=
  ⟨Arch.ofName arch, System.ofName system⟩

/-- Architecture and system with a dash between them. -/
def triple (t : Target) : String :=
  t.arch.text ++ "-" ++ t.system.text

instance : ToString Target := ⟨triple⟩

/-- The name under which a release holds the program `binary` for this target. -/
def assetName (t : Target) (binary : String) : String :=
  binary ++ "." ++ t.triple

end Target

end ServerLauncher

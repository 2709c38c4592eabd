import ServerLauncher.Version
import ServerLauncher.Target

/-!
# Releases

What the feed publishes : a tag and the files attached to it. `Release.version?` is the version
the tag names, and `Release.selectAsset` picks the file that holds a program for a target, which
is the first one of exactly that name.
-/

namespace ServerLauncher

/-- A file attached to a release, and where to get it. -/
structure Asset where
  name : String
  url : String
  deriving Repr, DecidableEq

/-- A published release. -/
structure Release where
  tag : String
  assets : List Asset
  deriving Repr, DecidableEq

/-- No file of the release has the name that the target asks for. -/
structure MissingAsset where
  triple : String
  asset : String
  deriving Repr, DecidableEq

/-- The error in words. -/
def MissingAsset.message (e : MissingAsset) : String :=
  "No release asset " ++ e.asset ++ " for platform " ++ e.triple

namespace Release

/-- The version that the tag names. -/
def version? (r : Release) : Option Version :=
  Version.parse? r.tag

/-- The first file called `name`. -/
def findAsset? (r : Release) (name : String) : Option Asset :=
  r.assets.find? fun a => a.name == name

/-- The file that holds the program `binary` for `target`. -/
def selectAsset (r : Release) (binary : String) (target : Target) : Except MissingAsset Asset :=
  match r.findAsset? (target.assetName binary) with
  | some a => .ok a
  | none => .error ⟨target.triple, target.assetName binary⟩

end Release

end ServerLauncher

import ServerLauncher.Settings
import ServerLauncher.Json.Record

/-!
# Settings documents

Settings are written as a JSON document. A field that is not there keeps its usual value, also
inside of `feed` ; `cacheDir` may be `null`, and unknown fields are skipped
(`Settings.ofDocument`).
-/

namespace ServerLauncher

open Json

namespace FeedSettings

/-- The values of the feed's settings that were read so far. -/
structure Parts where
  apiUrl : Option String := none
  repoOwner : Option String := none
  repoName : Option String := none
  userAgent : Option String := none

/-- The settings with the usual value for each one that was not read. -/
def ofParts (p : Parts) : FeedSettings where
  apiUrl := p.apiUrl.getD standard.apiUrl
  repoOwner := p.repoOwner.getD standard.repoOwner
  repoName := p.repoName.getD standard.repoName
  userAgent := p.userAgent.getD standard.userAgent

/-- The feed's settings in a document. -/
def schema : Schema Parts FeedSettings where
  name := "struct FeedConfig"
  fields := [
    ⟨"apiUrl", fun p => p.apiUrl.isSome, fun p c =>
      (readText "a string" c).map fun r => ({ p with apiUrl := some r.1 }, r.2)⟩,
    ⟨"repoOwner", fun p => p.repoOwner.isSome, fun p c =>
      (readText "a string" c).map fun r => ({ p with repoOwner := some r.1 }, r.2)⟩,
    ⟨"repoName", fun p => p.repoName.isSome, fun p c =>
      (readText "a string" c).map fun r => ({ p with repoName := some r.1 }, r.2)⟩,
    ⟨"userAgent", fun p => p.userAgent.isSome, fun p c =>
      (readText "a string" c).map fun r => ({ p with userAgent := some r.1 }, r.2)⟩]
  empty := {}
  ofObject p := .ok (ofParts p)
  ofList _ p := .ok (ofParts p)

end FeedSettings

namespace Settings

/-- The values of the settings that were read so far. -/
structure Parts where
  binaryName : Option String := none
  cacheDir : Option (Option Path) := none
  debugBinary : Option Path := none
  feed : Option FeedSettings := none

/-- The settings with the usual value for each one that was not read. -/
def ofParts (p : Parts) : Settings where
  binaryName := p.binaryName.getD standard.binaryName
  cacheDir := p.cacheDir.getD standard.cacheDir
  debugBinary := p.debugBinary.getD standard.debugBinary
  feed := p.feed.getD standard.feed

/-- A path is written as a string. -/
def readPath : Reader Path := fun c =>
  (readText "path string" c).map fun r => (Path.ofString r.1, r.2)

/-- The settings in a document. -/
def schema : Schema Parts Settings where
  name := "struct LauncherConfig"
  fields := [
    ⟨"binaryName", fun p => p.binaryName.isSome, fun p c =>
      (readText "a string" c).map fun r => ({ p with binaryName := some r.1 }, r.2)⟩,
    ⟨"cacheDir", fun p => p.cacheDir.isSome, fun p c =>
      (readNullable readPath c).map fun r => ({ p with cacheDir := some r.1 }, r.2)⟩,
    ⟨"debugBinary", fun p => p.debugBinary.isSome, fun p c =>
      (readPath c).map fun r => ({ p with debugBinary := some r.1 }, r.2)⟩,
    ⟨"feed", fun p => p.feed.isSome, fun p c =>
      (FeedSettings.schema.read c).map fun r => ({ p with feed := some r.1 }, r.2)⟩]
  empty := {}
  ofObject p := .ok (ofParts p)
  ofList _ p := .ok (ofParts p)

/-- The settings that a document describes. -/
def ofDocument (text : String) : Except Fault Settings :=
  readDocument schema.read text

end Settings

end ServerLauncher

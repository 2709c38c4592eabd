import ServerLauncher.Release
import ServerLauncher.Json.Record

/-!
# Release documents

The feed describes a release by a JSON document with a `tag_name` and a list of `assets`, each of
them with a `name` and a `url` ; all four are required, and other fields are skipped
(`Release.ofDocument`).
-/

namespace ServerLauncher

open Json

namespace Asset

/-- The values of an asset that were read so far. -/
structure Parts where
  name : Option String := none
  url : Option String := none

/-- An asset in a document. -/
def schema : Schema Parts Asset where
  name := "struct ReleaseAsset"
  fields := [
    ⟨"name", fun p => p.name.isSome, fun p c =>
      (readText "a string" c).map fun r => ({ p with name := some r.1 }, r.2)⟩,
    ⟨"url", fun p => p.url.isSome, fun p c =>
      (readText "a string" c).map fun r => ({ p with url := some r.1 }, r.2)⟩]
  empty := {}
  ofObject
    | ⟨none, _⟩ => .error (.missingField "name")
    | ⟨some _, none⟩ => .error (.missingField "url")
    | ⟨some name, some url⟩ => .ok ⟨name, url⟩
  ofList
    | _, ⟨some name, some url⟩ => .ok ⟨name, url⟩
    | n, _ => .error (.invalidLength n "struct ReleaseAsset with 2 elements")

end Asset

namespace Release

/-- The values of a release that were read so far. -/
structure Parts where
  tag : Option String := none
  assets : Option (List Asset) := none

/-- A release in a document. -/
def schema : Schema Parts Release where
  name := "struct ReleaseMetadata"
  fields := [
    ⟨"tag_name", fun p => p.tag.isSome, fun p c =>
      (readText "a string" c).map fun r => ({ p with tag := some r.1 }, r.2)⟩,
    ⟨"assets", fun p => p.assets.isSome, fun p c =>
      (readList Asset.schema.read c).map fun r => ({ p with assets := some r.1 }, r.2)⟩]
  empty := {}
  ofObject
    | ⟨none, _⟩ => .error (.missingField "tag_name")
    | ⟨some _, none⟩ => .error (.missingField "assets")
    | ⟨some tag, some assets⟩ => .ok ⟨tag, assets⟩
  ofList
    | _, ⟨some tag, some assets⟩ => .ok ⟨tag, assets⟩
    | n, _ => .error (.invalidLength n "struct ReleaseMetadata with 2 elements")

/-- The release that a document describes. -/
def ofDocument (text : String) : Except Fault Release :=
  readDocument schema.read text

end Release

end ServerLauncher

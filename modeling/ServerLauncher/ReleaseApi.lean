import ServerLauncher.Web
import ServerLauncher.Feed
import ServerLauncher.Release.Document
import ServerLauncher.Settings

/-!
# Releases on the web

A feed that asks a web interface for the latest release of a repository and downloads the files of
releases (`ReleaseApi.feed?`). Only an answer with a success status and a complete body counts. The
release document is read as UTF-8, with U+FFFD for what is none ; a downloaded file is taken as it
is.
-/

namespace ServerLauncher.ReleaseApi

/-- The address of the latest release. Slashes at the end of the interface's own address do not
count. -/
def latestUrl (s : FeedSettings) : String :=
  String.ofList (s.apiUrl.toList.reverse.dropWhile (· == '/')).reverse ++
    "/repos/" ++ s.repoOwner ++ "/" ++ s.repoName ++ "/releases/latest"

/-- The kind of document that a release is. -/
def documentType : String := "application/vnd.github+json"

/-- The kind of document that a file is. -/
def contentType : String := "application/octet-stream"

/-- A byte that can stand in a header of a request. -/
def isHeaderByte (b : UInt8) : Bool :=
  b == 0x09 || (0x20 ≤ b && b != 0x7f)

/-- The reason that an answer without success gives. -/
def unexpectedStatus (code : Nat) : String :=
  "Unexpected status: " ++ statusText code

/-- Read a release document. -/
def readDocument (bs : Bytes) : Act FeedEvent (Except (Halt FeedError) Release) :=
  let text := Utf8.decodeLossy bs
  match Release.ofDocument text with
  | .ok r => return .ok r
  | .error f => do
    Act.feedLog .warn s!"Failed to parse latest release response: {f.message text}"
    return .error (.error (.malformed (f.message text)))

/-- Ask for the latest release at an address. -/
def fetchLatest (web : Web) (userAgent : Bytes) (url : String) :
    Act FeedEvent (Except (Halt FeedError) Release) := do
  Act.feedLog .debug s!"Fetching latest release from {url}"
  match ← web.fetch ⟨documentType, userAgent⟩ url with
  | .error e => return .error (.error (.unavailable e.message))
  | .ok f =>
    if isSuccess f.response.status then
      match f.body with
      | .error e => return .error (.error (.unavailable e.message))
      | .ok bs => readDocument bs
    else do
      Act.feedLog .warn s!"GitHub API returned status {statusText f.response.status}: {url}"
      return .error (.error (.unavailable (unexpectedStatus f.response.status)))

/-- Download a file of a release. -/
def fetchContent (web : Web) (userAgent : Bytes) (a : Asset) :
    Act FeedEvent (Except (Halt FeedError) Bytes) := do
  Act.feedLog .debug s!"Downloading asset {a.name} from {a.url}"
  match ← web.fetch ⟨contentType, userAgent⟩ a.url with
  | .error e => return .error (.error (.assetUnavailable a.name e.message))
  | .ok f =>
    if isSuccess f.response.status then
      match f.body with
      | .error e => return .error (.error (.assetUnavailable a.name e.message))
      | .ok bs => do
        Act.feedLog .debug s!"Downloaded {bs.length} bytes for {a.name}"
        return .ok bs
    else do
      Act.feedLog .warn
        s!"Asset download returned status {statusText f.response.status}: {a.url}"
      return .error (.error (.assetUnavailable a.name (unexpectedStatus f.response.status)))

/-- The feed that the settings name. There is none if the user agent cannot stand in a header. -/
def feed? (web : Web) (s : FeedSettings) : Option Feed :=
  let userAgent := Utf8.encode s.userAgent
  if userAgent.all isHeaderByte then
    some ⟨fetchLatest web userAgent (latestUrl s), fetchContent web userAgent⟩
  else none

end ServerLauncher.ReleaseApi
